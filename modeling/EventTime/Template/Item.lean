import EventTime.Template.Field

namespace EventTime

-- Why a text is no template. Positions count characters from 0.
inductive Template.Fault where
  | unterminatedQuote (position : Nat)
  | unknownLetter (letter : Char) (position : Nat)
  | isoOffsetWidth (width : Nat)
  deriving DecidableEq, Repr

def Template.Fault.message : Template.Fault → String
  | .unterminatedQuote position => s!"unterminated quote starting at position {position}"
  | .unknownLetter letter position =>
    s!"illegal pattern letter '{letter}' at position {position}"
  | .isoOffsetWidth width => s!"ISO offset field 'X' accepts at most 3 letters, got {width}"

-- The parts that the text of a template is made of.
-- A quote is written twice, inside a quoted text as well as alone.
inductive Item where
  | quote
  | quoted (text : List Char)
  | run (letter : Char) (field : Field) (width : Nat)
  | plain (char : Char)
  deriving DecidableEq, Repr

namespace Item

-- Every quote of a text twice.
def doubleQuotes (text : List Char) : List Char :=
  text.flatMap fun c => if c = '\'' then ['\'', '\''] else [c]

-- The item as it is written.
def source : Item → List Char
  | quote => ['\'', '\'']
  | quoted text => '\'' :: doubleQuotes text ++ ['\'']
  | run letter _ width => List.replicate width letter
  | plain char => [char]

-- The text up to the closing quote, and what follows that quote.
def readQuoted? : List Char → Option (List Char × List Char)
  | [] => none
  | '\'' :: '\'' :: rest => (readQuoted? rest).map fun (text, later) => ('\'' :: text, later)
  | '\'' :: rest => some ([], rest)
  | c :: rest => (readQuoted? rest).map fun (text, later) => (c :: text, later)

-- The item that a quote at `position` begins, and what follows it.
def readQuote (position : Nat) (rest : List Char) : Except Template.Fault (Item × List Char) :=
  if rest.head? = some '\'' then .ok (.quote, rest.drop 1)
  else
    match readQuoted? rest with
    | some (text, later) => .ok (.quoted text, later)
    | none => .error (.unterminatedQuote position)

-- The run of one letter that begins at `position`, and what follows it.
def readRun (position : Nat) (letter : Char) (rest : List Char) :
    Except Template.Fault (Item × List Char) :=
  match Field.ofLetter? letter with
  | none => .error (.unknownLetter letter position)
  | some field =>
    let width := (rest.takeWhile (· = letter)).length + 1
    if field = .isoOffset ∧ 3 < width then .error (.isoOffsetWidth width)
    else .ok (.run letter field width, rest.dropWhile (· = letter))

-- The item that begins with the character `c` at `position`, and what follows it.
-- The letters are those of ASCII. Every other character but a quote stands for itself.
def read (position : Nat) (c : Char) (rest : List Char) :
    Except Template.Fault (Item × List Char) :=
  if c = '\'' then readQuote position rest
  else if c.isAlpha then readRun position c rest
  else .ok (.plain c, rest)

theorem readQuoted?_length_le (source : List Char) (text later : List Char)
    (h : readQuoted? source = some (text, later)) : later.length ≤ source.length := by
  fun_induction readQuoted? source generalizing text later with
  | case1 => simp at h
  | case2 rest ih =>
    obtain ⟨⟨text', later'⟩, hread, he⟩ := Option.map_eq_some_iff.mp h
    simp only [Prod.mk.injEq] at he
    have := ih text' later' hread
    rw [← he.2]
    simp only [List.length_cons]
    omega
  | case3 rest =>
    simp only [Option.some.injEq, Prod.mk.injEq] at h
    rw [← h.2]
    exact Nat.le_succ _
  | case4 c rest _ _ ih =>
    obtain ⟨⟨text', later'⟩, hread, he⟩ := Option.map_eq_some_iff.mp h
    simp only [Prod.mk.injEq] at he
    have := ih text' later' hread
    rw [← he.2]
    simp only [List.length_cons]
    omega

theorem readQuote_length_le (position : Nat) (rest : List Char) (item : Item) (later : List Char)
    (h : readQuote position rest = .ok (item, later)) : later.length ≤ rest.length := by
  unfold readQuote at h
  split at h
  · cases h
    simp only [List.length_drop]
    omega
  · split at h
    · rename_i text after hread
      cases h
      exact readQuoted?_length_le rest text later hread
    · cases h

theorem readRun_length_le (position : Nat) (letter : Char) (rest : List Char) (item : Item)
    (later : List Char) (h : readRun position letter rest = .ok (item, later)) :
    later.length ≤ rest.length := by
  unfold readRun at h
  split at h
  · cases h
  · dsimp only at h
    split at h
    · cases h
    · cases h
      exact (List.dropWhile_suffix _).length_le

theorem read_length_le (position : Nat) (c : Char) (rest : List Char) (item : Item)
    (later : List Char) (h : read position c rest = .ok (item, later)) :
    later.length ≤ rest.length := by
  unfold read at h
  split at h
  · exact readQuote_length_le position rest item later h
  · split at h
    · exact readRun_length_le position c rest item later h
    · cases h
      exact Nat.le_refl _

-- Cuts a text into items from the left.
-- The first fault ends it.
def readAll (position : Nat) : List Char → Except Template.Fault (List Item)
  | [] => .ok []
  | c :: rest =>
    match h : read position c rest with
    | .error fault => .error fault
    | .ok (item, later) =>
      have := read_length_le position c rest item later h
      (readAll (position + item.source.length) later).map (item :: ·)
termination_by source => source.length
decreasing_by simp only [List.length_cons]; omega

end Item

end EventTime
