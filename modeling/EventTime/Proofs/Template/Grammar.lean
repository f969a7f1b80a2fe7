import EventTime.Template.Item

-- The grammar of templates, apart from any way to read them,
-- and how the reading of items fits it.
namespace EventTime

theorem Field.eq_letter_of_ofLetter? (letter : Char) (field : Field)
    (hfield : ofLetter? letter = some field) :
    letter = field.letter ∨ field = month ∧ letter = 'L' := by
  unfold ofLetter? at hfield
  split at hfield <;> cases hfield <;> first | exact .inl rfl | exact .inr ⟨rfl, rfl⟩

namespace Item

-- How a text is written between two quotes: a quote twice, every other character once.
inductive Units : List Char → List Char → Prop where
  | nil : Units [] []
  | char {written text : List Char} (c : Char) (hc : c ≠ '\'') (hunits : Units written text) :
      Units (c :: written) (c :: text)
  | quote {written text : List Char} (hunits : Units written text) :
      Units ('\'' :: '\'' :: written) ('\'' :: text)

-- An item at the start of a text, and what follows it.
-- A run takes in all letters of its kind, and a quote beside a quote never opens or closes.
inductive Starts : List Char → Item → List Char → Prop where
  | quote (rest : List Char) : Starts ('\'' :: '\'' :: rest) .quote rest
  | quoted (written text rest : List Char) (hopen : written.head? ≠ some '\'')
      (hne : written ≠ []) (hunits : Units written text) (hclose : rest.head? ≠ some '\'') :
      Starts ('\'' :: written ++ '\'' :: rest) (.quoted text) rest
  | run (letter : Char) (field : Field) (width : Nat) (rest : List Char)
      (hletter : letter.isAlpha = true) (hfield : Field.ofLetter? letter = some field)
      (hwidth : 1 ≤ width) (hoffset : letter = 'X' → width ≤ 3)
      (hend : rest.head? ≠ some letter) :
      Starts (List.replicate width letter ++ rest) (.run letter field width) rest
  | plain (c : Char) (rest : List Char) (hquote : c ≠ '\'') (hletter : c.isAlpha = false) :
      Starts (c :: rest) (.plain c) rest

-- Items one after another at the start of a text, and what follows them.
inductive Cut : List Char → List Item → List Char → Prop where
  | nil (rest : List Char) : Cut rest [] rest
  | cons {source later rest : List Char} {item : Item} {items : List Item}
      (hitem : Starts source item later) (hitems : Cut later items rest) :
      Cut source (item :: items) rest

end Item

open Item

-- What is wrong at the start of a text that stands at a position of a template.
inductive Template.Fault.At (position : Nat) : List Char → Template.Fault → Prop where
  | unterminatedQuote (rest : List Char) (hopen : rest.head? ≠ some '\'')
      (hclose : ∀ written text later, Units written text → rest = written ++ '\'' :: later →
        later.head? = some '\'') :
      At position ('\'' :: rest) (.unterminatedQuote position)
  | unknownLetter (letter : Char) (rest : List Char) (hletter : letter.isAlpha = true)
      (hfield : Field.ofLetter? letter = none) :
      At position (letter :: rest) (.unknownLetter letter position)
  | isoOffsetWidth (width : Nat) (rest : List Char) (hwidth : 3 < width)
      (hend : rest.head? ≠ some 'X') :
      At position (List.replicate width 'X' ++ rest) (.isoOffsetWidth width)

namespace Item

theorem units_iff (written text : List Char) :
    Units written text ↔ written = doubleQuotes text := by
  constructor
  · intro hunits
    induction hunits with
    | nil => rfl
    | char c hc hunits ih => simp only [doubleQuotes, List.flatMap_cons, if_neg hc, ih]; rfl
    | quote hunits ih => simp only [doubleQuotes, List.flatMap_cons, if_true, ih]; rfl
  · rintro rfl
    induction text with
    | nil => exact .nil
    | cons c text ih =>
        by_cases hc : c = '\''
        · subst hc
          exact .quote ih
        · simp only [doubleQuotes, List.flatMap_cons, if_neg hc]
          exact .char c hc ih

theorem readQuoted?_of_units (written text later : List Char) (hunits : Units written text)
    (hclose : later.head? ≠ some '\'') :
    readQuoted? (written ++ '\'' :: later) = some (text, later) := by
  induction hunits with
  | nil =>
      cases later with
      | nil => rfl
      | cons c rest =>
          have hc : c ≠ '\'' := by simpa using hclose
          simp [readQuoted?, hc]
  | char c hc hunits ih => simp [readQuoted?, hc, ih]
  | quote hunits ih => simp [readQuoted?, ih]

theorem units_of_readQuoted? (source text later : List Char)
    (hread : readQuoted? source = some (text, later)) :
    ∃ written, Units written text ∧ source = written ++ '\'' :: later ∧
      later.head? ≠ some '\'' := by
  fun_induction readQuoted? source generalizing text later with
  | case1 => cases hread
  | case2 rest ih =>
      obtain ⟨⟨inner, _⟩, hrest, heq⟩ := Option.map_eq_some_iff.mp hread
      cases heq
      obtain ⟨written, hunits, rfl, hclose⟩ := ih inner later hrest
      exact ⟨_, .quote hunits, rfl, hclose⟩
  | case3 rest hnext =>
      cases hread
      refine ⟨[], .nil, rfl, ?_⟩
      intro hhead
      obtain ⟨tail, rfl⟩ := List.head?_eq_some_iff.mp hhead
      exact hnext tail rfl
  | case4 c rest _ hc ih =>
      obtain ⟨⟨inner, _⟩, hrest, heq⟩ := Option.map_eq_some_iff.mp hread
      cases heq
      obtain ⟨written, hunits, rfl, hclose⟩ := ih inner later hrest
      exact ⟨_, .char c hc hunits, rfl, hclose⟩

theorem readQuoted?_eq_some_iff (source text later : List Char) :
    readQuoted? source = some (text, later) ↔
      ∃ written, Units written text ∧ source = written ++ '\'' :: later ∧
        later.head? ≠ some '\'' := by
  constructor
  · exact units_of_readQuoted? source text later
  · rintro ⟨written, hunits, rfl, hclose⟩
    exact readQuoted?_of_units written text later hunits hclose

-- A quoted text stays open if each quote in it stands beside another.
theorem readQuoted?_eq_none_iff (source : List Char) :
    readQuoted? source = none ↔
      ∀ written text later, Units written text → source = written ++ '\'' :: later →
        later.head? = some '\'' := by
  constructor
  · rintro hnone written text later hunits rfl
    by_cases hclose : later.head? = some '\''
    · exact hclose
    · rw [readQuoted?_of_units written text later hunits hclose] at hnone
      cases hnone
  · intro hopen
    cases hread : readQuoted? source with
    | none => rfl
    | some pair =>
        obtain ⟨written, hunits, hsource, hclose⟩ :=
          (readQuoted?_eq_some_iff source pair.1 pair.2).mp hread
        exact absurd (hopen written pair.1 pair.2 hunits hsource) hclose

theorem eq_of_mem_takeWhile (letter : Char) (text : List Char) (c : Char)
    (hc : c ∈ text.takeWhile (· = letter)) : c = letter := by
  simpa using List.all_eq_true.mp List.all_takeWhile c hc

theorem head?_dropWhile_ne (letter : Char) (text : List Char) :
    (text.dropWhile (· = letter)).head? ≠ some letter := by
  intro hhead
  have hnot := List.head?_dropWhile_not (· = letter) text
  rw [hhead] at hnot
  simp at hnot

-- A run of a letter is as long as there are such letters.
theorem run_eq_iff (letter : Char) (rest : List Char) (width : Nat) (later : List Char) :
    (letter :: rest = List.replicate (width + 1) letter ++ later ∧ later.head? ≠ some letter) ↔
      width = (rest.takeWhile (· = letter)).length ∧ later = rest.dropWhile (· = letter) := by
  constructor
  · rintro ⟨hrun, hend⟩
    rw [List.replicate_succ, List.cons_append, List.cons.injEq] at hrun
    have hall : ∀ c ∈ List.replicate width letter, decide (c = letter) = true := by
      intro c hc
      simpa using List.eq_of_mem_replicate hc
    have htake : later.takeWhile (· = letter) = [] ∧ later.dropWhile (· = letter) = later := by
      cases later with
      | nil => exact ⟨rfl, rfl⟩
      | cons c tail =>
          have hc : c ≠ letter := by simpa using hend
          simp [hc]
    rw [hrun.2, List.takeWhile_append_of_pos hall, List.dropWhile_append_of_pos hall, htake.1,
      htake.2, List.append_nil, List.length_replicate]
    exact ⟨rfl, rfl⟩
  · rintro ⟨rfl, rfl⟩
    have htake : rest.takeWhile (· = letter) =
        List.replicate (rest.takeWhile (· = letter)).length letter := by
      rw [List.eq_replicate_iff]
      exact ⟨rfl, eq_of_mem_takeWhile letter rest⟩
    refine ⟨?_, head?_dropWhile_ne letter rest⟩
    rw [List.replicate_succ, List.cons_append, ← htake, List.takeWhile_append_dropWhile]

theorem eq_X_of_ofLetter?_eq_isoOffset (letter : Char)
    (hfield : Field.ofLetter? letter = some .isoOffset) : letter = 'X' := by
  rcases Field.eq_letter_of_ofLetter? letter _ hfield with hletter | ⟨hmonth, -⟩
  · exact hletter
  · cases hmonth

theorem ne_quote_of_isAlpha (c : Char) (hletter : c.isAlpha = true) : c ≠ '\'' := by
  rintro rfl
  cases hletter

-- What is read begins the text by the grammar.
theorem starts_of_readQuote (position : Nat) (rest : List Char) (item : Item) (later : List Char)
    (hread : readQuote position rest = .ok (item, later)) : Starts ('\'' :: rest) item later := by
  unfold readQuote at hread
  split at hread
  · rename_i hhead
    obtain ⟨tail, rfl⟩ := List.head?_eq_some_iff.mp hhead
    cases hread
    exact .quote tail
  · rename_i hopen
    split at hread
    · rename_i text behind hquoted
      cases hread
      obtain ⟨written, hunits, rfl, hclose⟩ := (readQuoted?_eq_some_iff rest text later).mp hquoted
      cases written with
      | nil => exact absurd rfl hopen
      | cons c tail => exact .quoted (c :: tail) text later hopen (by simp) hunits hclose
    · cases hread

theorem starts_of_readRun (position : Nat) (letter : Char) (rest : List Char) (item : Item)
    (later : List Char) (hletter : letter.isAlpha = true)
    (hread : readRun position letter rest = .ok (item, later)) :
    Starts (letter :: rest) item later := by
  unfold readRun at hread
  split at hread
  · cases hread
  · rename_i field hfield
    dsimp only at hread
    split at hread
    · cases hread
    · rename_i hwidth
      cases hread
      obtain ⟨hrun, hend⟩ := (run_eq_iff letter rest _ _).mpr ⟨rfl, rfl⟩
      rw [hrun]
      refine .run letter field _ _ hletter hfield (Nat.le_add_left 1 _) ?_ hend
      rintro rfl
      cases hfield
      have hnarrow := not_and.mp hwidth rfl
      omega

theorem starts_of_read (position : Nat) (c : Char) (rest : List Char) (item : Item)
    (later : List Char) (hread : read position c rest = .ok (item, later)) :
    Starts (c :: rest) item later := by
  unfold read at hread
  split at hread
  · rename_i hquote
    rw [hquote]
    exact starts_of_readQuote position rest item later hread
  · rename_i hquote
    split at hread
    · rename_i hletter
      exact starts_of_readRun position c rest item later hletter hread
    · rename_i hletter
      cases hread
      exact .plain c rest hquote (Bool.eq_false_iff.mpr hletter)

-- What is refused is wrong by the grammar, in the way that is told.
theorem at_of_readQuote (position : Nat) (rest : List Char) (fault : Template.Fault)
    (hread : readQuote position rest = .error fault) : fault.At position ('\'' :: rest) := by
  unfold readQuote at hread
  split at hread
  · cases hread
  · rename_i hopen
    split at hread
    · cases hread
    · rename_i hnone
      cases hread
      exact .unterminatedQuote rest hopen ((readQuoted?_eq_none_iff rest).mp hnone)

theorem at_of_readRun (position : Nat) (letter : Char) (rest : List Char)
    (fault : Template.Fault) (hletter : letter.isAlpha = true)
    (hread : readRun position letter rest = .error fault) :
    fault.At position (letter :: rest) := by
  unfold readRun at hread
  split at hread
  · rename_i hfield
    cases hread
    exact .unknownLetter letter rest hletter hfield
  · rename_i field hfield
    dsimp only at hread
    split at hread
    · rename_i hwidth
      cases hread
      obtain ⟨rfl, hwidth⟩ := hwidth
      obtain rfl := eq_X_of_ofLetter?_eq_isoOffset letter hfield
      obtain ⟨hrun, hend⟩ := (run_eq_iff 'X' rest _ _).mpr ⟨rfl, rfl⟩
      rw [hrun]
      exact .isoOffsetWidth _ _ hwidth hend
    · cases hread

theorem at_of_read (position : Nat) (c : Char) (rest : List Char) (fault : Template.Fault)
    (hread : read position c rest = .error fault) : fault.At position (c :: rest) := by
  unfold read at hread
  split at hread
  · rename_i hquote
    rw [hquote]
    exact at_of_readQuote position rest fault hread
  · split at hread
    · rename_i hletter
      exact at_of_readRun position c rest fault hletter hread
    · cases hread

theorem read_quote (position : Nat) (rest : List Char) :
    read position '\'' rest = readQuote position rest := if_pos rfl

theorem read_letter (position : Nat) (letter : Char) (rest : List Char)
    (hletter : letter.isAlpha = true) :
    read position letter rest = readRun position letter rest := by
  rw [read, if_neg (ne_quote_of_isAlpha letter hletter), if_pos hletter]

theorem readRun_replicate (position : Nat) (letter : Char) (field : Field) (count : Nat)
    (later : List Char) (hfield : Field.ofLetter? letter = some field)
    (hend : later.head? ≠ some letter) :
    readRun position letter (List.replicate count letter ++ later) =
      if field = .isoOffset ∧ 3 < count + 1 then .error (.isoOffsetWidth (count + 1))
      else .ok (.run letter field (count + 1), later) := by
  obtain ⟨hcount, hlater⟩ :=
    (run_eq_iff letter (List.replicate count letter ++ later) count later).mp ⟨rfl, hend⟩
  simp only [readRun, hfield]
  rw [← hcount, ← hlater]

theorem read_of_starts (position : Nat) (source : List Char) (item : Item) (later : List Char)
    (hstarts : Starts source item later) :
    ∃ c rest, source = c :: rest ∧ read position c rest = .ok (item, later) := by
  cases hstarts with
  | quote rest =>
      refine ⟨'\'', '\'' :: later, rfl, ?_⟩
      rw [read_quote, readQuote, if_pos (List.head?_cons), List.drop_one, List.tail_cons]
  | quoted written text rest hopen hne hunits hclose =>
      refine ⟨'\'', written ++ '\'' :: later, rfl, ?_⟩
      have hhead : (written ++ '\'' :: later).head? ≠ some '\'' := by
        cases written with
        | nil => exact absurd rfl hne
        | cons c tail => exact hopen
      rw [read_quote, readQuote, if_neg hhead,
        readQuoted?_of_units written text later hunits hclose]
  | run letter field width rest hletter hfield hwidth hoffset hend =>
      obtain ⟨count, rfl⟩ := Nat.exists_eq_add_of_le' hwidth
      refine ⟨letter, List.replicate count letter ++ later, rfl, ?_⟩
      have hnarrow : ¬(field = .isoOffset ∧ 3 < count + 1) := by
        rintro ⟨rfl, hwide⟩
        have hthree := hoffset (eq_X_of_ofLetter?_eq_isoOffset letter hfield)
        omega
      rw [read_letter position letter _ hletter,
        readRun_replicate position letter field count later hfield hend, if_neg hnarrow]
  | plain c rest hquote hletter =>
      refine ⟨c, later, rfl, ?_⟩
      rw [read, if_neg hquote, if_neg (Bool.eq_false_iff.mp hletter)]

theorem read_of_at (position : Nat) (source : List Char) (fault : Template.Fault)
    (hat : fault.At position source) :
    ∃ c rest, source = c :: rest ∧ read position c rest = .error fault := by
  cases hat with
  | unterminatedQuote rest hopen hclose =>
      refine ⟨'\'', rest, rfl, ?_⟩
      rw [read_quote, readQuote, if_neg hopen, (readQuoted?_eq_none_iff rest).mpr hclose]
  | unknownLetter letter rest hletter hfield =>
      refine ⟨letter, rest, rfl, ?_⟩
      rw [read_letter position letter rest hletter, readRun, hfield]
  | isoOffsetWidth width rest hwidth hend =>
      obtain ⟨count, rfl⟩ := Nat.exists_eq_add_of_le' (Nat.one_le_of_lt hwidth)
      refine ⟨'X', List.replicate count 'X' ++ rest, rfl, ?_⟩
      rw [read_letter position 'X' _ rfl,
        readRun_replicate position 'X' .isoOffset count rest rfl hend, if_pos ⟨rfl, hwidth⟩]

theorem starts_iff (position : Nat) (c : Char) (rest : List Char) (item : Item)
    (later : List Char) :
    Starts (c :: rest) item later ↔ read position c rest = .ok (item, later) := by
  constructor
  · intro hstarts
    obtain ⟨_, _, hsource, hread⟩ := read_of_starts position _ item later hstarts
    cases hsource
    exact hread
  · exact starts_of_read position c rest item later

theorem at_iff (position : Nat) (c : Char) (rest : List Char) (fault : Template.Fault) :
    fault.At position (c :: rest) ↔ read position c rest = .error fault := by
  constructor
  · intro hat
    obtain ⟨_, _, hsource, hread⟩ := read_of_at position _ fault hat
    cases hsource
    exact hread
  · exact at_of_read position c rest fault

theorem Starts.unique {source : List Char} {item other : Item} {later behind : List Char}
    (hitem : Starts source item later) (hother : Starts source other behind) :
    item = other ∧ later = behind := by
  obtain ⟨c, rest, rfl, hread⟩ := read_of_starts 0 source item later hitem
  have hboth := hread.symm.trans ((starts_iff 0 c rest other behind).mp hother)
  simpa using hboth

theorem Starts.not_at {source : List Char} {item : Item} {later : List Char}
    (hitem : Starts source item later) (position : Nat) (fault : Template.Fault) :
    ¬fault.At position source := by
  intro hat
  obtain ⟨c, rest, rfl, hread⟩ := read_of_starts position source item later hitem
  cases hread.symm.trans ((at_iff position c rest fault).mp hat)

theorem Starts.eq_append {source : List Char} {item : Item} {later : List Char}
    (hitem : Starts source item later) : source = item.source ++ later := by
  cases hitem with
  | quote rest => rfl
  | quoted written text rest hopen hne hunits hclose =>
      rw [(units_iff written text).mp hunits]
      simp [Item.source]
  | run letter field width rest hletter hfield hwidth hoffset hend => rfl
  | plain c rest hquote hletter => rfl

theorem readAll_of_starts (position : Nat) {source : List Char} {item : Item}
    {later : List Char} (hitem : Starts source item later) :
    readAll position source =
      (readAll (position + item.source.length) later).map (item :: ·) := by
  obtain ⟨c, rest, rfl, hread⟩ := read_of_starts position source item later hitem
  rw [readAll]
  split
  · rename_i fault hfault
    cases hfault.symm.trans hread
  · rename_i first behind hfirst
    cases hfirst.symm.trans hread
    rfl

theorem readAll_of_at (position : Nat) {source : List Char} {fault : Template.Fault}
    (hat : fault.At position source) : readAll position source = .error fault := by
  obtain ⟨c, rest, rfl, hread⟩ := read_of_at position source fault hat
  rw [readAll]
  split
  · rename_i other hother
    cases hother.symm.trans hread
    rfl
  · rename_i first behind hfirst
    cases hfirst.symm.trans hread

theorem Cut.eq_append {source rest : List Char} {items : List Item}
    (hcut : Cut source items rest) : source = items.flatMap Item.source ++ rest := by
  induction hcut with
  | nil rest => rfl
  | cons hitem hitems ih =>
      rw [hitem.eq_append, ih, List.flatMap_cons, List.append_assoc]

theorem Cut.append {source middle rest : List Char} {front back : List Item}
    (hfront : Cut source front middle) (hback : Cut middle back rest) :
    Cut source (front ++ back) rest := by
  induction hfront with
  | nil middle => exact hback
  | cons hitem hitems ih => exact .cons hitem (ih hback)

theorem Cut.readAll_eq {source rest : List Char} {items : List Item}
    (hcut : Cut source items rest) (position : Nat) :
    readAll position source =
      (readAll (position + (items.flatMap Item.source).length) rest).map (items ++ ·) := by
  induction hcut generalizing position with
  | nil rest =>
      simp only [List.flatMap_nil, List.length_nil, Nat.add_zero, List.nil_append]
      cases readAll position rest <;> rfl
  | cons hitem hitems ih =>
      rw [readAll_of_starts position hitem, ih, List.flatMap_cons, List.length_append,
        Nat.add_assoc]
      cases readAll _ _ <;> rfl

-- Every text is items to its end, or items up to a fault.
theorem exists_cut (position : Nat) (source : List Char) :
    (∃ items, Cut source items []) ∨
      ∃ items rest, ∃ fault : Template.Fault, Cut source items rest ∧
        fault.At (position + (items.flatMap Item.source).length) rest := by
  fun_induction readAll position source with
  | case1 position => exact .inl ⟨[], .nil []⟩
  | case2 position c rest fault hread =>
      exact .inr ⟨[], _, fault, .nil _, at_of_read position c rest fault hread⟩
  | case3 position c rest item later hread _ ih =>
      have hitem := starts_of_read position c rest item later hread
      rcases ih with ⟨items, hitems⟩ | ⟨items, behind, fault, hitems, hat⟩
      · exact .inl ⟨item :: items, .cons hitem hitems⟩
      · refine .inr ⟨item :: items, behind, fault, .cons hitem hitems, ?_⟩
        rw [List.flatMap_cons, List.length_append, ← Nat.add_assoc]
        exact hat

theorem Cut.readAll_eq_ok {source : List Char} {items : List Item} (hcut : Cut source items [])
    (position : Nat) : readAll position source = .ok items := by
  rw [hcut.readAll_eq position, readAll]
  simp only [Except.map, List.append_nil]

theorem Cut.readAll_eq_error {source rest : List Char} {items : List Item} {position : Nat}
    {fault : Template.Fault} (hcut : Cut source items rest)
    (hat : fault.At (position + (items.flatMap Item.source).length) rest) :
    readAll position source = .error fault := by
  rw [hcut.readAll_eq position, readAll_of_at _ hat]
  rfl

theorem readAll_eq_ok_iff (position : Nat) (source : List Char) (items : List Item) :
    readAll position source = .ok items ↔ Cut source items [] := by
  constructor
  · intro hok
    rcases exists_cut position source with ⟨others, hothers⟩ | ⟨others, rest, fault, hcut, hat⟩
    · cases hok.symm.trans (hothers.readAll_eq_ok position)
      exact hothers
    · cases hok.symm.trans (hcut.readAll_eq_error hat)
  · exact fun hcut => hcut.readAll_eq_ok position

-- A text can be cut to its end in one way only.
theorem Cut.unique {source : List Char} {items others : List Item} (hcut : Cut source items [])
    (hothers : Cut source others []) : others = items := by
  cases (hothers.readAll_eq_ok 0).symm.trans (hcut.readAll_eq_ok 0)
  rfl

theorem readAll_eq_error_iff (position : Nat) (source : List Char) (fault : Template.Fault) :
    readAll position source = .error fault ↔
      ∃ items rest, Cut source items rest ∧
        fault.At (position + (items.flatMap Item.source).length) rest := by
  constructor
  · intro herror
    rcases exists_cut position source with ⟨others, hothers⟩ | ⟨others, rest, other, hcut, hat⟩
    · cases herror.symm.trans (hothers.readAll_eq_ok position)
    · cases herror.symm.trans (hcut.readAll_eq_error hat)
      exact ⟨others, rest, hcut, hat⟩
  · rintro ⟨items, rest, hcut, hat⟩
    exact hcut.readAll_eq_error hat

-- No items reach farther than those before the first fault.
theorem Cut.isPrefix_of_at {source rest behind : List Char} {items others : List Item}
    {position : Nat} {fault : Template.Fault} (hcut : Cut source items rest)
    (hat : fault.At position rest) (hothers : Cut source others behind) : others <+: items := by
  induction hcut generalizing others with
  | nil rest =>
      cases hothers with
      | nil => exact List.prefix_rfl
      | cons hitem hrest => exact absurd hat (hitem.not_at position fault)
  | cons hitem hitems ih =>
      cases hothers with
      | nil => exact List.nil_prefix
      | cons hother hrest =>
          obtain ⟨rfl, rfl⟩ := hitem.unique hother
          exact (List.prefix_cons_inj _).mpr (ih hat hrest)

end Item

end EventTime
