import EventTime.Proofs.Template.Rendering

-- Templates written one behind the other: what the two show, one behind the other, and the faults
-- of the second, moved to where it stands.
namespace EventTime

namespace Item

-- Two texts that do not meet in a pair of quotes or in a pair of one letter.
def Parted (front back : List Char) : Prop :=
  ∀ c, front.getLast? = some c → back.head? = some c → c ≠ '\'' ∧ c.isAlpha = false

theorem Parted.of_append {front middle back : List Char} (hparted : Parted (front ++ middle) back) :
    Parted middle back := by
  intro c hlast hhead
  refine hparted c ?_ hhead
  rw [List.getLast?_append, hlast, Option.some_or]

theorem head?_append_ne {rest more : List Char} {c : Char} (hrest : rest.head? ≠ some c)
    (hmore : rest = [] → more.head? ≠ some c) : (rest ++ more).head? ≠ some c := by
  cases rest with
  | nil => exact hmore rfl
  | cons first tail => exact hrest

-- An item stays the same before a longer rest, if it does not end where the rest was added.
theorem Starts.append_right {source : List Char} {item : Item} {later : List Char}
    (hitem : Starts source item later) {more : List Char}
    (hparted : later = [] → Parted source more) : Starts (source ++ more) item (later ++ more) := by
  cases hitem with
  | quote rest => exact .quote (later ++ more)
  | quoted written text rest hopen hne hunits hclose =>
      have hend : (later ++ more).head? ≠ some '\'' := by
        refine head?_append_ne hclose ?_
        rintro rfl hhead
        exact (hparted rfl '\'' List.getLast?_concat hhead).1 rfl
      rw [List.append_assoc]
      exact .quoted written text (later ++ more) hopen hne hunits hend
  | run letter field width rest hletter hfield hwidth hoffset hend =>
      have hlonger : (later ++ more).head? ≠ some letter := by
        refine head?_append_ne hend ?_
        rintro rfl hhead
        have hlast : (List.replicate width letter ++ []).getLast? = some letter := by
          rw [List.append_nil, List.getLast?_replicate, if_neg (by omega)]
        have hplain := (hparted rfl letter hlast hhead).2
        exact Bool.false_ne_true (hplain.symm.trans hletter)
      rw [List.append_assoc]
      exact .run letter field width (later ++ more) hletter hfield hwidth hoffset hlonger
  | plain c rest hquote hletter => exact .plain c (later ++ more) hquote hletter

theorem Cut.append_right {source rest : List Char} {items : List Item}
    (hcut : Cut source items rest) {more : List Char} (hparted : rest = [] → Parted source more) :
    Cut (source ++ more) items (rest ++ more) := by
  induction hcut with
  | nil rest => exact .nil (rest ++ more)
  | @cons source later rest item items hitem hitems ih =>
      have hsource := hitem.eq_append
      refine .cons (hitem.append_right ?_) (ih ?_)
      · rintro rfl
        refine hparted (List.append_eq_nil_iff.mp hitems.eq_append.symm).2
      · intro hrest
        have hwhole := hparted hrest
        rw [hsource] at hwhole
        exact hwhole.of_append

end Item

namespace Piece

theorem flatMap_render_cons (reading : Reading) (piece : Piece) (rest : List Piece) :
    (cons piece rest).flatMap (render reading) =
      piece.render reading ++ rest.flatMap (render reading) := by
  cases piece with
  | field kind width => rfl
  | text first =>
      cases rest with
      | nil => rfl
      | cons next tail =>
          cases next with
          | field kind width => rfl
          | text second =>
              simp only [cons, List.flatMap_cons, render, List.append_assoc]

-- Texts are joined so that nothing of them is lost.
theorem flatMap_render_join (reading : Reading) (pieces : List Piece) :
    (join pieces).flatMap (render reading) = pieces.flatMap (render reading) := by
  induction pieces with
  | nil => rfl
  | cons piece rest ih =>
      rw [join, List.foldr_cons, flatMap_render_cons, ← join, ih, List.flatMap_cons]

end Piece

namespace Template

open Item

namespace Fault

-- The fault of a text that stands so many characters farther on.
def shift (distance : Nat) : Fault → Fault
  | unterminatedQuote position => unterminatedQuote (distance + position)
  | unknownLetter letter position => unknownLetter letter (distance + position)
  | isoOffsetWidth width => isoOffsetWidth width

theorem At.shift {fault : Fault} {position : Nat} {rest : List Char} (hat : fault.At position rest)
    (distance : Nat) : (fault.shift distance).At (distance + position) rest := by
  cases hat with
  | unterminatedQuote rest hopen hclose => exact .unterminatedQuote rest hopen hclose
  | unknownLetter letter rest hletter hfield => exact .unknownLetter letter rest hletter hfield
  | isoOffsetWidth width rest hwidth hend => exact .isoOffsetWidth width rest hwidth hend

end Fault

section Append

variable {front back : String} {items : List Item}

theorem render_append (front back : List Item) (first second whole : String) (zone : Zone)
    (millis : Int) :
    render ⟨whole, Piece.join ((front ++ back).map Item.piece)⟩ zone millis =
      render ⟨first, Piece.join (front.map Item.piece)⟩ zone millis ++
        render ⟨second, Piece.join (back.map Item.piece)⟩ zone millis := by
  simp only [render, renderPieces, Piece.flatMap_render_join, List.map_append, List.flatMap_append,
    String.ofList_append]

-- The items of the first text stay items in front of the second.
theorem cut_append (hcut : Cut front.toList items []) (hparted : Parted front.toList back.toList) :
    Cut (front ++ back).toList items back.toList := by
  rw [String.toList_append]
  exact hcut.append_right fun _ => hparted

theorem parse_append_of_ok {first second : Template} (hfront : parse front = .ok first)
    (hback : parse back = .ok second) (hparted : Parted front.toList back.toList) :
    ∃ whole, parse (front ++ back) = .ok whole ∧
      ∀ zone millis,
        whole.render zone millis = first.render zone millis ++ second.render zone millis := by
  obtain ⟨early, hearly, rfl⟩ := (parse_eq_ok_iff front first).mp hfront
  obtain ⟨late, hlate, rfl⟩ := (parse_eq_ok_iff back second).mp hback
  have hcut := (cut_append hearly hparted).append hlate
  exact ⟨_, parse_of_cut hcut, render_append early late front back _⟩

theorem parse_append_of_error {first : Template} {fault : Fault} (hfront : parse front = .ok first)
    (hback : parse back = .error fault) (hparted : Parted front.toList back.toList) :
    parse (front ++ back) = .error (fault.shift front.length) := by
  obtain ⟨early, hearly, rfl⟩ := (parse_eq_ok_iff front first).mp hfront
  obtain ⟨late, rest, hlate, hat⟩ := (parse_eq_error_iff back fault).mp hback
  have hlength : front.length = (early.flatMap Item.source).length := by
    rw [← String.length_toList, hearly.eq_append, List.append_nil]
  rw [parse_eq_error_iff]
  refine ⟨early ++ late, rest, (cut_append hearly hparted).append hlate, ?_⟩
  rw [List.flatMap_append, List.length_append, ← hlength]
  exact hat.shift front.length

-- What is wrong with a text stays wrong before a longer rest, if no letter more can change it.
theorem parse_append_of_unknownLetter {letter : Char} {position : Nat}
    (hfront : parse front = .error (.unknownLetter letter position)) :
    parse (front ++ back) = .error (.unknownLetter letter position) := by
  obtain ⟨items, rest, hcut, hat⟩ := (parse_eq_error_iff front _).mp hfront
  generalize hplace : (items.flatMap Item.source).length = place at hat
  rw [parse_eq_error_iff, String.toList_append]
  cases hat with
  | unknownLetter _ later hletter hfield =>
      refine ⟨items, _, hcut.append_right nofun, ?_⟩
      rw [hplace]
      exact .unknownLetter letter (later ++ back.toList) hletter hfield

theorem parse_append_of_isoOffsetWidth {width : Nat}
    (hfront : parse front = .error (.isoOffsetWidth width))
    (hlast : front.toList.getLast? ≠ some 'X') :
    parse (front ++ back) = .error (.isoOffsetWidth width) := by
  obtain ⟨items, rest, hcut, hat⟩ := (parse_eq_error_iff front _).mp hfront
  rw [parse_eq_error_iff, String.toList_append]
  cases hat with
  | isoOffsetWidth _ later hwidth hend =>
      -- the run has ended inside the first text, as that does not end in its letter
      have hlater : later ≠ [] := by
        rintro rfl
        apply hlast
        rw [hcut.eq_append, List.append_nil, List.getLast?_append, List.getLast?_replicate,
          if_neg (by omega), Option.some_or]
      have hnonempty : List.replicate width 'X' ++ later ≠ [] := by simp [hlater]
      refine ⟨items, _, hcut.append_right fun hnil => absurd hnil hnonempty, ?_⟩
      rw [List.append_assoc]
      exact .isoOffsetWidth width _ hwidth (head?_append_ne hend fun hnil => absurd hnil hlater)

end Append

-- A template before another text that it does not run into: together they show what the two show,
-- or fail as the second does, farther on.
-- A letter without a field, or an offset that has ended too wide, stays a fault before every rest.
theorem parse_append (front back : String) :
    (Parted front.toList back.toList → ∀ first, parse front = .ok first →
      (∀ second, parse back = .ok second →
        ∃ whole, parse (front ++ back) = .ok whole ∧
          ∀ zone millis,
            whole.render zone millis = first.render zone millis ++ second.render zone millis) ∧
      ∀ fault, parse back = .error fault →
        parse (front ++ back) = .error (fault.shift front.length)) ∧
    (∀ letter position, parse front = .error (.unknownLetter letter position) →
      parse (front ++ back) = .error (.unknownLetter letter position)) ∧
    (∀ width, parse front = .error (.isoOffsetWidth width) → front.toList.getLast? ≠ some 'X' →
      parse (front ++ back) = .error (.isoOffsetWidth width)) := by
  refine ⟨?_, ?_, ?_⟩
  · intro hparted first hfront
    refine ⟨?_, ?_⟩
    · intro second hback
      exact parse_append_of_ok hfront hback hparted
    · intro fault hback
      exact parse_append_of_error hfront hback hparted
  · intro letter position hfront
    exact parse_append_of_unknownLetter hfront
  · intro width hfront hlast
    exact parse_append_of_isoOffsetWidth hfront hlast

-- Months in both letters meet, and two faults lie behind a good text, or before any.
theorem parse_append_months :
    let first : Template := ⟨"'in' M", [.text ['i', 'n', ' '], .field .month 1]⟩
    let second : Template := ⟨"LLL", [.field .month 3]⟩
    Parted first.source.toList second.source.toList ∧
    parse first.source = .ok first ∧ parse second.source = .ok second ∧
    (∃ whole, parse "'in' MLLL" = .ok whole ∧
      ∀ zone millis,
        whole.render zone millis = first.render zone millis ++ second.render zone millis) ∧
    parse "'in' MLLL'q" = .error (.unterminatedQuote 9) ∧
    parse "qq'" = .error (.unknownLetter 'q' 0) ∧
    parse "XXXX. q" = .error (.isoOffsetWidth 4) := by
  intro first second
  have hparted (back : String) (hhead : back.toList.head? = some 'L') :
      Parted first.source.toList back.toList := by
    have hlast : first.source.toList.getLast? = some 'M' := by decide +kernel
    intro c hc hother
    cases Option.some.inj (hlast.symm.trans hc)
    cases Option.some.inj (hhead.symm.trans hother)
  have hfirst : parse first.source = .ok first := by decide +kernel
  have hsecond : parse second.source = .ok second := by decide +kernel
  have hmeet := hparted second.source (by decide +kernel)
  obtain ⟨hwhole, -⟩ := (parse_append first.source second.source).1 hmeet first hfirst
  obtain ⟨-, hfault⟩ :=
    (parse_append first.source "LLL'q").1 (hparted _ (by decide +kernel)) first hfirst
  refine ⟨hmeet, hfirst, hsecond, hwhole second hsecond, ?_, ?_, ?_⟩
  · have hlength : first.source.length = 6 := by decide +kernel
    have hopen := hfault (.unterminatedQuote 3) (by decide +kernel)
    rw [hlength] at hopen
    exact hopen
  · exact (parse_append "q" "q'").2.1 'q' 0 (by decide +kernel)
  · exact (parse_append "XXXX." " q").2.2 4 (by decide +kernel) (by decide)

end Template

end EventTime
