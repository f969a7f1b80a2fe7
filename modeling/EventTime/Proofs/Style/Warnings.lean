import EventTime.Proofs.Template.Pieces
import EventTime.Proofs.Text.Integers
import EventTime.Style

-- A warning about a template names it: no two templates at fault are warned about alike.
namespace EventTime

namespace Text

-- A colon that no other follows parts a text in one way only.
theorem eq_of_append_colon {first second back other : List Char} (hback : ':' ∉ back)
    (hother : ':' ∉ other) (heq : first ++ ':' :: back = second ++ ':' :: other) :
    first = second := by
  induction first generalizing second with
  | nil =>
      cases second with
      | nil => rfl
      | cons c rest =>
          have htail := (List.cons.inj heq).2
          simp [htail] at hback
  | cons c rest ih =>
      cases second with
      | nil =>
          have htail := (List.cons.inj heq).2
          simp [← htail] at hother
      | cons d later =>
          obtain ⟨rfl, htail⟩ := List.cons.inj heq
          rw [ih htail]

theorem colon_not_mem_toString (count : Nat) : ':' ∉ (toString count).toList := by
  intro hcolon
  have hdigits : (toString count).toList = Decimal.natural count := String.toList_ofList
  rw [hdigits] at hcolon
  have hdigit := Decimal.isDigit_of_mem_natural hcolon
  simp at hdigit

end Text

namespace Template

theorem Fault.message_eq :
    (∀ position, (unterminatedQuote position).message =
      "unterminated quote starting at position " ++ toString position) ∧
    (∀ letter position, (unknownLetter letter position).message =
      "illegal pattern letter '" ++ toString letter ++ "' at position " ++ toString position) ∧
    ∀ width, (isoOffsetWidth width).message =
      "ISO offset field 'X' accepts at most 3 letters, got " ++ toString width :=
  ⟨fun _ => rfl, fun _ _ => rfl, fun _ => rfl⟩

-- A message has one letter of the template in it at most, and that is none of its own signs.
theorem Fault.At.colon_not_mem_message {position : Nat} {text : List Char} {fault : Fault}
    (hat : fault.At position text) : ':' ∉ fault.message.toList := by
  obtain ⟨hquote, hunknown, hwide⟩ := message_eq
  have hposition := Text.colon_not_mem_toString position
  cases hat with
  | unterminatedQuote rest hopen hclose =>
      rw [hquote, String.toList_append, List.mem_append, not_or]
      exact ⟨by decide, hposition⟩
  | unknownLetter letter rest hletter hfield =>
      have hne : ':' ≠ letter := by
        rintro rfl
        simp at hletter
      have hnamed : ':' ∉ (toString letter).toList := by
        simpa [toString] using hne
      rw [hunknown]
      simp only [String.toList_append, List.mem_append, not_or]
      exact ⟨⟨⟨by decide, hnamed⟩, by decide⟩, hposition⟩
  | isoOffsetWidth width rest hwidth hend =>
      rw [hwide, String.toList_append, List.mem_append, not_or]
      exact ⟨by decide, Text.colon_not_mem_toString width⟩

theorem colon_not_mem_message {source : String} {fault : Fault}
    (hparse : parse source = .error fault) : ':' ∉ fault.message.toList := by
  obtain ⟨items, rest, -, hat⟩ := (parse_eq_error_iff source fault).mp hparse
  exact hat.colon_not_mem_message

end Template

namespace Warning

theorem message_badTemplate (source : String) (fault : Template.Fault) :
    (badTemplate source fault).message =
      "Could not use date pattern '" ++ source ++ "': " ++ fault.message ++
        "; using the default pattern" := rfl

-- The colon between the template and its fault is the last one, whatever the template has in it.
theorem exists_toList_message {source : String} {fault : Template.Fault}
    (hparse : Template.parse source = .error fault) :
    ∃ back : List Char, ':' ∉ back ∧ (badTemplate source fault).message.toList =
      "Could not use date pattern '".toList ++ source.toList ++ ['\''] ++ ':' :: back := by
  have hcolon := Template.colon_not_mem_message hparse
  have hquote : "': ".toList = ['\''] ++ ':' :: [' '] := by decide
  refine ⟨' ' :: (fault.message.toList ++ "; using the default pattern".toList), ?_, ?_⟩
  · rw [List.mem_cons, List.mem_append, not_or, not_or]
    exact ⟨by decide, hcolon, by decide⟩
  · rw [message_badTemplate]
    simp only [String.toList_append, hquote, List.append_assoc, List.cons_append, List.nil_append]

theorem message_badTemplate_eq_iff {source other : String} {fault otherFault : Template.Fault}
    (hparse : Template.parse source = .error fault)
    (hother : Template.parse other = .error otherFault) :
    (badTemplate other otherFault).message = (badTemplate source fault).message ↔
      other = source := by
  constructor
  · intro hmessage
    obtain ⟨back, hback, hlist⟩ := exists_toList_message hparse
    obtain ⟨otherBack, hotherBack, hotherList⟩ := exists_toList_message hother
    rw [← String.toList_inj, hlist, hotherList] at hmessage
    have hquoted := Text.eq_of_append_colon hotherBack hback hmessage
    rw [List.append_left_inj, List.append_right_inj] at hquoted
    exact String.toList_inj.mp hquoted
  · rintro rfl
    rw [Except.error.inj (hother.symm.trans hparse)]

end Warning

end EventTime
