import EventTime.Proofs.Stamper.Inputs
import EventTime.Proofs.Style.Epoch
import EventTime.Proofs.Text.Faults

-- What is given as a timestamp is a numeral of an instant, or else is quoted with its fault.
namespace EventTime

theorem Numeral.Fault.eq_of_message_eq {first second : Fault}
    (hmessage : first.message = second.message) : first = second := by
  revert hmessage
  cases first <;> cases second <;> decide

namespace Timestamp

theorem read_eq_ok_iff {raw : String} (hgiven : Text.sameLetters raw.toList ['n', 'o', 'w'] = false)
    (millis : Int) : read raw = .ok (.at millis) ↔ Means raw millis := by
  rw [Means, ← Numeral.read_eq_ok_iff, read, hgiven, if_neg Bool.false_ne_true]
  cases Numeral.read raw.toList with
  | error fault => simp
  | ok count => simp

theorem read_of_blames {raw : String} {fault : Numeral.Fault}
    (hgiven : Text.sameLetters raw.toList ['n', 'o', 'w'] = false)
    (hblames : Numeral.Blames raw.toList fault) : read raw = .error (.badTimestamp raw fault) := by
  rw [read, hgiven, if_neg Bool.false_ne_true, hblames.read_eq]

-- What is written of an instant in decimal gives that instant again.
theorem means_toString {millis : Int} (hfits : Millis.Fits millis) :
    Means (toString millis) millis := by
  rw [← Decimal.ofList_integer, Means, String.toList_ofList]
  exact Numeral.denotes_integer hfits

-- A text that does not ask for the present gives the instant that it denotes. Otherwise it is
-- quoted, and blamed for the first character that cannot be read on.
-- What is written of an instant as an epoch number in milliseconds gives that instant again.
theorem read_first_fault (raw : String)
    (hgiven : Text.sameLetters raw.toList ['n', 'o', 'w'] = false) :
    (∀ millis, read raw = .ok (.at millis) ↔ Numeral.Denotes raw.toList millis) ∧
    (∀ fault, Numeral.Blames raw.toList fault ↔ ∃ failure, read raw = .error failure ∧
      failure.chain = [s!"Not an epoch millisecond value: '{raw}'", fault.message]) ∧
    ((∃ millis, Numeral.Denotes raw.toList millis) ∨
      ∃ fault, Numeral.Blames raw.toList fault) ∧
    ∀ options millis, Preset.epochMillis.NamedBy options → Millis.Fits millis →
      read ((Style.ofSelection (Selection.ofList options)).1.write millis) = .ok (.at millis) := by
  have htotal : (∃ millis, Numeral.Denotes raw.toList millis) ∨
      ∃ fault, Numeral.Blames raw.toList fault := by
    by_cases hdenotes : ∃ millis, Numeral.Denotes raw.toList millis
    · exact .inl hdenotes
    · obtain ⟨fault, hfault⟩ := Numeral.exists_fault_of_not_denotes (not_exists.mp hdenotes)
      exact .inr ⟨fault, (Numeral.read_eq_error_iff _ _).mp hfault⟩
  refine ⟨read_eq_ok_iff hgiven, fun fault => ⟨fun hblames => ?_, ?_⟩, htotal, ?_⟩
  · exact ⟨_, read_of_blames hgiven hblames, rfl⟩
  · rintro ⟨failure, hread, hchain⟩
    rcases htotal with ⟨millis, hdenotes⟩ | ⟨other, hother⟩
    · rw [read_of_means hdenotes] at hread
      cases hread
    · -- the message tells the fault
      rw [read_of_blames hgiven hother] at hread
      cases hread
      simp only [Failure.chain, List.cons.injEq, and_true, true_and] at hchain
      rwa [← Numeral.Fault.eq_of_message_eq hchain]
  · intro options millis hnamed hfits
    rw [Style.write_of_epochMillis hnamed]
    exact read_of_means (means_toString hfits)

-- A letter where no further digit would fit, and one behind a digit that does not fit.
theorem read_first_fault_full :
    let full := "9223372036854775807x"
    let left := "-9223372036854775809x"
    Text.sameLetters full.toList ['n', 'o', 'w'] = false ∧
    Text.sameLetters left.toList ['n', 'o', 'w'] = false ∧
    (∃ failure, read full = .error failure ∧ failure.chain =
      ["Not an epoch millisecond value: '9223372036854775807x'",
        "invalid digit found in string"]) ∧
    (∃ failure, read left = .error failure ∧ failure.chain =
      ["Not an epoch millisecond value: '-9223372036854775809x'",
        "number too small to fit in target type"]) ∧
    Preset.epochMillis.NamedBy ["unix_Millis", "UTC"] ∧ Millis.Fits Millis.least ∧
    read ((Style.ofSelection (Selection.ofList ["unix_Millis", "UTC"])).1.write Millis.least) =
      .ok (.at Millis.least) := by
  intro full left
  have hfull : Text.sameLetters full.toList ['n', 'o', 'w'] = false := by decide
  have hleft : Text.sameLetters left.toList ['n', 'o', 'w'] = false := by decide
  have hletter : Numeral.Blames full.toList .invalidDigit := by
    have hsplit : full.toList = "9223372036854775807".toList ++ ['x'] := by decide +kernel
    have hsigned : Numeral.Signed full.toList false ("9223372036854775807".toList ++ ['x']) := by
      rw [hsplit]
      exact .unsigned _ (by decide) (by decide)
    have hreadable : Numeral.Readable false "9223372036854775807".toList :=
      Numeral.readable_of_fits (List.all_eq_true.mp (by decide)) (by decide +kernel)
    exact .character hsigned hreadable (by decide)
  have hdigit : Numeral.Blames left.toList .tooSmall := by
    have hsplit : left.toList = '-' :: ("922337203685477580".toList ++ ['9', 'x']) := by
      decide +kernel
    have hsigned : Numeral.Signed left.toList true ("922337203685477580".toList ++ ['9', 'x']) := by
      rw [hsplit]
      exact .minus _
    have hreadable : Numeral.Readable true "922337203685477580".toList :=
      Numeral.readable_of_fits (List.all_eq_true.mp (by decide)) (by decide +kernel)
    exact .range hsigned hreadable (by decide) (by decide +kernel)
  have hnamed : Preset.epochMillis.NamedBy ["unix_Millis", "UTC"] :=
    ⟨"unix_Millis", rfl, by decide⟩
  obtain ⟨-, hchain, -, hagain⟩ := read_first_fault full hfull
  obtain ⟨-, hotherChain, -, -⟩ := read_first_fault left hleft
  exact ⟨hfull, hleft, (hchain _).mp hletter, (hotherChain _).mp hdigit, hnamed, by decide,
    hagain _ _ hnamed (by decide)⟩

end Timestamp

end EventTime
