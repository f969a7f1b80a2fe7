import EventTime.Command.Basic
import EventTime.Proofs.Memo.Sound
import EventTime.Proofs.Text.Numerals
import EventTime.Stamper.Run

-- What a run makes of its inputs: the texts of those before the first failure, and that failure.
namespace EventTime

-- The values of items up to the first that has none, and the items from there on.
inductive Leading {Item Value : Type} (Means : Item → Value → Prop) :
    List Item → List Value → List Item → Prop where
  | nil : Leading Means [] [] []
  | stop {item : Item} {later : List Item} (hnone : ∀ value, ¬ Means item value) :
      Leading Means (item :: later) [] (item :: later)
  | cons {item : Item} {value : Value} {later : List Item} {values : List Value}
      {rest : List Item} (hmeans : Means item value) (hlater : Leading Means later values rest) :
      Leading Means (item :: later) (value :: values) rest

section Leading

variable {Item Value : Type} {Means : Item → Value → Prop}

theorem exists_leading (Means : Item → Value → Prop) (items : List Item) :
    ∃ values rest, Leading Means items values rest := by
  induction items with
  | nil => exact ⟨[], [], .nil⟩
  | cons item later ih =>
      by_cases hmeans : ∃ value, Means item value
      · obtain ⟨value, hvalue⟩ := hmeans
        obtain ⟨values, rest, hlater⟩ := ih
        exact ⟨value :: values, rest, .cons hvalue hlater⟩
      · exact ⟨[], item :: later, .stop (fun value hvalue => hmeans ⟨value, hvalue⟩)⟩

theorem Leading.unique (hunique : ∀ item first second, Means item first → Means item second →
      first = second)
    {items : List Item} {values others : List Value} {rest tail : List Item}
    (hleading : Leading Means items values rest) (hother : Leading Means items others tail) :
    values = others ∧ rest = tail := by
  induction hleading generalizing others tail with
  | nil =>
      cases hother
      exact ⟨rfl, rfl⟩
  | stop hnone =>
      cases hother with
      | stop => exact ⟨rfl, rfl⟩
      | cons hmeans hlater => exact absurd hmeans (hnone _)
  | cons hmeans hlater ih =>
      cases hother with
      | stop hnone => exact absurd hmeans (hnone _)
      | cons hsame hrest =>
          obtain ⟨rfl, rfl⟩ := ih hrest
          exact ⟨by rw [hunique _ _ _ hmeans hsame], rfl⟩

theorem Leading.exists_means {items rest : List Item} {values : List Value}
    (hleading : Leading Means items values rest) {value : Value}
    (hvalue : value ∈ values) : ∃ item ∈ items, Means item value := by
  induction hleading with
  | nil => simp at hvalue
  | stop hnone => simp at hvalue
  | cons hmeans hlater ih =>
      rcases List.mem_cons.mp hvalue with rfl | hrest
      · exact ⟨_, List.mem_cons_self, hmeans⟩
      · obtain ⟨item, hitem, hother⟩ := ih hrest
        exact ⟨item, List.mem_cons_of_mem _ hitem, hother⟩

-- Where all items have values, those of further items come behind.
theorem Leading.append {items later rest : List Item} {values others : List Value}
    (hleading : Leading Means items values []) (hlater : Leading Means later others rest) :
    Leading Means (items ++ later) (values ++ others) rest := by
  generalize hnil : ([] : List Item) = last at hleading
  induction hleading with
  | nil => exact hlater
  | stop => cases hnil
  | cons hmeans hrest ih => exact .cons hmeans (ih hnil)

end Leading

namespace Command

theorem lines_cons (text : String) (rest : List String) :
    lines (text :: rest) = text ++ "\n" ++ lines rest := by
  simp only [lines, List.map_cons, String.join_cons]

theorem lines_append (first second : List String) :
    lines (first ++ second) = lines first ++ lines second := by
  induction first with
  | nil => exact (String.empty_append).symm
  | cons text rest ih => simp only [List.cons_append, lines_cons, ih, String.append_assoc]

end Command

namespace Input

-- The timestamps before the first failure.
def timestamps : List Input → List Timestamp
  | .ok timestamp :: rest => timestamp :: timestamps rest
  | _ => []

-- The first failure.
def failure? : List Input → Option Failure
  | [] => none
  | .ok _ :: rest => failure? rest
  | .error failure :: _ => some failure

-- The text of the lines that inputs come to when each is written anew.
def written (style : Style) (clock : Int) (inputs : List Input) : String :=
  Command.lines ((timestamps inputs).map fun timestamp => style.write (timestamp.millis clock))

theorem timestamps_append (first second : List Input) (hfirst : failure? first = none) :
    timestamps (first ++ second) = timestamps first ++ timestamps second := by
  induction first with
  | nil => rfl
  | cons input rest ih =>
      cases input with
      | error failure => cases hfirst
      | ok timestamp => exact congrArg (timestamp :: ·) (ih hfirst)

theorem failure?_append (first second : List Input) (hfirst : failure? first = none) :
    failure? (first ++ second) = failure? second := by
  induction first with
  | nil => rfl
  | cons input rest ih =>
      cases input with
      | error failure => cases hfirst
      | ok timestamp => exact ih hfirst

theorem written_append (style : Style) (clock : Int) (first second : List Input)
    (hfirst : failure? first = none) :
    written style clock (first ++ second) =
      written style clock first ++ written style clock second := by
  rw [written, timestamps_append first second hfirst, List.map_append, Command.lines_append]
  rfl

end Input

namespace Timestamp

-- The instant that a text gives by its count of milliseconds.
def Means (raw : String) (millis : Int) : Prop := Numeral.Denotes raw.toList millis

theorem Means.unique (raw : String) (first second : Int) (hfirst : Means raw first)
    (hsecond : Means raw second) : first = second :=
  Numeral.Denotes.unique hfirst hsecond

-- A numeral is not the word now, as it ends in a digit.
theorem Means.sameLetters_now {raw : String} {millis : Int} (hmeans : Means raw millis) :
    Text.sameLetters raw.toList ['n', 'o', 'w'] = false := by
  apply Bool.eq_false_iff.mpr
  intro hsame
  have hupper := congrArg List.getLast? ((Text.sameLetters_iff _ _).mp hsame)
  rw [List.getLast?_map] at hupper
  obtain ⟨c, hc, hcase⟩ := Option.map_eq_some_iff.mp hupper
  have hdigit := Numeral.Denotes.isDigit_of_mem_getLast? hmeans c hc
  rw [Text.toUpper_of_isDigit c hdigit] at hcase
  rw [hcase] at hdigit
  exact absurd hdigit (by decide)

theorem read_of_means {raw : String} {millis : Int} (hmeans : Means raw millis) :
    read raw = .ok (.at millis) := by
  rw [read, hmeans.sameLetters_now, if_neg Bool.false_ne_true, Numeral.Denotes.read_eq hmeans]

theorem read_of_not_means {raw : String} (hnone : ∀ millis, ¬ Means raw millis)
    (hnow : read raw ≠ .ok .now) :
    ∃ fault, Numeral.read raw.toList = .error fault ∧
      read raw = .error (.badTimestamp raw fault) := by
  obtain ⟨fault, hfault⟩ := Numeral.exists_fault_of_not_denotes hnone
  refine ⟨fault, hfault, ?_⟩
  unfold read at hnow ⊢
  split
  · rename_i hword
    exact absurd (if_pos hword) hnow
  · rw [hfault]

end Timestamp

namespace Input

variable {raws rest : List String} {values : List Int}

theorem timestamps_map_read (hleading : Leading Timestamp.Means raws values rest)
    (hnow : ∀ raw ∈ raws, Timestamp.read raw ≠ .ok .now) :
    timestamps (raws.map Timestamp.read) = values.map .at := by
  induction hleading with
  | nil => rfl
  | @stop raw later hnone =>
      obtain ⟨fault, -, hread⟩ := Timestamp.read_of_not_means hnone (hnow raw List.mem_cons_self)
      rw [List.map_cons, hread]
      rfl
  | cons hmeans hlater ih =>
      rw [List.map_cons, Timestamp.read_of_means hmeans]
      exact congrArg (Timestamp.at _ :: ·)
        (ih fun raw hraw => hnow raw (List.mem_cons_of_mem _ hraw))

theorem failure?_map_read (hleading : Leading Timestamp.Means raws values rest)
    (hnow : ∀ raw ∈ raws, Timestamp.read raw ≠ .ok .now) :
    rest = [] ∧ failure? (raws.map Timestamp.read) = none ∨
      ∃ raw later fault, rest = raw :: later ∧ Numeral.read raw.toList = .error fault ∧
        failure? (raws.map Timestamp.read) = some (.badTimestamp raw fault) := by
  induction hleading with
  | nil => exact .inl ⟨rfl, rfl⟩
  | @stop raw later hnone =>
      obtain ⟨fault, hfault, hread⟩ :=
        Timestamp.read_of_not_means hnone (hnow raw List.mem_cons_self)
      refine .inr ⟨raw, later, fault, rfl, hfault, ?_⟩
      rw [List.map_cons, hread]
      rfl
  | cons hmeans hlater ih =>
      rw [List.map_cons, Timestamp.read_of_means hmeans]
      exact ih fun raw hraw => hnow raw (List.mem_cons_of_mem _ hraw)

theorem written_of_timestamps (style : Style) (clock : Int) (inputs : List Input)
    (values : List Int) (hvalues : timestamps inputs = values.map .at) :
    written style clock inputs = Command.lines (values.map style.write) := by
  rw [written, hvalues, List.map_map]
  rfl

end Input

-- A run writes a line for each timestamp before the first failure, whatever is remembered.
theorem Stamper.run_of_sound (stamper : Stamper) (hsound : stamper.memo.Sound) (threads : Nat)
    (clock : Int) (out : String) (inputs : List Input) :
    (stamper.run threads clock out inputs).2 =
      (out ++ Input.written stamper.memo.style clock inputs, Input.failure? inputs) := by
  induction inputs generalizing stamper out with
  | nil => exact congrArg (·, none) String.append_empty.symm
  | cons input rest ih =>
      cases input with
      | error failure => exact congrArg (·, some failure) String.append_empty.symm
      | ok timestamp =>
          have hrest := ih ⟨stamper.memo.remembering (timestamp.millis clock)⟩
            (Memo.sound_remembering _ _)
            (out ++ stamper.memo.style.write (timestamp.millis clock) ++ "\n")
          simp only [run, stamper.shared_of_sound hsound]
          rw [hrest]
          simp only [Input.written, Input.timestamps, Input.failure?, List.map_cons,
            Command.lines_cons, String.append_assoc, Memo.style_remembering]

end EventTime
