import EventTime.Proofs.Command.Sources
import EventTime.Proofs.Timestamp.Reading

-- A run that writes epoch numbers in milliseconds leaves a stream that any run reads like the
-- one it was given, up to the failure.
namespace EventTime

theorem Timestamp.leading_map_toString {values : List Int}
    (hfits : ∀ millis ∈ values, Millis.Fits millis) :
    Leading Means (values.map toString) values [] := by
  induction values with
  | nil => exact .nil
  | cons millis rest ih =>
      obtain ⟨hfirst, hrest⟩ := List.forall_mem_cons.mp hfits
      exact .cons (means_toString hfirst) (ih hrest)

theorem Timestamp.plain_toString {millis : Int} (hfits : Millis.Fits millis) :
    Plain (toString millis) := by
  have hmeans := means_toString hfits
  have htext : (toString millis).toList = Decimal.integer millis := by
    rw [← Decimal.ofList_integer, String.toList_ofList]
  refine Plain.of_all ?_ ?_ ?_
  · intro hempty
    rw [Means, hempty] at hmeans
    cases hmeans.read_eq
  · rw [htext, List.all_eq_true]
    intro c hc
    rw [Decimal.isBlank_of_mem_integer hc]
    rfl
  · exact hmeans.sameLetters_now

namespace Input

-- The instants of a stream that does not ask for the present are counts that fit.
theorem exists_timestamps (bytes : List UInt8)
    (hgiven : Except.ok Timestamp.now ∉ ofBytes bytes) :
    ∃ values : List Int, (∀ millis ∈ values, Millis.Fits millis) ∧
      timestamps (ofBytes bytes) = values.map .at := by
  have hcut := Lines.cut_split bytes
  obtain ⟨readings, rest, hleading⟩ := exists_leading Lines.Means (Lines.split bytes)
  rw [ofBytes_of_cut hcut] at hgiven ⊢
  refine ⟨readings.reduceOption, fun millis hmillis => ?_, timestamps_ofLines hleading 0 hgiven⟩
  obtain ⟨line, -, hmeans⟩ := hleading.exists_means (List.reduceOption_mem_iff.mp hmillis)
  cases hmeans with
  | instant text millis htext hdenotes => exact hdenotes.fits

-- Instants that stand on lines of their own, in decimal, are read one by one.
theorem ofBytes_encode_lines {values : List Int} (hfits : ∀ millis ∈ values, Millis.Fits millis) :
    let inputs := ofBytes (Lines.encode (Command.lines (values.map toString)))
    timestamps inputs = values.map .at ∧ failure? inputs = none := by
  intro inputs
  have hplain : ∀ raw ∈ values.map toString, Timestamp.Plain raw := by
    intro raw hraw
    obtain ⟨millis, hmillis, rfl⟩ := List.mem_map.mp hraw
    exact Timestamp.plain_toString (hfits millis hmillis)
  have hinputs : inputs = ofLines 0 ((values.map toString).map Lines.encode) :=
    ofBytes_of_cut (Command.cut_encode_lines hplain)
  have hleading := Timestamp.leading_map_toString hfits
  have hnow : ∀ raw ∈ values.map toString, Timestamp.read raw ≠ .ok .now :=
    fun raw hraw => (hplain raw hraw).read_ne
  rw [hinputs, timestamps_ofLines_encode hplain, failure?_ofLines_encode hplain]
  refine ⟨timestamps_map_read hleading hnow, ?_⟩
  rcases failure?_map_read hleading hnow with ⟨-, hnone⟩ | ⟨raw, later, fault, hrest, -⟩
  · rw [hnone]
    rfl
  · cases hrest

end Input

namespace Stamper

-- A stamper of these options, with any past.
def MadeFrom (options : List String) (stamper : Stamper) : Prop :=
  ∃ policy seed requests,
    stamper = ((Session.start options policy seed "").performAll requests).stamper

section Runs

variable {options : List String} {stamper : Stamper} (hmade : stamper.MadeFrom options)
include hmade

theorem MadeFrom.sound : stamper.memo.Sound := by
  obtain ⟨policy, seed, requests, rfl⟩ := hmade
  exact Session.sound_performAll_start options policy seed "" requests

theorem MadeFrom.style_eq :
    stamper.memo.style = (Style.ofSelection (Selection.ofList options)).1 := by
  obtain ⟨policy, seed, requests, rfl⟩ := hmade
  exact congrArg Memo.style (Session.memo_performAll_start options policy seed "" requests)

-- A run writes a line for each of the instants before the failure.
theorem MadeFrom.run_eq {inputs : List Input} {values : List Int}
    (hvalues : Input.timestamps inputs = values.map .at) (threads : Nat) (clock : Int) :
    (stamper.run threads clock "" inputs).2 =
      (Command.lines (values.map (Style.ofSelection (Selection.ofList options)).1.write),
        Input.failure? inputs) := by
  rw [stamper.run_of_sound hmade.sound, hmade.style_eq, String.empty_append,
    Input.written_of_timestamps _ _ _ _ hvalues]

end Runs

-- What a run leaves that writes epoch numbers in milliseconds stands for the stream it was given.
-- Any run over it succeeds, and writes what it writes over that stream, where it fails as the first
-- run did if that failed. A second run of the first kind changes nothing.
theorem run_canonical {filterOptions options : List String} {filter stamper : Stamper}
    (hfilter : filter.MadeFrom filterOptions) (hstamper : stamper.MadeFrom options)
    (hnamed : Preset.epochMillis.NamedBy filterOptions) (filterThreads : Nat) (filterClock : Int)
    (bytes : List UInt8) (hgiven : Except.ok Timestamp.now ∉ Input.ofBytes bytes) :
    let left := filter.run filterThreads filterClock "" (Input.ofBytes bytes)
    let text := left.2.1
    let failure := left.2.2
    let piped := Input.ofBytes (Lines.encode text)
    (∃ values : List Int, (∀ millis ∈ values, Millis.Fits millis) ∧
      text = Command.lines (values.map toString)) ∧
    (∀ (threads others : Nat) (clock later : Int),
      let whole := stamper.run others later "" (Input.ofBytes bytes)
      (stamper.run threads clock "" piped).2 = (whole.2.1, none) ∧ whole.2.2 = failure ∧
      (filter.run threads clock "" piped).2 = (text, none)) ∧
    ∀ (threads : Nat) (clock : Int) (orders : Nat → List Nat),
      (∀ turn, Joins threads (orders turn)) → ∀ inputs : List Input,
        filter.runRaced threads orders clock "" inputs = filter.run threads clock "" inputs ∧
        stamper.runRaced threads orders clock "" inputs = stamper.run threads clock "" inputs := by
  intro left text failure piped
  obtain ⟨values, hfits, hvalues⟩ := Input.exists_timestamps bytes hgiven
  have hleft : left.2 =
      (Command.lines (values.map toString), Input.failure? (Input.ofBytes bytes)) := by
    rw [hfilter.run_eq hvalues, funext (Style.write_of_epochMillis hnamed)]
  have htext : text = Command.lines (values.map toString) := congrArg Prod.fst hleft
  obtain ⟨hpiped, hnone⟩ := Input.ofBytes_encode_lines hfits
  rw [← htext] at hpiped hnone
  refine ⟨⟨values, hfits, htext⟩, ?_, ?_⟩
  · intro threads others clock later whole
    have hwhole : whole.2 = _ := hstamper.run_eq hvalues others later
    rw [hstamper.run_eq hpiped, hfilter.run_eq hpiped, hnone, hwhole,
      funext (Style.write_of_epochMillis hnamed), htext]
    exact ⟨rfl, (congrArg Prod.snd hleft).symm, rfl⟩
  · intro threads clock orders horders inputs
    exact ⟨filter.runRaced_of_sound hfilter.sound threads orders horders clock "" inputs,
      stamper.runRaced_of_sound hstamper.sound threads orders horders clock "" inputs⟩

-- Blanks, a sign, leading zeros, a blank line and a failure, none of which is left behind.
theorem run_canonical_signs :
    let bytes := Lines.encode " +007\r\n\n-0500\nx"
    let filter := (ofList ["unix_millis"] .own 0).1
    let stamper := (ofList ["UNIX", "UTC"] .own 0).1
    let left := filter.run 3 0 "" (Input.ofBytes bytes)
    let piped := Input.ofBytes (Lines.encode "7\n-500\n")
    filter.MadeFrom ["unix_millis"] ∧ stamper.MadeFrom ["UNIX", "UTC"] ∧
    Preset.epochMillis.NamedBy ["unix_millis"] ∧ Except.ok Timestamp.now ∉ Input.ofBytes bytes ∧
    left.2.1 = "7\n-500\n" ∧ (stamper.run 2 0 "" piped).2 = ("0\n-1\n", none) ∧
    (filter.run 1 4 "" piped).2 = ("7\n-500\n", none) ∧
    (stamper.run 1 5 "" (Input.ofBytes bytes)).2.2.map Failure.chain =
      some ["stdin line 4", "Not an epoch millisecond value: 'x'",
        "invalid digit found in string"] := by
  intro bytes filter stamper left piped
  have hfilter : filter.MadeFrom ["unix_millis"] := ⟨.own, 0, [], rfl⟩
  have hstamper : stamper.MadeFrom ["UNIX", "UTC"] := ⟨.own, 0, [], rfl⟩
  have hnamed : Preset.epochMillis.NamedBy ["unix_millis"] := ⟨"unix_millis", rfl, by decide⟩
  have hgiven : Except.ok Timestamp.now ∉ Input.ofBytes bytes := by decide +kernel
  have htext : (filter.run 3 0 "" (Input.ofBytes bytes)).2.1 = "7\n-500\n" := by decide +kernel
  obtain ⟨-, hagain, -⟩ := run_canonical hfilter hstamper hnamed 3 0 bytes hgiven
  have hpiped := fun threads clock => hagain threads 1 clock 5
  simp only [htext] at hpiped
  obtain ⟨hsame, hfailure, -⟩ := hpiped 2 0
  refine ⟨hfilter, hstamper, hnamed, hgiven, htext, hsame.trans ?_, (hpiped 1 4).2.2, ?_⟩
  · decide +kernel
  · rw [hfailure]
    decide +kernel

end Stamper

end EventTime
