import EventTime.Proofs.Stamper.Inputs
import EventTime.Proofs.Stamper.Raced
import EventTime.Proofs.Session.Transparency
import EventTime.Proofs.Text.Lines
import EventTime.Proofs.Text.Trimming
import Mathlib.Data.List.ReduceOption

-- A run over a stream writes the instants that its lines give, up to the first that gives none.
namespace EventTime

-- What a line gives: no instant if it is blank, and else the one of its numeral between blanks.
inductive Lines.Means (line : List UInt8) : Option Int → Prop where
  | blank (text : String) (htext : decode? line = some text)
      (hblank : ∀ c ∈ text.toList, Text.isBlank c = true) : Means line none
  | instant (text : String) (millis : Int) (htext : decode? line = some text)
      (hmillis : Numeral.Denotes (Text.trim text.toList) millis) : Means line (some millis)

-- What is wrong with a line of this number that gives nothing and does not ask for the present.
inductive Lines.Faults (number : Nat) (line : List UInt8) : Failure → Prop where
  | unreadable (htext : decode? line = none) : Faults number line .unreadable
  | badTimestamp (text : String) (fault : Numeral.Fault) (htext : decode? line = some text)
      (hfault : Numeral.read (Text.trim text.toList) = .error fault) :
      Faults number line (.badLine number (.badTimestamp (Text.trimmed text) fault))

-- The failure when this many lines come before those it counts.
def Failure.after (count : Nat) : Failure → Failure
  | badLine number cause => badLine (count + number) cause
  | failure => failure

namespace Input

-- The inputs on lines of which the first has the number after this one.
def ofLines (count : Nat) (lines : List (List UInt8)) : List Input :=
  (lines.zipIdx count).filterMap fun (line, index) => ofLine? (index + 1) line

theorem ofLines_cons (count : Nat) (line : List UInt8) (later : List (List UInt8)) :
    ofLines count (line :: later) =
      (ofLine? (count + 1) line).toList ++ ofLines (count + 1) later := by
  unfold ofLines
  rw [List.zipIdx_cons]
  cases hline : ofLine? (count + 1) line with
  | none => simp [List.filterMap_cons_none, hline]
  | some input => simp [List.filterMap_cons_some, hline]

theorem ofLines_append (count : Nat) (lines later : List (List UInt8)) :
    ofLines count (lines ++ later) =
      ofLines count lines ++ ofLines (count + lines.length) later := by
  unfold ofLines
  rw [List.zipIdx_append, List.filterMap_append]

theorem ofBytes_of_cut {bytes : List UInt8} {lines : List (List UInt8)}
    (hcut : Lines.Cut bytes lines) : ofBytes bytes = ofLines 0 lines := by
  rw [ofBytes, hcut.split_eq, ofLines]

section Line

variable {number : Nat} {line : List UInt8} {text : String}

theorem ofLine?_of_unreadable (hline : Lines.decode? line = none) :
    ofLine? number line = some (.error .unreadable) := by
  simp only [ofLine?, hline]

theorem ofLine?_of_blank (htext : Lines.decode? line = some text)
    (hblank : ∀ c ∈ text.toList, Text.isBlank c = true) : ofLine? number line = none := by
  simp only [ofLine?, htext, (Text.trimmed_eq_empty_iff text).mpr hblank, if_true]

theorem ofLine?_of_text (htext : Lines.decode? line = some text)
    (hblank : ¬ ∀ c ∈ text.toList, Text.isBlank c = true) :
    ofLine? number line =
      some ((Timestamp.read (Text.trimmed text)).mapError (.badLine number)) := by
  simp only [ofLine?, htext, if_neg (mt (Text.trimmed_eq_empty_iff text).mp hblank)]

theorem ofLine?_of_means {reading : Option Int} (hmeans : Lines.Means line reading) :
    ofLine? number line = reading.map fun millis => .ok (.at millis) := by
  cases hmeans with
  | blank text htext hblank => exact ofLine?_of_blank htext hblank
  | instant text millis htext hmillis =>
      have hblank : ¬ ∀ c ∈ text.toList, Text.isBlank c = true := by
        intro hall
        rw [(Text.trim_eq_nil_iff _).mpr hall] at hmillis
        cases hmillis.read_eq
      have hread : Timestamp.Means (Text.trimmed text) millis := by
        rwa [Timestamp.Means, Text.toList_trimmed]
      rw [ofLine?_of_text htext hblank, Timestamp.read_of_means hread]
      rfl

theorem exists_faults_of_not_means (hnone : ∀ reading, ¬ Lines.Means line reading)
    (hgiven : ofLine? number line ≠ some (.ok .now)) :
    ∃ failure, Lines.Faults number line failure ∧
      ofLine? number line = some (.error failure) := by
  cases htext : Lines.decode? line with
  | none => exact ⟨.unreadable, .unreadable htext, ofLine?_of_unreadable htext⟩
  | some text =>
      have hblank : ¬ ∀ c ∈ text.toList, Text.isBlank c = true :=
        fun hall => hnone none (.blank text htext hall)
      have hmillis : ∀ millis, ¬ Timestamp.Means (Text.trimmed text) millis := by
        intro millis hmeans
        rw [Timestamp.Means, Text.toList_trimmed] at hmeans
        exact hnone (some millis) (.instant text millis htext hmeans)
      rw [ofLine?_of_text htext hblank] at hgiven ⊢
      have hnow : Timestamp.read (Text.trimmed text) ≠ .ok .now := by
        intro hread
        rw [hread] at hgiven
        exact hgiven rfl
      obtain ⟨fault, hfault, hread⟩ := Timestamp.read_of_not_means hmillis hnow
      rw [Text.toList_trimmed] at hfault
      refine ⟨_, .badTimestamp text fault htext hfault, ?_⟩
      rw [hread]
      rfl

theorem ofLine?_add (count : Nat) :
    ofLine? (count + number) line =
      (ofLine? number line).map (Except.mapError (Failure.after count)) := by
  unfold ofLine?
  split
  · rfl
  · rename_i text htext
    by_cases hempty : Text.trimmed text = ""
    · simp only [hempty, if_true, Option.map_none]
    · simp only [if_neg hempty, Option.map_some]
      cases Timestamp.read (Text.trimmed text) <;> rfl

end Line

theorem ofLines_add (count number : Nat) (lines : List (List UInt8)) :
    ofLines (count + number) lines =
      (ofLines number lines).map (Except.mapError (Failure.after count)) := by
  induction lines generalizing number with
  | nil => rfl
  | cons line later ih =>
      rw [ofLines_cons, ofLines_cons, Nat.add_assoc, ofLine?_add, ih, List.map_append,
        Option.toList_map]

-- Behind a stream whose lines are all closed, only the line numbers of another are changed.
theorem ofBytes_append (bytes second : List UInt8) (hcomplete : Lines.Complete bytes) :
    ofBytes (bytes ++ second) =
      ofBytes bytes ++
        (ofBytes second).map (Except.mapError (Failure.after (Lines.split bytes).length)) := by
  have hboth := (Lines.cut_split bytes).append hcomplete (Lines.cut_split second)
  rw [ofBytes_of_cut hboth, ofBytes_of_cut (Lines.cut_split bytes),
    ofBytes_of_cut (Lines.cut_split second), ofLines_append, Nat.add_comm 0, ofLines_add]

theorem timestamps_map_mapError (change : Failure → Failure) (inputs : List Input) :
    timestamps (inputs.map (Except.mapError change)) = timestamps inputs := by
  induction inputs with
  | nil => rfl
  | cons input rest ih =>
      cases input with
      | error failure => rfl
      | ok timestamp => exact congrArg (timestamp :: ·) ih

theorem failure?_map_mapError (change : Failure → Failure) (inputs : List Input) :
    failure? (inputs.map (Except.mapError change)) = (failure? inputs).map change := by
  induction inputs with
  | nil => rfl
  | cons input rest ih =>
      cases input with
      | error failure => rfl
      | ok timestamp => exact ih

section Leading

variable {lines rest : List (List UInt8)} {readings : List (Option Int)}

theorem timestamps_ofLines (hleading : Leading Lines.Means lines readings rest) (count : Nat)
    (hgiven : Except.ok Timestamp.now ∉ ofLines count lines) :
    timestamps (ofLines count lines) = readings.reduceOption.map .at := by
  induction hleading generalizing count with
  | nil => rfl
  | @stop line later hnone =>
      rw [ofLines_cons, List.mem_append, not_or] at hgiven
      obtain ⟨failure, -, hline⟩ :=
        exists_faults_of_not_means hnone (by simpa using hgiven.1)
      rw [ofLines_cons, hline]
      rfl
  | @cons line reading later readings rest hmeans hlater ih =>
      rw [ofLines_cons, List.mem_append, not_or] at hgiven
      have hrest := ih (count + 1) hgiven.2
      rw [ofLines_cons, ofLine?_of_means hmeans]
      cases reading with
      | none => exact hrest
      | some millis =>
          rw [List.reduceOption_cons_of_some]
          exact congrArg (Timestamp.at millis :: ·) hrest

theorem failure?_ofLines (hleading : Leading Lines.Means lines readings rest) (count : Nat)
    (hgiven : Except.ok Timestamp.now ∉ ofLines count lines) :
    rest = [] ∧ failure? (ofLines count lines) = none ∨
      ∃ line later failure, rest = line :: later ∧
        Lines.Faults (count + readings.length + 1) line failure ∧
        failure? (ofLines count lines) = some failure := by
  induction hleading generalizing count with
  | nil => exact .inl ⟨rfl, rfl⟩
  | @stop line later hnone =>
      rw [ofLines_cons, List.mem_append, not_or] at hgiven
      obtain ⟨failure, hfaults, hline⟩ :=
        exists_faults_of_not_means hnone (by simpa using hgiven.1)
      refine .inr ⟨line, later, failure, rfl, hfaults, ?_⟩
      rw [ofLines_cons, hline]
      rfl
  | @cons line reading later readings rest hmeans hlater ih =>
      rw [ofLines_cons, List.mem_append, not_or] at hgiven
      -- this line is one more before the failure, and adds no failure itself
      have hfailure : failure? (ofLines count (line :: later)) =
          failure? (ofLines (count + 1) later) := by
        rw [ofLines_cons, ofLine?_of_means hmeans]
        cases reading <;> rfl
      rw [hfailure, List.length_cons, Nat.add_comm readings.length, ← Nat.add_assoc]
      exact ih (count + 1) hgiven.2

end Leading

end Input

theorem Lines.Means.unique (line : List UInt8) (first second : Option Int)
    (hfirst : Means line first) (hsecond : Means line second) : first = second := by
  have hsame := (@Input.ofLine?_of_means 0 _ _ hfirst).symm.trans
    (Input.ofLine?_of_means hsecond)
  refine Option.map_injective (fun millis other heq => ?_) hsame
  exact Timestamp.at.inj (Except.ok.inj heq)

theorem Lines.Faults.chain_eq {number : Nat} {line : List UInt8} {failure : Failure}
    (hfaults : Faults number line failure) :
    (decode? line = none → failure.chain =
      ["Failed to read stdin", "stream did not contain valid UTF-8"]) ∧
    ∀ text, decode? line = some text →
      ∃ fault, Numeral.read (Text.trim text.toList) = .error fault ∧ failure.chain =
        [s!"stdin line {number}",
          s!"Not an epoch millisecond value: '{Text.trimmed text}'", fault.message] := by
  cases hfaults with
  | unreadable hnone => exact ⟨fun _ => rfl, fun text htext => by simp [hnone] at htext⟩
  | badTimestamp text fault hsome hfault =>
      refine ⟨fun hnone => by simp [hnone] at hsome, fun other hother => ?_⟩
      obtain rfl := Option.some.inj (hsome.symm.trans hother)
      exact ⟨fault, hfault, rfl⟩

namespace Stamper

-- A stamper with any past and any threads writes the instants of the lines of a stream, up to the
-- first line that is not UTF-8, or that is not blank and holds no numeral. That line is blamed,
-- by its number unless it cannot be read, and what is written before stays.
-- A stream whose lines are all closed and sound can be written before another.
theorem run_stream (options : List String) (policy : Policy) (seed : Int)
    (requests : List Request) (threads : Nat) (clock : Int) (out : String) (bytes : List UInt8)
    (lines : List (List UInt8)) (hcut : Lines.Cut bytes lines)
    (hgiven : Except.ok Timestamp.now ∉ Input.ofBytes bytes) :
    let style := (Style.ofSelection (Selection.ofList options)).1
    let stamper := ((Session.start options policy seed "").performAll requests).stamper
    let written := (stamper.run threads clock out (Input.ofBytes bytes)).2.1
    let failure := (stamper.run threads clock out (Input.ofBytes bytes)).2.2
    (∃ readings rest, Leading Lines.Means lines readings rest ∧
      written = out ++ Command.lines (readings.reduceOption.map style.write) ∧
      (failure = none ↔ rest = []) ∧
      ∀ line ∈ rest.head?,
        (Lines.decode? line = none → failure.map Failure.chain =
          some ["Failed to read stdin", "stream did not contain valid UTF-8"]) ∧
        ∀ text, Lines.decode? line = some text →
          ∃ fault, Numeral.read (Text.trim text.toList) = .error fault ∧
            failure.map Failure.chain = some
              [s!"stdin line {readings.length + 1}",
                s!"Not an epoch millisecond value: '{Text.trimmed text}'", fault.message]) ∧
    (failure = none → Lines.Complete bytes → ∀ second,
      let later := stamper.run threads clock "" (Input.ofBytes second)
      (stamper.run threads clock out (Input.ofBytes (bytes ++ second))).2 =
        (written ++ later.2.1, later.2.2.map (Failure.after lines.length))) ∧
    ∀ orders : Nat → List Nat, (∀ turn, Joins threads (orders turn)) →
      stamper.runRaced threads orders clock out (Input.ofBytes bytes) =
        stamper.run threads clock out (Input.ofBytes bytes) := by
  intro style stamper written failure
  have hsound : stamper.memo.Sound :=
    Session.sound_performAll_start options policy seed "" requests
  have hstyle : stamper.memo.style = style :=
    congrArg Memo.style (Session.memo_performAll_start options policy seed "" requests)
  have hrun := fun out inputs => stamper.run_of_sound hsound threads clock out inputs
  simp only [hstyle] at hrun
  have hwritten : written = out ++ Input.written style clock (Input.ofBytes bytes) :=
    congrArg Prod.fst (hrun out _)
  have hfailure : failure = Input.failure? (Input.ofBytes bytes) := congrArg Prod.snd (hrun out _)
  refine ⟨?_, ?_, fun orders horders =>
    stamper.runRaced_of_sound hsound threads orders horders clock out _⟩
  · rw [Input.ofBytes_of_cut hcut] at hgiven hwritten hfailure
    obtain ⟨readings, rest, hleading⟩ := exists_leading Lines.Means lines
    refine ⟨readings, rest, hleading, ?_, ?_⟩
    · rw [hwritten, Input.written_of_timestamps style clock _ _
        (Input.timestamps_ofLines hleading 0 hgiven)]
    · rcases Input.failure?_ofLines hleading 0 hgiven with
        ⟨rfl, hnone⟩ | ⟨line, later, fault, rfl, hfaults, hsome⟩
      · exact ⟨by simp [hfailure, hnone], nofun⟩
      · rw [hsome] at hfailure
        refine ⟨by simp [hfailure], ?_⟩
        rintro _ ⟨⟩
        rw [Nat.zero_add] at hfaults
        obtain ⟨hunreadable, htext⟩ := hfaults.chain_eq
        rw [hfailure]
        refine ⟨fun hnone => congrArg some (hunreadable hnone), fun text hdecode => ?_⟩
        obtain ⟨cause, hcause, hchain⟩ := htext text hdecode
        exact ⟨cause, hcause, congrArg some hchain⟩
  · intro hnone hcomplete second later
    rw [hfailure] at hnone
    have hlater : later.2 = _ := hrun "" (Input.ofBytes second)
    rw [hrun, Input.ofBytes_append bytes second hcomplete, hcut.split_eq,
      Input.failure?_append _ _ hnone, Input.failure?_map_mapError,
      Input.written_append style clock _ _ hnone, hwritten, hlater, String.append_assoc]
    simp only [Input.written, Input.timestamps_map_mapError, String.empty_append]

-- A line break of two bytes, a blank line, and a line that is no numeral; then lines in front.
theorem run_stream_third_line :
    let bytes : List UInt8 := [0x31, 0x32, 13, 10, 0x20, 10, 0x20, 0x78]
    let closed : List UInt8 := [0x2B, 0x37, 10]
    let stamper := (ofList ["UNIX_MILLIS"] .own 0).1
    let outcome := stamper.run 2 0 "" (Input.ofBytes bytes)
    Except.ok Timestamp.now ∉ Input.ofBytes bytes ∧ outcome.2.1 = "12\n" ∧
    outcome.2.2.map Failure.chain = some ["stdin line 3", "Not an epoch millisecond value: 'x'",
      "invalid digit found in string"] ∧
    (stamper.run 2 0 "" (Input.ofBytes (closed ++ bytes))).2.1 = "7\n12\n" ∧
    stamper.runRaced 2 (fun _ => [0, 1, 0, 1, 0, 1, 0, 1, 0, 1, 0, 1]) 0 ""
      (Input.ofBytes closed) = stamper.run 2 0 "" (Input.ofBytes closed) := by
  intro bytes closed stamper outcome
  have hlines : Lines.split bytes = [[0x31, 0x32], [0x20], [0x20, 0x78]] := by decide +kernel
  have hgiven : Except.ok Timestamp.now ∉ Input.ofBytes bytes := by decide +kernel
  obtain ⟨⟨readings, rest, hleading, hwritten, -, hchain⟩, -⟩ :=
    run_stream ["UNIX_MILLIS"] .own 0 [] 2 0 "" bytes _ ((Lines.cut_iff bytes _).mpr hlines) hgiven
  have hshown : Leading Lines.Means [[0x31, 0x32], [0x20], [0x20, 0x78]] [some 12, none]
      [[0x20, 0x78]] := by
    refine .cons (.instant "12" 12 (by decide +kernel)
      (Numeral.denotes_of_read (by decide +kernel))) ?_
    refine .cons (.blank " " (by decide +kernel) (List.all_eq_true.mp (by decide +kernel)))
      (.stop ?_)
    intro reading hmeans
    have hfails : Input.ofLine? 3 [0x20, 0x78] =
        some (.error (.badLine 3 (.badTimestamp "x" .invalidDigit))) := by decide +kernel
    rw [Input.ofLine?_of_means hmeans] at hfails
    cases reading <;> cases hfails
  obtain ⟨rfl, rfl⟩ := hleading.unique Lines.Means.unique hshown
  obtain ⟨-, htext⟩ := hchain _ rfl
  obtain ⟨fault, hfault, htexts⟩ := htext " x" (by decide +kernel)
  obtain rfl : fault = .invalidDigit := by
    have hread : Numeral.read (Text.trim " x".toList) = .error .invalidDigit := by decide +kernel
    exact Except.error.inj (hfault.symm.trans hread)
  obtain ⟨-, happend, hraced⟩ :=
    run_stream ["UNIX_MILLIS"] .own 0 [] 2 0 "" closed _ (Lines.cut_split closed)
      (by decide +kernel)
  have hboth := congrArg Prod.fst (happend (by decide +kernel) (.inr rfl) bytes)
  exact ⟨hgiven, hwritten.trans (by decide +kernel), htexts.trans (by decide +kernel),
    hboth.trans (by decide +kernel), hraced _ (fun _ => by decide)⟩

end Stamper

end EventTime
