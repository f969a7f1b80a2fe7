import EventTime.Command.Run
import EventTime.Proofs.Stamper.Stream
import EventTime.Proofs.Store.Append

-- What a run prints, what it puts behind its output file, and what it leaves alone.
namespace EventTime

theorem Report.exitCode_eq_zero_iff (report : Report) :
    report.exitCode = 0 ↔ report.failure = none := by
  unfold exitCode
  cases report.failure <;> simp

namespace Command

-- The style in which a command asks for its instants.
def style (command : Command) : Style :=
  (Style.ofSelection (Selection.ofList command.options.toList)).1

-- The instants that a run is given before the first argument or line that gives none,
-- and whether there is no such argument or line.
inductive Gives (command : Command) (standardInput : List UInt8) : List Int → Bool → Prop where
  | arguments {values : List Int} {rest : List String} (hsome : command.timestamps ≠ [])
      (hleading : Leading Timestamp.Means command.timestamps values rest) :
      Gives command standardInput values rest.isEmpty
  | streamed {lines rest : List (List UInt8)} {readings : List (Option Int)}
      (hnone : command.timestamps = []) (hcut : Lines.Cut standardInput lines)
      (hleading : Leading Lines.Means lines readings rest) :
      Gives command standardInput readings.reduceOption rest.isEmpty

section Run

variable (command : Command) (store : Store) (standardInput : List UInt8) (clock : Int)

theorem inputs_of_some (hsome : command.timestamps ≠ []) :
    command.inputs standardInput = command.timestamps.map Timestamp.read := by
  rw [inputs, if_neg (by simpa using hsome)]

theorem inputs_of_none (hnone : command.timestamps = []) :
    command.inputs standardInput = Input.ofBytes standardInput := by
  rw [inputs, if_pos (by simp [hnone])]

theorem stamped_eq :
    command.stamped standardInput clock =
      (Input.written command.style clock (command.inputs standardInput),
        Input.failure? (command.inputs standardInput)) := by
  have hrun := (command.stamper clock).1.run_of_sound (Memo.sound_ofStyle _ _ _) command.workers
    clock "" (command.inputs standardInput)
  rw [String.empty_append] at hrun
  exact hrun

theorem stamped_of_leading {values : List Int} {rest : List String}
    (hsome : command.timestamps ≠ [])
    (hleading : Leading Timestamp.Means command.timestamps values rest)
    (hnow : ∀ raw ∈ command.timestamps, Timestamp.read raw ≠ .ok .now) :
    command.stamped standardInput clock =
      (lines (values.map command.style.write),
        Input.failure? (command.timestamps.map Timestamp.read)) := by
  rw [command.stamped_eq, command.inputs_of_some _ hsome,
    Input.written_of_timestamps _ _ _ _ (Input.timestamps_map_read hleading hnow)]

variable {command standardInput}

theorem Gives.stamped_eq {values : List Int} {whole : Bool}
    (hgives : command.Gives standardInput values whole)
    (hgiven : Except.ok Timestamp.now ∉ command.inputs standardInput) :
    (command.stamped standardInput clock).1 = lines (values.map command.style.write) ∧
      ((command.stamped standardInput clock).2 = none ↔ whole = true) := by
  cases hgives with
  | arguments hsome hleading =>
      have hnow : ∀ raw ∈ command.timestamps, Timestamp.read raw ≠ .ok .now := by
        intro raw hraw hread
        rw [command.inputs_of_some _ hsome] at hgiven
        exact hgiven (List.mem_map.mpr ⟨raw, hraw, hread⟩)
      rw [command.stamped_of_leading _ _ hsome hleading hnow]
      refine ⟨rfl, ?_⟩
      rcases Input.failure?_map_read hleading hnow with
        ⟨rfl, hnone⟩ | ⟨raw, later, fault, rfl, -, hfault⟩
      · simp [hnone]
      · simp [hfault]
  | streamed hnone hcut hleading =>
      rw [command.inputs_of_none _ hnone, Input.ofBytes_of_cut hcut] at hgiven
      rw [command.stamped_eq, command.inputs_of_none _ hnone, Input.ofBytes_of_cut hcut]
      refine ⟨Input.written_of_timestamps _ _ _ _
        (Input.timestamps_ofLines hleading 0 hgiven), ?_⟩
      rcases Input.failure?_ofLines hleading 0 hgiven with
        ⟨rfl, hnone⟩ | ⟨line, later, failure, rfl, -, hfailure⟩
      · simp [hnone]
      · simp [hfailure]

variable (command standardInput)

section Report

variable (hlist : command.listFormats = false)
include hlist

theorem run_of_none (houtput : command.output = none) :
    command.run store standardInput clock =
      { printed := command.header ++ (command.stamped standardInput clock).1
        warnings := (command.stamper clock).2
        failure := (command.stamped standardInput clock).2
        store } := by
  simp [run, hlist, houtput]

theorem run_of_opened {path name : String} (houtput : command.output = some path)
    (hlocate : store.locate path = .ok name) :
    command.run store standardInput clock =
      { printed := command.header ++ announcement path
        warnings := (command.stamper clock).2
        failure := (command.stamped standardInput clock).2
        store := store.append name (command.stamped standardInput clock).1 } := by
  simp [run, hlist, houtput, hlocate]

variable (hopened : ∀ path ∈ command.output, ∃ name, store.locate path = .ok name)
include hopened

theorem failure_run :
    (command.run store standardInput clock).failure =
      (command.stamped standardInput clock).2 := by
  rcases command.output.eq_none_or_eq_some with houtput | ⟨path, houtput⟩
  · rw [command.run_of_none store standardInput clock hlist houtput]
  · obtain ⟨name, hlocate⟩ := hopened path houtput
    rw [command.run_of_opened store standardInput clock hlist houtput hlocate]

-- Where the timestamps come from shows only in what they come to.
theorem run_eq_of_stamped (raws : List String) (unread : List UInt8) (present : Int)
    (htext : (command.stamped standardInput clock).1 =
      ({ command with timestamps := raws }.stamped unread present).1) :
    command.run store standardInput clock =
      { { command with timestamps := raws }.run store unread present with
        failure := (command.stamped standardInput clock).2 } := by
  rcases command.output.eq_none_or_eq_some with houtput | ⟨path, houtput⟩
  · rw [command.run_of_none store standardInput clock hlist houtput, htext,
      run_of_none { command with timestamps := raws } store unread present hlist houtput]
    rfl
  · obtain ⟨name, hlocate⟩ := hopened path houtput
    rw [command.run_of_opened store standardInput clock hlist houtput hlocate, htext,
      run_of_opened { command with timestamps := raws } store unread present hlist houtput hlocate]
    rfl

end Report

end Run

section Output

variable (command : Command) (store : Store) (path name : String)
variable (hlist : command.listFormats = false) (houtput : command.output = some path)
variable (hlocate : store.locate path = .ok name)
include hlist houtput hlocate

end Output

end Command

end EventTime
