import EventTime.Command.Reader
import EventTime.Proofs.Command.Delivery

-- Timestamps on the command line and on the lines of the standard input come to the same.
namespace EventTime

-- A text that stands on a line as it stands on the command line.
-- It is no word for the present, which the two may ask for at different times.
structure Timestamp.Plain (raw : String) : Prop where
  ne_empty : raw ≠ ""
  feed : '\n' ∉ raw.toList
  head : ∀ c ∈ raw.toList.head?, Text.isBlank c = false
  last : ∀ c ∈ raw.toList.getLast?, Text.isBlank c = false
  given : Text.sameLetters raw.toList ['n', 'o', 'w'] = false

namespace Timestamp.Plain

variable {raw : String}

-- A text without blanks is one, as the line feed is a blank.
theorem of_all (hne : raw ≠ "") (hall : raw.toList.all (fun c => !Text.isBlank c) = true)
    (hgiven : Text.sameLetters raw.toList ['n', 'o', 'w'] = false) : Plain raw := by
  have hblank : ∀ c ∈ raw.toList, Text.isBlank c = false := by
    intro c hc
    simpa using List.all_eq_true.mp hall c hc
  exact
    { ne_empty := hne
      feed := fun hfeed => absurd (hblank _ hfeed) (by decide)
      head := fun c hc => hblank c (List.mem_of_mem_head? hc)
      last := fun c hc => hblank c (List.mem_of_getLast? hc)
      given := hgiven }

theorem read_ne (hplain : Plain raw) : read raw ≠ .ok .now := by
  intro hread
  rw [read, hplain.given, if_neg Bool.false_ne_true] at hread
  cases hnumeral : Numeral.read raw.toList <;> rw [hnumeral] at hread <;> cases hread

theorem trimmed_eq (hplain : Plain raw) : Text.trimmed raw = raw := by
  rw [Text.trimmed, Text.trim_eq_self _ hplain.head hplain.last, String.ofList_toList]

theorem not_blank (hplain : Plain raw) : ¬ ∀ c ∈ raw.toList, Text.isBlank c = true := by
  rw [← Text.trimmed_eq_empty_iff, hplain.trimmed_eq]
  exact hplain.ne_empty

theorem cut_cons (hplain : Plain raw) {later : List UInt8} {lines : List (List UInt8)}
    (hlater : Lines.Cut later lines) :
    Lines.Cut (Lines.encode raw ++ 10 :: later) (Lines.encode raw :: lines) :=
  .feed _ (Lines.feed_not_mem_encode raw hplain.feed) (Lines.getLast?_encode_ne raw hplain.last)
    hlater

end Timestamp.Plain

namespace Input

theorem ofLine?_encode {raw : String} (hplain : Timestamp.Plain raw) (number : Nat) :
    ofLine? number (Lines.encode raw) =
      some ((Timestamp.read raw).mapError (.badLine number)) := by
  rw [ofLine?_of_text (Lines.decode?_encode raw) hplain.not_blank, hplain.trimmed_eq]

section Encode

variable {raws : List String} (hplain : ∀ raw ∈ raws, Timestamp.Plain raw) (count : Nat)
include hplain

theorem timestamps_ofLines_encode :
    timestamps (ofLines count (raws.map Lines.encode)) =
      timestamps (raws.map Timestamp.read) := by
  induction raws generalizing count with
  | nil => rfl
  | cons raw rest ih =>
      have hrest :=
        ih (fun other hother => hplain other (List.mem_cons_of_mem _ hother)) (count + 1)
      rw [List.map_cons, List.map_cons, ofLines_cons,
        ofLine?_encode (hplain raw List.mem_cons_self)]
      cases Timestamp.read raw with
      | error failure => rfl
      | ok timestamp => exact congrArg (timestamp :: ·) hrest

-- What fails on a line fails on the command line, and is told with the number of the line.
theorem failure?_ofLines_encode :
    failure? (ofLines count (raws.map Lines.encode)) =
      (failure? (raws.map Timestamp.read)).map
        (.badLine (count + (timestamps (raws.map Timestamp.read)).length + 1)) := by
  induction raws generalizing count with
  | nil => rfl
  | cons raw rest ih =>
      have hrest :=
        ih (fun other hother => hplain other (List.mem_cons_of_mem _ hother)) (count + 1)
      rw [List.map_cons, List.map_cons, ofLines_cons,
        ofLine?_encode (hplain raw List.mem_cons_self)]
      cases Timestamp.read raw with
      | error failure => rfl
      | ok timestamp =>
          have hnumber :
              count + (timestamps (.ok timestamp :: rest.map Timestamp.read)).length + 1 =
              count + 1 + (timestamps (rest.map Timestamp.read)).length + 1 := by
            simp only [timestamps, List.length_cons]
            omega
          rw [hnumber]
          exact hrest

end Encode

end Input

namespace Command

theorem cut_encode_lines {raws : List String} (hplain : ∀ raw ∈ raws, Timestamp.Plain raw) :
    Lines.Cut (Lines.encode (lines raws)) (raws.map Lines.encode) := by
  induction raws with
  | nil => exact .nil
  | cons raw rest ih =>
      have hrest := ih fun other hother => hplain other (List.mem_cons_of_mem _ hother)
      have hfeed : Lines.encode "\n" = [10] := by decide +kernel
      rw [lines_cons, Lines.encode_append, Lines.encode_append, hfeed, List.append_assoc]
      exact (hplain raw List.mem_cons_self).cut_cons hrest

-- Two hyphens alone make timestamps of all arguments behind them.
theorem Progress.readAll_append (progress : Progress) (settings raws : List String)
    (hhyphens : "--" ∉ settings) :
    progress.readAll (settings ++ "--" :: raws) =
      (progress.readAll settings).map
        fun done => { done with timestamps := done.timestamps ++ raws } := by
  induction settings generalizing progress with
  | nil =>
      simp only [List.nil_append, readAll, if_true]
      cases progress.settle <;> rfl
  | cons argument rest ih =>
      obtain ⟨hfirst, hrest⟩ := List.ne_and_not_mem_of_not_mem_cons hhyphens
      simp only [List.cons_append, readAll, if_neg hfirst.symm]
      cases progress.readArgument argument with
      | error stop => rfl
      | ok next => exact ih next hrest

theorem read_append (settings raws : List String) (hhyphens : "--" ∉ settings) :
    read (settings ++ "--" :: raws) =
      (read settings).map
        fun command => { command with timestamps := command.timestamps ++ raws } := by
  rw [read, Progress.readAll_append _ _ _ hhyphens, read]
  cases Progress.start.readAll settings <;> rfl

section Plain

variable (command : Command) {raws : List String} {values : List Int} {rest : List String}
variable (hplain : ∀ raw ∈ raws, Timestamp.Plain raw)
variable (hleading : Leading Timestamp.Means raws values rest)
include hplain hleading

theorem stamped_arguments (hraws : raws ≠ []) (unread : List UInt8) (clock : Int) :
    { command with timestamps := raws }.stamped unread clock =
      (lines (values.map command.style.write), Input.failure? (raws.map Timestamp.read)) :=
  stamped_of_leading { command with timestamps := raws } unread clock hraws hleading
    fun raw hraw => (hplain raw hraw).read_ne

theorem stamped_piped (hnone : command.timestamps = []) {piped : List UInt8}
    (hcut : Lines.Cut piped (raws.map Lines.encode)) (clock : Int) :
    command.stamped piped clock =
      (lines (values.map command.style.write),
        (Input.failure? (raws.map Timestamp.read)).map (.badLine (values.length + 1))) := by
  have htimestamps :=
    Input.timestamps_map_read hleading fun raw hraw => (hplain raw hraw).read_ne
  have hpiped := (Input.timestamps_ofLines_encode hplain 0).trans htimestamps
  rw [command.stamped_eq, command.inputs_of_none _ hnone, Input.ofBytes_of_cut hcut,
    Input.written_of_timestamps _ _ _ _ hpiped, Input.failure?_ofLines_encode hplain, htimestamps,
    List.length_map, Nat.zero_add]

end Plain

-- Timestamps behind two hyphens and on the lines of the standard input make for the same output,
-- printed lines and exit code. A failure is told with the number of its line in front.
-- What is written does not depend on the threads, the talk or the place it goes to.
theorem run_sources (settings raws : List String) (command : Command) (store : Store)
    (hread : read settings = .ok command) (hhyphens : "--" ∉ settings)
    (hnone : command.timestamps = []) (hlist : command.listFormats = false)
    (hopened : ∀ path ∈ command.output, ∃ name, store.locate path = .ok name)
    (hraws : raws ≠ []) (hplain : ∀ raw ∈ raws, Timestamp.Plain raw) :
    let given := { command with timestamps := raws }
    read (settings ++ "--" :: raws) = .ok given ∧
    Lines.Cut (Lines.encode (lines raws)) (raws.map Lines.encode) ∧
    ∃ values rest, Leading Timestamp.Means raws values rest ∧
      let text := lines (values.map command.style.write)
      (∀ (unread piped : List UInt8) (clock later : Int),
        Lines.Cut piped (raws.map Lines.encode) →
        let positional := given.run store unread clock
        let lined := command.run store piped later
        lined = { positional with
          failure := positional.failure.map (.badLine (values.length + 1)) } ∧
        lined.exitCode = positional.exitCode ∧ (positional.exitCode = 0 ↔ rest = []) ∧
        lined.failure.map Failure.chain = positional.failure.map (fun failure =>
          s!"stdin line {values.length + 1}" :: failure.chain) ∧
        ∀ raw ∈ rest.head?, ∃ fault, Numeral.read raw.toList = .error fault ∧
          positional.failure = some (.badTimestamp raw fault)) ∧
      (∀ (threads : Nat) (verbose : Bool) (unread : List UInt8) (clock : Int),
        let shown := { given with threads := threads, verbose := verbose, output := none }
        (shown.run store unread clock).printed = shown.header ++ text ∧
        ∀ path name, store.locate path = .ok name →
          ({ shown with output := some path }.run store unread clock).store =
            store.append name text) ∧
      ∀ (orders : Nat → List Nat), (∀ turn, Stamper.Joins command.workers (orders turn)) →
        ∀ (clock : Int) (inputs : List Input),
          (command.stamper clock).1.runRaced command.workers orders clock "" inputs =
            (command.stamper clock).1.run command.workers clock "" inputs := by
  intro given
  obtain ⟨values, rest, hleading⟩ := exists_leading Timestamp.Means raws
  have hstamped := fun present : Command =>
    present.stamped_arguments hplain hleading hraws
  refine ⟨?_, cut_encode_lines hplain, values, rest, hleading, ?_, ?_, ?_⟩
  · rw [read_append settings raws hhyphens, hread]
    simp only [Except.map, hnone, List.nil_append, given]
  · intro unread piped clock later hcut positional lined
    have hpiped := command.stamped_piped hplain hleading hnone hcut later
    have hfailure : positional.failure = Input.failure? (raws.map Timestamp.read) := by
      rw [given.failure_run store unread clock hlist hopened, hstamped command unread clock]
    have hlined : lined = { positional with
        failure := positional.failure.map (.badLine (values.length + 1)) } := by
      have hsame := command.run_eq_of_stamped store piped later hlist hopened raws unread clock
        (by rw [hpiped, hstamped command unread clock])
      rw [hfailure]
      rw [hpiped] at hsame
      exact hsame
    have hfirst : (positional.exitCode = 0 ↔ rest = []) ∧ ∀ raw ∈ rest.head?,
        ∃ fault, Numeral.read raw.toList = .error fault ∧
          positional.failure = some (.badTimestamp raw fault) := by
      rw [positional.exitCode_eq_zero_iff, hfailure]
      rcases Input.failure?_map_read hleading fun raw hraw => (hplain raw hraw).read_ne with
        ⟨rfl, hwhole⟩ | ⟨raw, others, fault, rfl, hfault, hsome⟩
      · exact ⟨by simp [hwhole], nofun⟩
      · refine ⟨by simp [hsome], ?_⟩
        rintro _ ⟨⟩
        exact ⟨fault, hfault, hsome⟩
    refine ⟨hlined, ?_, hfirst.1, ?_, hfirst.2⟩
    · rw [hlined]
      unfold Report.exitCode
      rw [Option.isSome_map]
    · rw [hlined, Option.map_map]
      rfl
  · intro threads verbose unread clock shown
    refine ⟨?_, fun path name hlocate => ?_⟩
    · rw [shown.run_of_none store unread clock hlist rfl, hstamped shown unread clock]
      rfl
    · rw [run_of_opened { shown with output := some path } store unread clock hlist rfl hlocate,
        hstamped { shown with output := some path } unread clock]
      rfl
  · intro orders horders clock inputs
    exact Stamper.runRaced_of_sound _ (Memo.sound_ofStyle _ _ _) _ orders horders clock "" inputs

-- A third timestamp that is no numeral, behind two that are written into a file with content.
theorem run_sources_third_bad :
    let settings := ["-f", "UNIX_MILLIS", "--threads", "0", "-o", "out.txt"]
    let raws := ["+5", "007", "x", "9"]
    let command : Command := ⟨some "UNIX_MILLIS", none, 0, some "out.txt", false, false, []⟩
    let given := { command with timestamps := raws }
    let store : Store := ⟨[("out.txt", "0\n")]⟩
    let lined := command.run store (Lines.encode (lines raws)) 4
    read (settings ++ "--" :: raws) = .ok given ∧ lined.store = (given.run store [] 3).store ∧
      lined.store = ⟨[("out.txt", "0\n5\n7\n")]⟩ ∧ lined.exitCode = 1 ∧
      lined.failure.map Failure.chain = some ["stdin line 3", "Not an epoch millisecond value: 'x'",
        "invalid digit found in string"] := by
  intro settings raws command given store lined
  have hplain : ∀ raw ∈ raws, Timestamp.Plain raw := by
    intro raw hraw
    simp only [raws, List.mem_cons, List.not_mem_nil, or_false] at hraw
    rcases hraw with rfl | rfl | rfl | rfl <;> apply Timestamp.Plain.of_all <;> decide +kernel
  have hopened : ∀ path ∈ command.output, ∃ name, store.locate path = .ok name := by
    rintro _ ⟨⟩
    exact ⟨"out.txt", by decide +kernel⟩
  obtain ⟨hread, hcut, values, rest, hleading, hagree, -⟩ :=
    run_sources settings raws command store (by decide +kernel) (by decide) rfl rfl hopened nofun
      hplain
  obtain ⟨hlined, hexit, -, hchain, -⟩ := hagree [] _ 3 4 hcut
  have hshown : Leading Timestamp.Means raws [5, 7] ["x", "9"] := by
    refine .cons (Numeral.denotes_of_read (by decide +kernel))
      (.cons (Numeral.denotes_of_read (by decide +kernel)) (.stop ?_))
    intro millis hmeans
    have hfails : Numeral.read "x".toList = .error .invalidDigit := by decide +kernel
    cases hmeans.read_eq.symm.trans hfails
  obtain ⟨rfl, rfl⟩ := hleading.unique Timestamp.Means.unique hshown
  have hstore := congrArg Report.store hlined
  exact ⟨hread, hstore, hstore.trans (by decide +kernel), hexit.trans (by decide +kernel),
    hchain.trans (by decide +kernel)⟩

end Command

end EventTime
