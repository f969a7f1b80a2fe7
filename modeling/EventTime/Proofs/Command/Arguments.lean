import EventTime.Command.Usage
import EventTime.Proofs.Command.Sources
import Mathlib.Data.List.Duplicate

-- Options may stand in any order, and anywhere between the timestamps. Each may be given once.
namespace EventTime.Command

-- An option that a command line can be given, with its value if it takes one.
inductive Choice where
  | format (template : String)
  | zone (id : String)
  | threads (count : Nat)
  | output (path : String)
  | listFormats
  | verbose
  deriving DecidableEq, Repr

namespace Choice

def name : Choice → Setting ⊕ Switch
  | format _ => .inl .format
  | zone _ => .inl .zone
  | threads _ => .inl .threads
  | output _ => .inl .output
  | listFormats => .inr .listFormats
  | verbose => .inr .verbose

-- The value of an option is written behind an equals sign.
def attach (setting : Setting) (value : String) : String := setting.longName ++ "=" ++ value

-- The option as one argument of a command line.
def argument : Choice → String
  | format template => attach .format template
  | zone id => attach .zone id
  | threads count => attach .threads (String.ofList (Decimal.natural count))
  | output path => attach .output path
  | listFormats => Switch.listFormats.longName
  | verbose => Switch.verbose.longName

-- Counts of threads fit in 64 bits, and paths are not empty.
def Proper : Choice → Prop
  | threads count => count < 2 ^ 64
  | output path => path ≠ ""
  | _ => True

end Choice

-- What a command asks for, one option at a time.
def Asks (command : Command) : Choice → Prop
  | .format template => command.format = some template
  | .zone id => command.zone = some id
  | .threads count => command.threads = count
  | .output path => command.output = some path
  | .listFormats => command.listFormats = true
  | .verbose => command.verbose = true

-- Options that ask for all that the command asks for, each once. One thread need not be asked for.
structure AskedBy (command : Command) (choices : List Choice) : Prop where
  nodup : choices.Nodup
  asks : ∀ choice ∈ choices, command.Asks choice
  complete : ∀ choice, command.Asks choice → choice ∈ choices ∨ choice = .threads 1

-- Two lists of arguments put into one, each in its own order.
inductive Interleaved : List String → List String → List String → Prop where
  | nil : Interleaved [] [] []
  | left {options timestamps arguments : List String} (option : String)
      (hrest : Interleaved options timestamps arguments) :
      Interleaved (option :: options) timestamps (option :: arguments)
  | right {options timestamps arguments : List String} (raw : String)
      (hrest : Interleaved options timestamps arguments) :
      Interleaved options (raw :: timestamps) (raw :: arguments)

-- The reason to stop at an option that is given again.
def Stop.repeated : Setting ⊕ Switch → Stop
  | .inl setting => .repeatedSetting setting
  | .inr switch => .repeatedSwitch switch

-- No argument that begins with a hyphen.
def Unhyphened (raw : String) : Prop := raw.toList.head? ≠ some '-'

theorem AskedBy.proper {command : Command} {choices : List Choice}
    (hasked : command.AskedBy choices) (hthreads : command.threads < 2 ^ 64)
    (houtput : command.output ≠ some "") : ∀ choice ∈ choices, choice.Proper := by
  intro choice hchoice
  have hasks := hasked.asks choice hchoice
  cases choice with
  | threads count => exact hasks ▸ hthreads
  | output path =>
      rintro rfl
      exact houtput hasks
  | _ => trivial

-- A command asks for one value of each option, so that no option comes twice.
theorem AskedBy.nodup_names {command : Command} {choices : List Choice}
    (hasked : command.AskedBy choices) : (choices.map Choice.name).Nodup := by
  refine List.Nodup.map_on ?_ hasked.nodup
  intro first hfirst second hsecond hname
  have hasks := hasked.asks first hfirst
  have hother := hasked.asks second hsecond
  cases first <;> cases second <;> simp_all [Choice.name, Asks]

namespace Progress

-- What has been read gives the option that value.
def Has (progress : Progress) : Choice → Prop
  | .format template => progress.format = some template
  | .zone id => progress.zone = some id
  | .threads count => progress.threads = some count
  | .output path => progress.output = some path
  | .listFormats => progress.listFormats = true
  | .verbose => progress.verbose = true

def put (progress : Progress) : Choice → Progress
  | .format template => { progress with format := some template }
  | .zone id => { progress with zone := some id }
  | .threads count => { progress with threads := some count }
  | .output path => { progress with output := some path }
  | .listFormats => { progress with listFormats := true }
  | .verbose => { progress with verbose := true }

-- An option of that name has been read, whatever its value.
def gave (progress : Progress) : Setting ⊕ Switch → Bool
  | .inl .format => progress.format.isSome
  | .inl .zone => progress.zone.isSome
  | .inl .threads => progress.threads.isSome
  | .inl .output => progress.output.isSome
  | .inr .listFormats => progress.listFormats
  | .inr .verbose => progress.verbose
  | .inr .help => false
  | .inr .version => false

-- Reads an option.
def take (progress : Progress) : Choice → Except Stop Progress
  | .format template => progress.assign .format template
  | .zone id => progress.assign .zone id
  | .threads count => progress.assign .threads (String.ofList (Decimal.natural count))
  | .output path => progress.assign .output path
  | .listFormats => progress.turnOn .listFormats
  | .verbose => progress.turnOn .verbose

end Progress

theorem Setting.exists_longName (setting : Setting) :
    ∃ name, setting.longName.toList = '-' :: '-' :: name ∧ '=' ∉ name ∧
      Command.longName (String.ofList name) = some (.inl setting) := by
  cases setting <;> exact ⟨_, rfl, by decide, rfl⟩

theorem Switch.exists_longName (switch : Switch) :
    ∃ name, switch.longName.toList = '-' :: '-' :: name ∧ '=' ∉ name ∧
      Command.longName (String.ofList name) = some (.inr switch) := by
  cases switch <;> exact ⟨_, rfl, by decide, rfl⟩

section Names

variable {name : List Char} (hname : '=' ∉ name)
include hname

theorem ne_equals_of_mem (c : Char) (hc : c ∈ name) : decide (c ≠ '=') = true := by
  rw [decide_eq_true_eq]
  rintro rfl
  exact hname hc

theorem takeWhile_name (value : List Char) :
    (name ++ '=' :: value).takeWhile (· ≠ '=') = name := by
  rw [List.takeWhile_append_of_pos (ne_equals_of_mem hname)]
  simp

theorem attached?_name (value : List Char) :
    Progress.attached? (name ++ '=' :: value) = some (String.ofList value) := by
  have hmem : '=' ∈ name ++ '=' :: value := by simp
  have hdrop : (name ++ '=' :: value).dropWhile (· ≠ '=') = '=' :: value := by
    rw [List.dropWhile_append_of_pos (ne_equals_of_mem hname)]
    simp
  rw [Progress.attached?, if_pos hmem, hdrop, List.drop_one, List.tail_cons]

end Names

namespace Progress

section Reading

variable {progress : Progress} (hpending : progress.pending = none)
include hpending

theorem settle_of_pending_eq_none : progress.settle = .ok progress := by
  rw [settle, hpending]

theorem readArgument_attach (setting : Setting) (value : String) :
    progress.readArgument (Choice.attach setting value) = progress.assign setting value := by
  obtain ⟨name, hname, hequals, hlong⟩ := setting.exists_longName
  have htext : (Choice.attach setting value).toList =
      '-' :: '-' :: (name ++ '=' :: value.toList) := by
    simp [Choice.attach, hname]
  simp only [readArgument, htext, readLong, takeWhile_name hequals, hlong,
    attached?_name hequals, takeSetting, settle_of_pending_eq_none hpending, String.ofList_toList]
  rfl

theorem readArgument_longName (switch : Switch) :
    progress.readArgument switch.longName = progress.turnOn switch := by
  obtain ⟨name, hname, hequals, hlong⟩ := switch.exists_longName
  have htake : name.takeWhile (· ≠ '=') = name :=
    List.takeWhile_eq_self_iff.mpr (ne_equals_of_mem hequals)
  simp only [readArgument, hname, readLong, htake, hlong, attached?, if_neg hequals, takeSwitch,
    settle_of_pending_eq_none hpending]
  rfl

theorem readArgument_argument (choice : Choice) :
    progress.readArgument choice.argument = progress.take choice := by
  cases choice with
  | format template => exact readArgument_attach hpending .format template
  | zone id => exact readArgument_attach hpending .zone id
  | threads count => exact readArgument_attach hpending .threads _
  | output path => exact readArgument_attach hpending .output path
  | listFormats => exact readArgument_longName hpending .listFormats
  | verbose => exact readArgument_longName hpending .verbose

theorem readArgument_of_unhyphened (raw : String) (hraw : Unhyphened raw) :
    progress.readArgument raw =
      .ok { progress with timestamps := progress.timestamps ++ [raw] } := by
  have htake : progress.takePlain raw =
      .ok { progress with timestamps := progress.timestamps ++ [raw] } := by
    simp only [takePlain, hpending, settle_of_pending_eq_none hpending, bind, Except.bind]
  unfold Unhyphened at hraw
  unfold readArgument
  split
  · rename_i hhyphens
    rw [hhyphens] at hraw
    exact absurd rfl hraw
  · rename_i hhyphen
    rw [hhyphen] at hraw
    exact absurd rfl hraw
  · exact htake

end Reading

end Progress

theorem count?_natural (count : Nat) (hcount : count < 2 ^ 64) :
    Numeral.count? (Decimal.natural count) = some count := by
  have hread := Numeral.natural?_natural count
  unfold Numeral.count?
  split
  · rename_i digits hplus
    have hdigit := Numeral.isDigit_of_natural? hread '+' (hplus ▸ List.mem_cons_self)
    cases hdigit
  · simp only [hread]
    exact Option.filter_some_pos (by simpa using hcount)

namespace Progress

section Taking

variable (progress : Progress)

-- An option is taken unless one of its name has been taken before.
theorem take_eq (choice : Choice) (hproper : choice.Proper) :
    progress.take choice =
      if progress.gave choice.name then .error (.repeated choice.name)
      else .ok (progress.put choice) := by
  cases choice with
  | threads count =>
      have hread : Numeral.count? (String.ofList (Decimal.natural count)).toList = some count := by
        rw [String.toList_ofList, count?_natural count hproper]
      simp only [take, assign, hread]
      rfl
  | output path => simp only [take, assign, if_neg hproper]; rfl
  | _ => rfl

theorem has_put (choice given : Choice) (hnew : progress.gave choice.name = false) :
    (progress.put choice).Has given ↔ progress.Has given ∨ choice = given := by
  cases choice <;> cases given <;> simp_all [put, Has, gave, Choice.name]

theorem gave_put (choice : Choice) (name : Setting ⊕ Switch) :
    (progress.put choice).gave name = true ↔ progress.gave name = true ∨ choice.name = name := by
  rcases name with setting | switch
  · cases choice <;> cases setting <;> simp [put, gave, Choice.name]
  · cases choice <;> cases switch <;> simp [put, gave, Choice.name]

theorem pending_put (choice : Choice) : (progress.put choice).pending = progress.pending := by
  cases choice <;> rfl

theorem timestamps_put (choice : Choice) :
    (progress.put choice).timestamps = progress.timestamps := by
  cases choice <;> rfl

end Taking

-- All that has been read are these options and timestamps.
structure Records (progress : Progress) (choices : List Choice) (timestamps : List String) :
    Prop where
  has : ∀ choice, progress.Has choice ↔ choice ∈ choices
  gave : ∀ name, progress.gave name = true ↔ name ∈ choices.map Choice.name
  timestamps : progress.timestamps = timestamps
  pending : progress.pending = none

theorem records_start : start.Records [] [] where
  has choice := by cases choice <;> simp [Has, start]
  gave name := by rcases name with setting | switch <;> cases ‹_› <;> simp [Progress.gave, start]
  timestamps := rfl
  pending := rfl

section Run

variable {progress : Progress} {seen : List Choice} {early : List String}

theorem Records.put (hrecords : progress.Records seen early) (choice : Choice)
    (hnew : progress.gave choice.name = false) :
    (progress.put choice).Records (seen ++ [choice]) early where
  has given := by
    rw [progress.has_put choice given hnew, hrecords.has, List.mem_append, List.mem_singleton,
      eq_comm]
  gave name := by
    rw [progress.gave_put, hrecords.gave, List.map_append, List.mem_append, List.map_singleton,
      List.mem_singleton, eq_comm]
  timestamps := (progress.timestamps_put choice).trans hrecords.timestamps
  pending := (progress.pending_put choice).trans hrecords.pending

theorem Records.append (hrecords : progress.Records seen early) (raws : List String) :
    Records { progress with timestamps := progress.timestamps ++ raws } seen (early ++ raws) where
  has choice := by
    rw [← hrecords.has]
    cases choice <;> rfl
  gave name := by
    rw [← hrecords.gave]
    rcases name with setting | switch <;> cases ‹_› <;> rfl
  timestamps := congrArg (· ++ raws) hrecords.timestamps
  pending := hrecords.pending

theorem Records.readAll_nil (hrecords : progress.Records seen early) :
    progress.readAll [] = .ok progress :=
  settle_of_pending_eq_none hrecords.pending

theorem Records.readAll_hyphens (hrecords : progress.Records seen early) (raws : List String) :
    progress.readAll ("--" :: raws) =
      .ok { progress with timestamps := progress.timestamps ++ raws } := by
  rw [readAll, if_pos rfl, settle_of_pending_eq_none hrecords.pending]
  rfl

end Run

end Progress

-- More stands behind the two hyphens of an option.
theorem Choice.attach_ne (setting : Setting) (value : String) : attach setting value ≠ "--" := by
  intro hhyphens
  have hequals : '=' ∈ (attach setting value).toList := by simp [attach]
  rw [hhyphens] at hequals
  exact absurd hequals (by decide)

theorem Choice.argument_ne (choice : Choice) : choice.argument ≠ "--" := by
  cases choice with
  | format template => exact attach_ne .format template
  | zone id => exact attach_ne .zone id
  | threads count => exact attach_ne .threads _
  | output path => exact attach_ne .output path
  | listFormats => decide
  | verbose => decide

theorem Unhyphened.ne {raw : String} (hraw : Unhyphened raw) : raw ≠ "--" := by
  rintro rfl
  exact hraw rfl

namespace Progress

section Interleaved

variable {progress : Progress} {seen choices : List Choice} {early timestamps : List String}
variable {arguments : List String}

theorem readAll_argument (hpending : progress.pending = none) (choice : Choice)
    (hproper : choice.Proper) (rest : List String) :
    progress.readAll (choice.argument :: rest) =
      if progress.gave choice.name then .error (.repeated choice.name)
      else (progress.put choice).readAll rest := by
  rw [readAll, if_neg choice.argument_ne, readArgument_argument hpending,
    progress.take_eq choice hproper]
  split <;> rfl

theorem readAll_of_unhyphened (hpending : progress.pending = none) (raw : String)
    (hraw : Unhyphened raw) (rest : List String) :
    progress.readAll (raw :: rest) =
      { progress with timestamps := progress.timestamps ++ [raw] }.readAll rest := by
  rw [readAll, if_neg hraw.ne, readArgument_of_unhyphened hpending raw hraw]
  rfl

-- A setting that has a value takes no other, not even one that would not suit it.
theorem readAll_attach_of_gave (hpending : progress.pending = none) (setting : Setting)
    (hgave : progress.gave (.inl setting) = true) (value : String) (rest : List String) :
    progress.readAll (Choice.attach setting value :: rest) =
      .error (.repeatedSetting setting) := by
  have hassign : progress.assign setting value = .error (.repeatedSetting setting) := by
    cases setting <;> exact if_pos hgave
  rw [readAll, if_neg (Choice.attach_ne setting value), readArgument_attach hpending, hassign]
  rfl

-- Options and timestamps are read one after the other, up to the first option given again.
-- What comes behind them is not looked at before.
theorem Records.readAll (hrecords : progress.Records seen early)
    (hseen : (seen.map Choice.name).Nodup)
    (hinterleaved : Interleaved (choices.map Choice.argument) timestamps arguments)
    (hproper : ∀ choice ∈ choices, choice.Proper) (hplain : ∀ raw ∈ timestamps, Unhyphened raw) :
    (((seen ++ choices).map Choice.name).Nodup ∧ ∃ done : Progress,
      done.Records (seen ++ choices) (early ++ timestamps) ∧
      ∀ rest, progress.readAll (arguments ++ rest) = done.readAll rest) ∨
    ∃ name, List.Duplicate name ((seen ++ choices).map Choice.name) ∧
      ∀ rest, progress.readAll (arguments ++ rest) = .error (.repeated name) := by
  generalize hoptions : choices.map Choice.argument = options at hinterleaved
  induction hinterleaved generalizing progress seen early choices with
  | nil =>
      obtain rfl := List.map_eq_nil_iff.mp hoptions
      rw [List.append_nil, List.append_nil]
      exact .inl ⟨hseen, progress, hrecords, fun rest => rfl⟩
  | left option hrest ih =>
      obtain ⟨choice, others, rfl, rfl, hothers⟩ := List.map_eq_cons_iff.mp hoptions
      obtain ⟨hfirst, hproper⟩ := List.forall_mem_cons.mp hproper
      have hread := progress.readAll_argument hrecords.pending choice hfirst
      by_cases hgave : progress.gave choice.name = true
      case pos =>
        have hbefore := List.singleton_sublist.mpr ((hrecords.gave choice.name).mp hgave)
        have hagain : [choice.name].Sublist ((choice :: others).map Choice.name) :=
          List.singleton_sublist.mpr List.mem_cons_self
        refine .inr ⟨choice.name, ?_, fun rest => ?_⟩
        · rw [List.map_append, List.duplicate_iff_sublist]
          exact hbefore.append hagain
        · rw [List.cons_append, hread, if_pos hgave]
      case neg =>
        have hnew := (hrecords.gave choice.name).not.mp hgave
        have hnodup : ((seen ++ [choice]).map Choice.name).Nodup := by
          rw [List.map_append, List.map_singleton, ← List.concat_eq_append]
          exact hseen.concat hnew
        have hlater := ih (hrecords.put choice (eq_false_of_ne_true hgave)) hnodup hproper hplain
          hothers
        simp only [List.append_assoc, List.singleton_append] at hlater
        simpa only [List.cons_append, hread, if_neg hgave] using hlater
  | right raw hrest ih =>
      obtain ⟨hfirst, hplain⟩ := List.forall_mem_cons.mp hplain
      have hread := progress.readAll_of_unhyphened hrecords.pending raw hfirst
      have hlater := ih (hrecords.append [raw]) hseen hproper hplain hoptions
      simp only [List.append_assoc, List.singleton_append] at hlater
      simpa only [List.cons_append, hread] using hlater

end Interleaved

-- What has been read is what is asked for, as one thread is what comes without a number.
theorem Records.command_eq {progress : Progress} {command : Command} {choices : List Choice}
    {timestamps : List String} (hrecords : progress.Records choices timestamps)
    (hasked : command.AskedBy choices) :
    progress.command = { command with timestamps := timestamps } := by
  have hasks (choice : Choice) (hhas : progress.Has choice) : command.Asks choice :=
    hasked.asks choice ((hrecords.has choice).mp hhas)
  have hhas (choice : Choice) (hask : command.Asks choice) :
      progress.Has choice ∨ choice = .threads 1 :=
    (hasked.complete choice hask).imp_left (hrecords.has choice).mpr
  have hformat : progress.format = command.format :=
    Option.ext fun template =>
      ⟨hasks (.format template), fun hask => (hhas (.format template) hask).resolve_right nofun⟩
  have hzone : progress.zone = command.zone :=
    Option.ext fun id => ⟨hasks (.zone id), fun hask => (hhas (.zone id) hask).resolve_right nofun⟩
  have houtput : progress.output = command.output :=
    Option.ext fun path =>
      ⟨hasks (.output path), fun hask => (hhas (.output path) hask).resolve_right nofun⟩
  have hlist : progress.listFormats = command.listFormats :=
    Bool.eq_iff_iff.mpr
      ⟨hasks .listFormats, fun hask => (hhas .listFormats hask).resolve_right nofun⟩
  have hverbose : progress.verbose = command.verbose :=
    Bool.eq_iff_iff.mpr ⟨hasks .verbose, fun hask => (hhas .verbose hask).resolve_right nofun⟩
  have hthreads : progress.threads.getD 1 = command.threads := by
    cases hgiven : progress.threads with
    | some count => exact (hasks (.threads count) hgiven).symm
    | none =>
        rcases hhas (.threads command.threads) rfl with hgave | hone
        · cases hgiven.symm.trans hgave
        · exact (Choice.threads.inj hone).symm
  rw [Progress.command, hformat, hzone, houtput, hlist, hverbose, hthreads, hrecords.timestamps]

end Progress

-- The options that ask for a command, in the order of the usage.
def choices (command : Command) : List Choice :=
  (command.format.map Choice.format).toList ++ (command.zone.map Choice.zone).toList ++
    [.threads command.threads] ++ (command.output.map Choice.output).toList ++
    (if command.listFormats then [.listFormats] else []) ++
    (if command.verbose then [.verbose] else [])

theorem mem_choices (command : Command) (choice : Choice) :
    choice ∈ command.choices ↔ command.Asks choice := by
  have hnumber (count : Nat) : count = command.threads ↔ command.threads = count := eq_comm
  cases choice <;> simp [choices, Asks, hnumber]

theorem askedBy_choices (command : Command) : command.AskedBy command.choices where
  nodup := by
    obtain ⟨format, zone, threads, output, listFormats, verbose, timestamps⟩ := command
    cases format <;> cases zone <;> cases output <;> cases listFormats <;> cases verbose <;>
      simp [choices]
  asks choice := (command.mem_choices choice).mp
  complete choice hask := .inl ((command.mem_choices choice).mpr hask)

section Interleaved

variable {choices : List Choice} {timestamps arguments : List String}
variable (hinterleaved : Interleaved (choices.map Choice.argument) timestamps arguments)
variable (hplain : ∀ raw ∈ timestamps, Unhyphened raw)
include hinterleaved hplain

theorem readAll_interleaved (hproper : ∀ choice ∈ choices, choice.Proper) :
    ((choices.map Choice.name).Nodup ∧ ∃ done : Progress, done.Records choices timestamps ∧
      ∀ rest, Progress.start.readAll (arguments ++ rest) = done.readAll rest) ∨
    ∃ name, List.Duplicate name (choices.map Choice.name) ∧
      ∀ rest, Progress.start.readAll (arguments ++ rest) = .error (.repeated name) := by
  have hread :=
    Progress.records_start.readAll List.nodup_nil hinterleaved hproper hplain
  rwa [List.nil_append, List.nil_append] at hread

theorem read_of_askedBy {command : Command} (hthreads : command.threads < 2 ^ 64)
    (houtput : command.output ≠ some "") (hasked : command.AskedBy choices) {others : List String}
    (htimestamps : command.timestamps = timestamps ++ others) :
    (others = [] → read arguments = .ok command) ∧
      read (arguments ++ "--" :: others) = .ok command := by
  have hgiven : { command with timestamps := timestamps ++ others } = command := by
    rw [← htimestamps]
  rcases readAll_interleaved hinterleaved hplain (hasked.proper hthreads houtput) with
    ⟨-, done, hdone, hall⟩ | ⟨name, htwice, -⟩
  case inr => exact absurd hasked.nodup_names htwice.not_nodup
  case inl =>
    refine ⟨?_, ?_⟩
    · rintro rfl
      rw [List.append_nil] at hgiven
      rw [read, ← List.append_nil arguments, hall, hdone.readAll_nil, Except.map,
        hdone.command_eq hasked, hgiven]
    · have hlater := (hdone.append others).command_eq hasked
      rw [read, hall, hdone.readAll_hyphens, Except.map, hlater, hgiven]

theorem read_of_not_nodup (hproper : ∀ choice ∈ choices, choice.Proper)
    (htwice : ¬ (choices.map Choice.name).Nodup) :
    ∃ name, List.Duplicate name (choices.map Choice.name) ∧
      ∀ rest, read (arguments ++ rest) = .error (.repeated name) := by
  rcases readAll_interleaved hinterleaved hplain hproper with ⟨hnodup, -⟩ | ⟨name, hname, hall⟩
  · exact absurd hnodup htwice
  · refine ⟨name, hname, fun rest => ?_⟩
    rw [read, hall]
    rfl

theorem read_attach_of_mem (hproper : ∀ choice ∈ choices, choice.Proper)
    (hnodup : (choices.map Choice.name).Nodup) {setting : Setting}
    (hsetting : .inl setting ∈ choices.map Choice.name) (value : String) (rest : List String) :
    read (arguments ++ Choice.attach setting value :: rest) =
      .error (.repeatedSetting setting) := by
  rcases readAll_interleaved hinterleaved hplain hproper with
    ⟨-, done, hdone, hall⟩ | ⟨name, htwice, -⟩
  · have hgave := (hdone.gave (.inl setting)).mpr hsetting
    rw [read, hall, Progress.readAll_attach_of_gave hdone.pending setting hgave]
    rfl
  · exact absurd hnodup htwice.not_nodup

end Interleaved

theorem Interleaved.without_timestamps (options : List String) :
    Interleaved options [] options := by
  induction options with
  | nil => exact .nil
  | cons option rest ih => exact .left option ih

-- Every command that the program can hold has a command line that is read as that command.
theorem read_choices (command : Command) (hthreads : command.threads < 2 ^ 64)
    (houtput : command.output ≠ some "") :
    read (command.choices.map Choice.argument ++ "--" :: command.timestamps) = .ok command :=
  (read_of_askedBy (Interleaved.without_timestamps _) nofun hthreads houtput
    command.askedBy_choices rfl).2

-- Options and timestamps in any order ask for the same. The timestamps behind two hyphens may be
-- any texts. An option given again stops the reading, whatever its value and all that follows.
theorem read_interleaved {choices : List Choice} {timestamps arguments : List String}
    (hinterleaved : Interleaved (choices.map Choice.argument) timestamps arguments)
    (hplain : ∀ raw ∈ timestamps, Unhyphened raw) :
    (∀ (command : Command) (others : List String), command.threads < 2 ^ 64 →
      command.output ≠ some "" → command.AskedBy choices →
      command.timestamps = timestamps ++ others →
      (others = [] → read arguments = .ok command) ∧
        read (arguments ++ "--" :: others) = .ok command) ∧
    ((∀ choice ∈ choices, choice.Proper) →
      (¬ (choices.map Choice.name).Nodup → ∃ name, List.Duplicate name (choices.map Choice.name) ∧
        ∀ rest, read (arguments ++ rest) = .error (.repeated name)) ∧
      ((choices.map Choice.name).Nodup → ∀ setting, .inl setting ∈ choices.map Choice.name →
        ∀ value rest, read (arguments ++ Choice.attach setting value :: rest) =
          .error (.repeatedSetting setting))) := by
  refine ⟨?_, fun hproper => ⟨?_, ?_⟩⟩
  · intro command others hthreads houtput hasked htimestamps
    exact read_of_askedBy hinterleaved hplain hthreads houtput hasked htimestamps
  · intro htwice
    exact read_of_not_nodup hinterleaved hplain hproper htwice
  · intro hnodup setting hsetting value rest
    exact read_attach_of_mem hinterleaved hplain hproper hnodup hsetting value rest

-- Values with equals signs and hyphens, a number of threads that is no number, a format twice.
theorem read_interleaved_hyphens :
    let command : Command :=
      ⟨some "a=b", none, 3, some "-", false, true, ["5", "-7", "--verbose"]⟩
    let arguments := ["--output=-", "5", "--verbose", "--threads=3", "--format=a=b"]
    let twice := ["--format=u", "5", "--format=v"]
    read (arguments ++ ["--", "-7", "--verbose"]) = .ok command ∧
      read (arguments ++ ["--threads=x", "--what"]) = .error (.repeatedSetting .threads) ∧
      read (twice ++ ["--what"]) = .error (.repeatedSetting .format) := by
  intro command arguments twice
  have hplain : ∀ raw ∈ ["5"], Unhyphened raw := by
    intro raw hraw
    rw [List.mem_singleton.mp hraw]
    simp [Unhyphened]
  let choices : List Choice := [.output "-", .verbose, .threads 3, .format "a=b"]
  have hoptions : choices.map Choice.argument =
      ["--output=-", "--verbose", "--threads=3", "--format=a=b"] := by decide +kernel
  have hinterleaved : Interleaved (choices.map Choice.argument) ["5"] arguments :=
    hoptions ▸ .left _ (.right _ (.left _ (.left _ (.left _ .nil))))
  have hasked : command.AskedBy choices :=
    { nodup := by decide
      asks := by simp [choices, command, Asks]
      complete := by
        intro choice hask
        cases choice <;> simp_all [choices, command, Asks] }
  obtain ⟨hread, hagain⟩ := read_interleaved hinterleaved hplain
  have hproper := hasked.proper (by decide) (by decide)
  have hthreads := (hagain hproper).2 hasked.nodup_names .threads (by simp [choices, Choice.name])
    "x" ["--what"]
  have hformats : Interleaved ([.format "u", .format "v"].map Choice.argument) ["5"] twice := by
    have htexts : [Choice.format "u", .format "v"].map Choice.argument =
        ["--format=u", "--format=v"] := by decide +kernel
    exact htexts ▸ .left _ (.right _ (.left _ .nil))
  obtain ⟨-, hrepeated⟩ := read_interleaved hformats hplain
  obtain ⟨name, hname, hstop⟩ := (hrepeated (by simp [Choice.Proper])).1 (by decide)
  obtain rfl : name = .inl .format := by simpa [Choice.name] using hname.mem
  exact ⟨(hread command ["-7", "--verbose"] (by decide) (by decide) hasked rfl).2, hthreads,
    hstop ["--what"]⟩

end EventTime.Command
