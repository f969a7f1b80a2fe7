import EventTime.Proofs.Session.Transparency
import EventTime.Proofs.Stamper.Raced

-- The text of an instant that threads share: what they agree on is what the style writes,
-- and where results differ, the first two that do are told.
namespace EventTime

-- Results differ from the first of them, and the other one is the earliest that does.
def Differ (results : List String) (first other : String) : Prop :=
  ∃ before after, results = first :: (before ++ other :: after) ∧
    (∀ result ∈ before, result = first) ∧ other ≠ first

theorem differ_cons_iff (head : String) (rest : List String) (first other : String) :
    Differ (head :: rest) first other ↔
      head = first ∧ rest.find? (· ≠ head) = some other := by
  rw [List.find?_eq_some_iff_append]
  constructor
  · rintro ⟨before, after, hresults, hbefore, hother⟩
    obtain ⟨rfl, rfl⟩ := List.cons.inj hresults
    exact ⟨rfl, by simp [hother], before, after, rfl, by simpa using hbefore⟩
  · rintro ⟨rfl, hother, before, after, rfl, hbefore⟩
    exact ⟨before, after, rfl, by simpa using hbefore, by simpa using hother⟩

section Agreed

variable (millis : Int) (results : List String)

theorem agreed_eq_ok_iff (text : String) :
    agreed millis results = .ok text ↔ results ≠ [] ∧ ∀ result ∈ results, result = text := by
  cases results with
  | nil => simp [agreed]
  | cons first rest =>
      cases hfind : rest.find? (· ≠ first) with
      | none =>
          have hsame : ∀ result ∈ rest, result = first := by
            simpa using List.find?_eq_none.mp hfind
          simp only [agreed, hfind, Except.ok.injEq, ne_eq, reduceCtorEq, not_false_eq_true,
            true_and, List.forall_mem_cons]
          constructor
          · rintro rfl
            exact ⟨rfl, hsame⟩
          · exact And.left
      | some other =>
          have hmem := List.mem_of_find?_eq_some hfind
          have hne : other ≠ first := by simpa using List.find?_some hfind
          simp only [agreed, hfind, reduceCtorEq, false_iff, not_and]
          intro _ hall
          apply hne
          rw [hall other (List.mem_cons_of_mem _ hmem), hall first List.mem_cons_self]

theorem agreed_eq_error_iff (failure : Failure) :
    agreed millis results = .error failure ↔
      (results = [] ∧ failure = .noResults millis) ∨
        ∃ first other, Differ results first other ∧ failure = .disagreement millis first other := by
  cases results with
  | nil => simp [agreed, Differ, eq_comm]
  | cons first rest =>
      simp only [differ_cons_iff, reduceCtorEq, false_and, false_or]
      cases hfind : rest.find? (· ≠ first) with
      | none => simp only [agreed, hfind, reduceCtorEq, and_false, false_and, exists_false]
      | some other =>
          simp only [agreed, hfind, Except.error.injEq, Option.some.injEq]
          constructor
          · rintro rfl
            exact ⟨first, other, ⟨rfl, rfl⟩, rfl⟩
          · rintro ⟨_, _, ⟨rfl, rfl⟩, rfl⟩
            rfl

end Agreed

-- A call has an answer as soon as it has finished.
theorem Call.answer?_eq_none_iff (call : Call) :
    call.answer? = none ↔ ¬ ∃ first source, call.phase = .finished first source := by
  unfold answer?
  cases hphase : call.phase <;> simp

-- Where no two answers differ, so many calls answer with so many copies of one text.
theorem Call.mapM_answer?_eq_some_iff {calls : List Call} {text : String}
    (hsame : ∀ call ∈ calls, ∀ other, call.answer? = some other → other = text)
    (texts : List String) :
    calls.mapM answer? = some texts ↔
      (∀ call ∈ calls, ∃ first source, call.phase = .finished first source) ∧
        texts = List.replicate calls.length text := by
  induction calls generalizing texts with
  | nil => simp [eq_comm]
  | cons call rest ih =>
      obtain ⟨hcall, hrest⟩ := List.forall_mem_cons.mp hsame
      rw [List.mapM_cons, List.forall_mem_cons, List.length_cons, List.replicate_succ]
      cases hanswer : call.answer? with
      | none =>
          have hrunning := call.answer?_eq_none_iff.mp hanswer
          simp [hrunning]
      | some other =>
          have hfinished : ∃ first source, call.phase = .finished first source := by
            by_contra hrunning
            simp [call.answer?_eq_none_iff.mpr hrunning] at hanswer
          obtain rfl := hcall other hanswer
          simp only [Option.bind_eq_bind, Option.bind_some, Option.bind_eq_some_iff, ih hrest,
            Option.pure_def, Option.some.injEq, hfinished, true_and]
          constructor
          · rintro ⟨texts, ⟨hover, rfl⟩, rfl⟩
            exact ⟨hover, rfl⟩
          · rintro ⟨hover, rfl⟩
            exact ⟨_, ⟨hover, rfl⟩, rfl⟩

namespace Race

-- The texts of the calls in their order, once all of them have finished.
def answers? (race : Race) : Option (List String) := race.calls.mapM Call.answer?

section Uniform

variable {style : Style} {millis : Int} {race : Race} (huniform : Uniform style millis race)
include huniform

theorem Uniform.answers?_eq_some_iff (texts : List String) :
    race.answers? = some texts ↔
      race.Over ∧ texts = List.replicate race.calls.length (style.write millis) := by
  refine Call.mapM_answer?_eq_some_iff (fun call hcall text hanswer => ?_) texts
  cases hphase : call.phase with
  | finished first source =>
      have hexact := (huniform.answer?_eq hcall hphase).1
      exact Option.some.inj (hanswer.symm.trans hexact)
  | _ => simp [Call.answer?, hphase] at hanswer

end Uniform

end Race

namespace Stamper

-- The race of so many threads for the text of an instant. At least one call is made.
def contest (stamper : Stamper) (millis : Int) (threads : Nat) (schedule : List Nat) : Race :=
  (Race.start stamper.memo (List.replicate (max threads 1) millis)).run schedule

-- The text of an instant that the threads agree on, once all of them have finished.
-- Up to one thread, there is nobody to disagree with.
def joined? (stamper : Stamper) (millis : Int) (threads : Nat) (schedule : List Nat) :
    Option (Stamper × Except Failure String) :=
  let race := stamper.contest millis threads schedule
  race.answers?.map fun texts =>
    (⟨{ stamper.memo with entry := race.slot.entry }⟩,
      if threads ≤ 1 then .ok (String.join texts) else agreed millis texts)

section Contest

variable (stamper : Stamper) (millis : Int) (threads : Nat) (schedule : List Nat)

theorem uniform_contest (hsound : stamper.memo.Sound) :
    (stamper.contest millis threads schedule).Uniform stamper.memo.style millis := by
  have huniform := Race.uniform_run stamper.memo.style stamper.memo.policy
    stamper.memo.entry.millis millis (List.replicate (max threads 1) millis)
    (fun _ => List.eq_of_mem_replicate) schedule
  have hmemo : Memo.ofStyle stamper.memo.style stamper.memo.policy stamper.memo.entry.millis =
      stamper.memo := hsound.remembering_millis
  rwa [hmemo] at huniform

theorem length_calls_contest :
    (stamper.contest millis threads schedule).calls.length = max threads 1 := by
  rw [contest, Race.length_calls_run, Race.start, List.length_map, List.length_replicate]

theorem over_contest (hjoins : Joins threads schedule) :
    (stamper.contest millis threads schedule).Over := by
  apply Race.over_run
  intro caller hcaller
  rw [List.length_replicate] at hcaller
  exact hjoins caller hcaller

theorem joined?_eq_some_iff (hsound : stamper.memo.Sound)
    (result : Stamper × Except Failure String) :
    stamper.joined? millis threads schedule = some result ↔
      (stamper.contest millis threads schedule).Over ∧
        result = (⟨stamper.memo.remembering millis⟩, .ok (stamper.memo.style.write millis)) := by
  have huniform := stamper.uniform_contest millis threads schedule hsound
  have hlength := stamper.length_calls_contest millis threads schedule
  have htext : (if threads ≤ 1
      then .ok (String.join (List.replicate (max threads 1) (stamper.memo.style.write millis)))
      else agreed millis (List.replicate (max threads 1) (stamper.memo.style.write millis))) =
        (.ok (stamper.memo.style.write millis) : Except Failure String) := by
    by_cases hfew : threads ≤ 1
    · rw [if_pos hfew, Nat.max_eq_right hfew]
      simp [String.join]
    · rw [if_neg hfew]
      exact agreed_replicate millis _ _ (by omega)
  rw [joined?, Option.map_eq_some_iff]
  simp only [huniform.answers?_eq_some_iff, hlength]
  constructor
  · rintro ⟨texts, ⟨hover, rfl⟩, rfl⟩
    rw [htext, huniform.slot_eq hover (by omega)]
    exact ⟨hover, rfl⟩
  · rintro ⟨hover, rfl⟩
    refine ⟨_, ⟨hover, rfl⟩, ?_⟩
    rw [htext, huniform.slot_eq hover (by omega)]
    rfl

end Contest

-- Results agree on a text if there are some and all are that text. Otherwise the failure tells that
-- there are none, or the first of them and the earliest that differs from it.
-- Threads that share a stamper always agree, however few or many they are and in whatever order
-- they take their steps: as soon as all have finished, which six steps of each bring about, they
-- have the text that the style writes, and the stamper remembers it. So does one that is asked for
-- the texts one after another. Whatever a stamper has done, it may be shared like this.
theorem joined?_agreed (millis : Int) :
    (∀ results text, agreed millis results = .ok text ↔
      results ≠ [] ∧ ∀ result ∈ results, result = text) ∧
    (∀ results failure, agreed millis results = .error failure ↔
      (results = [] ∧ failure = .noResults millis) ∨
        ∃ first other, Differ results first other ∧ failure = .disagreement millis first other) ∧
    (Failure.noResults millis).chain = [s!"No formatting results for {millis}"] ∧
    (∀ first other, (Failure.disagreement millis first other).chain =
      [s!"Threads disagreed on {millis}: '{first}' vs '{other}'"]) ∧
    (∀ stamper : Stamper, stamper.memo.Sound → ∀ threads schedule,
      let text := stamper.memo.style.write millis
      let settled : Stamper × Except Failure String :=
        (⟨{ stamper.memo with entry := ⟨millis, text⟩ }⟩, .ok text)
      (∀ result, stamper.joined? millis threads schedule = some result ↔
        (stamper.contest millis threads schedule).Over ∧ result = settled) ∧
      (Joins threads schedule → stamper.joined? millis threads schedule = some settled) ∧
      stamper.shared millis threads = settled) ∧
    ∀ options policy seed requests,
      ((Session.start options policy seed "").performAll requests).stamper.memo.Sound := by
  refine ⟨agreed_eq_ok_iff millis, agreed_eq_error_iff millis, rfl, fun _ _ => rfl, ?_, ?_⟩
  · intro stamper hsound threads schedule text settled
    have hjoined := stamper.joined?_eq_some_iff millis threads schedule hsound
    refine ⟨hjoined, fun hjoins => ?_, stamper.shared_of_sound hsound millis threads⟩
    exact (hjoined settled).mpr ⟨stamper.over_contest millis threads schedule hjoins, rfl⟩
  · intro options policy seed requests
    exact Session.sound_performAll_start options policy seed "" requests

-- Two threads lose the slot and look for what is installed, and still the three of them agree.
-- The earliest result that differs is told, also where the first comes again behind it.
theorem joined?_agreed_lost_swaps :
    let stamper : Stamper := ⟨Memo.ofStyle .epochSeconds .installed 0⟩
    let schedule := (List.replicate 6 [0, 1, 2]).flatten
    stamper.memo.Sound ∧ Joins 3 schedule ∧
    stamper.joined? 1999 3 schedule =
      some (⟨⟨.epochSeconds, .installed, ⟨1999, "1"⟩⟩⟩, .ok "1") ∧
    agreed 7 ["a", "a", "b", "a", "c"] = .error (.disagreement 7 "a" "b") := by
  intro stamper schedule
  have hjoins : Joins 3 schedule := by decide
  have htext : Style.epochSeconds.write 1999 = "1" := by decide +kernel
  obtain ⟨-, -, -, -, hshared, -⟩ := joined?_agreed 1999
  obtain ⟨-, hjoined, -⟩ := hshared stamper (Memo.sound_ofStyle _ _ _) 3 schedule
  obtain ⟨-, herror, -⟩ := joined?_agreed 7
  refine ⟨Memo.sound_ofStyle _ _ _, hjoins, ?_, ?_⟩
  · rw [hjoined hjoins]
    simp only [stamper, Memo.ofStyle, htext]
  · rw [herror]
    exact .inr ⟨"a", "b", ⟨["a"], ["a", "c"], rfl, by simp, by simp⟩, rfl⟩

end Stamper

end EventTime
