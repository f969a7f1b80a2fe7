import EventTime.Proofs.Race.Move

-- No call waits for another: six steps of its own bring it to its end.
namespace EventTime

def Phase.stepsLeft : Phase → Nat
  | waiting => 6
  | pinned => 5
  | loaded _ => 4
  | prepared _ _ => 3
  | won _ _ => 2
  | lost _ _ => 2
  | answered _ _ => 1
  | finished _ _ => 0

theorem Phase.exists_of_stepsLeft_eq_zero (phase : Phase) (hsteps : phase.stepsLeft = 0) :
    ∃ first source, phase = .finished first source := by
  cases phase with
  | finished first source => exact ⟨first, source, rfl⟩
  | _ => cases hsteps

namespace Race

theorem Move.stepsLeft_lt {race shared : Race} {caller : Nat} {call next : Call}
    (hmove : Move race caller call shared next) :
    next.phase.stepsLeft < call.phase.stepsLeft := by
  cases hmove <;> simp [*, Phase.stepsLeft, Call.enter]

-- A step brings its own call on, unless that has finished, and leaves the others where they are.
theorem stepsLeft_step (race : Race) (mover caller : Nat) (call : Call)
    (hcall : race.calls[caller]? = some call) :
    ∃ next, (race.step mover).calls[caller]? = some next ∧
      next.phase.stepsLeft ≤ call.phase.stepsLeft - if mover = caller then 1 else 0 := by
  by_cases hself : mover = caller
  · subst hself
    simp only [step, hcall, if_true]
    rcases race.advance_cases mover call with ⟨first, source, hphase, hsame⟩ |
      ⟨shared, next, hmove, hnext⟩
    · refine ⟨call, ?_, ?_⟩
      · rw [hsame, hcall]
      · rw [hphase]
        exact Nat.zero_le _
    · have hlt := (List.getElem?_eq_some_iff.mp hcall).1
      have hsteps := hmove.stepsLeft_lt
      refine ⟨next, ?_, by omega⟩
      rw [hnext, update, hmove.calls_eq, List.getElem?_set_self hlt]
  · -- whoever moves instead, the call stands where it stood
    rw [if_neg hself]
    refine ⟨call, ?_, Nat.le_refl _⟩
    rcases race.step_cases mover with hsame | ⟨other, shared, next, _, hmove, hnext⟩
    · rw [hsame, hcall]
    · rw [hnext, update, hmove.calls_eq, List.getElem?_set_ne hself, hcall]

theorem stepsLeft_run (race : Race) (schedule : List Nat) (caller : Nat) (call : Call)
    (hcall : race.calls[caller]? = some call) :
    ∃ last, (race.run schedule).calls[caller]? = some last ∧
      last.phase.stepsLeft ≤ call.phase.stepsLeft - schedule.count caller := by
  induction schedule generalizing race call with
  | nil => exact ⟨call, hcall, Nat.le_refl _⟩
  | cons mover rest ih =>
      obtain ⟨next, hnext, hstep⟩ := race.stepsLeft_step mover caller call hcall
      obtain ⟨last, hlast, hrest⟩ := ih (race.step mover) next hnext
      refine ⟨last, hlast, ?_⟩
      rw [List.count_cons]
      simp only [beq_iff_eq]
      omega

-- Whatever the other calls do, a call that takes six steps has finished.
theorem finished_run (memo : Memo) (instants : List Int) (schedule : List Nat) (caller : Nat)
    (hcaller : caller < instants.length) (hsteps : 6 ≤ schedule.count caller) :
    ∃ call first source, ((start memo instants).run schedule).calls[caller]? = some call ∧
      call.phase = .finished first source := by
  have hcall : (start memo instants).calls[caller]? = some (Call.start instants[caller]) := by
    simp only [start, List.getElem?_map, List.getElem?_eq_getElem hcaller, Option.map_some]
  obtain ⟨last, hlast, hleft⟩ := stepsLeft_run _ schedule caller _ hcall
  have hsix : (Call.start instants[caller]).phase.stepsLeft = 6 := rfl
  obtain ⟨first, source, hphase⟩ := last.phase.exists_of_stepsLeft_eq_zero (by omega)
  exact ⟨last, first, source, hlast, hphase⟩

theorem length_calls_run (race : Race) (schedule : List Nat) :
    (race.run schedule).calls.length = race.calls.length := by
  refine @run_invariant (fun later => later.calls.length = race.calls.length) ?_ race rfl
    schedule
  intro earlier caller call shared next hlength hcall hmove
  rw [update, hmove.calls_eq, List.length_set, hlength]

-- All calls have finished.
def Over (race : Race) : Prop :=
  ∀ call ∈ race.calls, ∃ first source, call.phase = .finished first source

-- Six steps of each call are enough, in whatever order they are taken.
theorem over_run (memo : Memo) (instants : List Int) (schedule : List Nat)
    (hsteps : ∀ caller < instants.length, 6 ≤ schedule.count caller) :
    ((start memo instants).run schedule).Over := by
  intro call hcall
  obtain ⟨caller, hcaller⟩ := List.mem_iff_getElem?.mp hcall
  have hlt := (List.getElem?_eq_some_iff.mp hcaller).1
  rw [length_calls_run, start, List.length_map] at hlt
  obtain ⟨last, first, source, hlast, hphase⟩ :=
    finished_run memo instants schedule caller hlt (hsteps caller hlt)
  obtain rfl := Option.some.inj (hcaller.symm.trans hlast)
  exact ⟨first, source, hphase⟩

-- A call that nobody disturbs does to the slot what the memo does to its entry,
-- and answers what the memo answers. It never loses, so that the policy does not matter.
theorem run_alone (memo : Memo) (millis : Int) :
    let race := (start memo [millis]).run (List.replicate 6 0)
    race.calls.map Call.answer? = [some (memo.get millis).2] ∧
      race.slot.entry = (memo.get millis).1.entry := by
  intro race
  by_cases hit : memo.entry.millis = millis
  · simp [race, start, run, step, advance, update, Call.start, Call.load, Call.enter, Call.answer?,
      Memo.get, hit]
  · simp [race, start, run, step, advance, update, swap, Call.start, Call.load, Call.write,
      Call.swap, Call.enter, Call.answer?, Memo.get, hit]

end Race

end EventTime
