import EventTime.Proofs.Race.Progress

-- Calls that keep their own text answer exactly for their own instants, whoever wins the slot.
namespace EventTime

-- Only a call that looks for what is installed ever loads the slot again.
def Policy.maxLoads : Policy → Nat
  | own => 1
  | installed => 2

@[simp] theorem Policy.one_le_maxLoads (policy : Policy) : 1 ≤ policy.maxLoads := by
  cases policy <;> decide

namespace Call

-- What a call has done by the time it has come to its phase.
def Spent (policy : Policy) (call : Call) : Prop :=
  match call.phase with
  | .waiting => call.effort = ⟨0, 0, 0⟩
  | .pinned => call.effort = ⟨0, 0, 0⟩
  | .loaded _ => call.effort = ⟨1, 0, 0⟩
  | .prepared _ _ => call.effort = ⟨1, 1, 0⟩
  | .won _ _ => call.effort = ⟨1, 1, 1⟩
  | .lost _ _ => call.effort = ⟨1, 1, 1⟩ ∧ policy = .installed
  | .answered _ _ =>
    call.effort.loads ≤ policy.maxLoads ∧ call.effort.writes ≤ 1 ∧ call.effort.swaps ≤ 1
  | .finished _ _ =>
    call.effort.loads ≤ policy.maxLoads ∧ call.effort.writes ≤ 1 ∧ call.effort.swaps ≤ 1

-- Whose text the cells of a call hold.
-- A call that has lost may answer with the text of another instant.
def Exact (style : Style) (policy : Policy) (call : Call) : Prop :=
  match call.phase with
  | .waiting => True
  | .pinned => True
  | .loaded first => first.entry = style.entry first.entry.millis
  | .prepared _ own => own.entry = style.entry call.millis
  | .won _ own => own.entry = style.entry call.millis
  | .lost _ _ => policy = .installed
  | .answered _ source => policy = .own → source.entry = style.entry call.millis
  | .finished _ source => policy = .own → source.entry = style.entry call.millis

theorem Spent.bounds {policy : Policy} {call : Call} (hspent : call.Spent policy) :
    call.effort.loads ≤ policy.maxLoads ∧ call.effort.writes ≤ 1 ∧ call.effort.swaps ≤ 1 := by
  cases hphase : call.phase <;> simp only [Spent, hphase] at hspent <;> simp [hspent]

theorem Exact.answer?_eq {style : Style} {policy : Policy} {call : Call}
    (hexact : call.Exact style policy) (hpolicy : policy = .own) (first source : Cell)
    (hphase : call.phase = .finished first source) :
    call.answer? = some (style.write call.millis) := by
  simp only [Exact, hphase] at hexact
  simp only [Call.answer?, hphase, hexact hpolicy, Style.entry]

end Call

namespace Race

-- The slot holds the text of an instant that was asked for, or of the seed,
-- and every call is exact as far as it has come.
structure Exact (style : Style) (policy : Policy) (seed : Int) (instants : List Int)
    (race : Race) : Prop where
  style_eq : race.style = style
  policy_eq : race.policy = policy
  instants_eq : race.calls.map Call.millis = instants
  slot : ∃ millis ∈ seed :: instants, race.slot.entry = style.entry millis
  spent : ∀ call ∈ race.calls, call.Spent policy
  calls : ∀ call ∈ race.calls, call.Exact style policy

theorem exact_start (style : Style) (policy : Policy) (seed : Int) (instants : List Int) :
    Exact style policy seed instants (start (Memo.ofStyle style policy seed) instants) where
  style_eq := rfl
  policy_eq := rfl
  instants_eq := by
    simp only [start, List.map_map]
    exact List.map_id instants
  slot := ⟨seed, List.mem_cons_self, rfl⟩
  spent := by
    intro call hcall
    obtain ⟨millis, -, rfl⟩ := List.mem_map.mp hcall
    rfl
  calls := by
    intro call hcall
    obtain ⟨millis, -, rfl⟩ := List.mem_map.mp hcall
    trivial

section Moves

variable {style : Style} {policy : Policy} {seed : Int} {instants : List Int}
variable {race shared : Race} {caller : Nat} {call next : Call}

theorem Exact.slot_entry (hexact : Exact style policy seed instants race) :
    race.slot.entry = style.entry race.slot.entry.millis := by
  obtain ⟨millis, -, hslot⟩ := hexact.slot
  rw [hslot]
  rfl

theorem Exact.move_spent (hexact : Exact style policy seed instants race)
    (hspent : call.Spent policy) (hmove : Move race caller call shared next) :
    next.Spent policy := by
  cases hmove with
  | pin hphase =>
      simp only [Call.Spent, hphase] at hspent ⊢
      exact hspent
  | load hphase =>
      simp only [Call.Spent, hphase] at hspent
      simp only [Call.Spent, Call.load, Call.enter, hspent]
  | hit first hphase hmillis =>
      simp only [Call.Spent, hphase] at hspent
      simp [Call.Spent, Call.enter, hspent]
  | write first hphase hmillis =>
      simp only [Call.Spent, hphase] at hspent
      simp only [Call.Spent, Call.write, Call.enter, hspent]
  | win first own hphase hslot =>
      simp only [Call.Spent, hphase] at hspent
      simp only [Call.Spent, Call.swap, Call.enter, hspent]
  | keep first own hphase hslot hpolicy =>
      simp only [Call.Spent, hphase] at hspent
      simp [Call.Spent, Call.swap, Call.enter, hspent]
  | lose first own hphase hslot hpolicy =>
      simp only [Call.Spent, hphase] at hspent
      simp only [Call.Spent, Call.swap, Call.enter, hspent, true_and]
      exact hexact.policy_eq.symm.trans hpolicy
  | retire first own hphase =>
      simp only [Call.Spent, hphase] at hspent
      simp [Call.Spent, Call.enter, hspent]
  | reload first own hphase =>
      simp only [Call.Spent, hphase] at hspent
      simp [Call.Spent, Call.load, Call.enter, hspent.1, hspent.2, Policy.maxLoads]
  | unpin first source hphase =>
      simp only [Call.Spent, hphase] at hspent
      exact hspent

-- The call that moves stays exact. Only a call that has lost reads what another call installed.
theorem Exact.move_exact (hexact : Exact style policy seed instants race)
    (hcall : call.Exact style policy) (hmove : Move race caller call shared next) :
    next.Exact style policy := by
  cases hmove with
  | pin hphase => trivial
  | load hphase => exact hexact.slot_entry
  | hit first hphase hmillis =>
      simp only [Call.Exact, hphase] at hcall
      intro _
      rw [hcall, hmillis]
      rfl
  | write first hphase hmillis =>
      show race.style.entry call.millis = style.entry call.millis
      rw [hexact.style_eq]
  | win first own hphase hslot =>
      simp only [Call.Exact, hphase] at hcall
      exact hcall
  | keep first own hphase hslot hpolicy =>
      simp only [Call.Exact, hphase] at hcall
      exact fun _ => hcall
  | lose first own hphase hslot hpolicy => exact hexact.policy_eq.symm.trans hpolicy
  | retire first own hphase =>
      simp only [Call.Exact, hphase] at hcall
      exact fun _ => hcall
  | reload first own hphase =>
      -- what is installed by now may be for another instant, but only this policy looks at it
      simp only [Call.Exact, hphase] at hcall
      intro hown
      cases hcall.symm.trans hown
  | unpin first source hphase =>
      simp only [Call.Exact, hphase] at hcall
      exact hcall

-- Only a call that wins changes the slot, and it installs the text of its own instant.
theorem Exact.move_slot (hexact : Exact style policy seed instants race)
    (hcall : call ∈ race.calls) (hmove : Move race caller call shared next) :
    ∃ millis ∈ seed :: instants, shared.slot.entry = style.entry millis := by
  cases hmove with
  | win first own hphase hslot =>
      have hown := hexact.calls call hcall
      simp only [Call.Exact, hphase] at hown
      refine ⟨call.millis, List.mem_cons_of_mem _ ?_, hown⟩
      rw [← hexact.instants_eq]
      exact List.mem_map_of_mem hcall
  | _ => exact hexact.slot

theorem Exact.move (hexact : Exact style policy seed instants race)
    (hcall : race.calls[caller]? = some call) (hmove : Move race caller call shared next) :
    Exact style policy seed instants (shared.update caller next) := by
  have hmem : call ∈ race.calls := List.mem_of_getElem? hcall
  have hslot := hexact.move_slot hmem hmove
  refine
    { style_eq := hmove.style_eq.trans hexact.style_eq
      policy_eq := hmove.policy_eq.trans hexact.policy_eq
      instants_eq := (hmove.map_millis hcall).trans hexact.instants_eq
      slot := hslot, spent := ?_, calls := ?_ }
  · intro other hother
    rcases hmove.mem_calls hother with hother | rfl
    · exact hexact.spent other hother
    · exact hexact.move_spent (hexact.spent call hmem) hmove
  · intro other hother
    rcases hmove.mem_calls hother with hother | rfl
    · exact hexact.calls other hother
    · exact hexact.move_exact (hexact.calls call hmem) hmove

end Moves

theorem exact_run (style : Style) (policy : Policy) (seed : Int) (instants : List Int)
    (schedule : List Nat) :
    Exact style policy seed instants
      ((start (Memo.ofStyle style policy seed) instants).run schedule) :=
  run_invariant (fun _ _ _ _ _ hexact hcall hmove => hexact.move hcall hmove) _
    (exact_start style policy seed instants) schedule

-- Under every schedule, the slot holds the text of its instant, and a call that keeps its own
-- text answers with the text of its own instant, after one load, one text and one swap at most.
-- No schedule keeps a call that takes its six steps from its end.
theorem run_exact (style : Style) (policy : Policy) (seed : Int) (instants : List Int)
    (schedule : List Nat) :
    let race := (start (Memo.ofStyle style policy seed) instants).run schedule
    race.calls.map Call.millis = instants ∧
    (∃ millis ∈ seed :: instants, race.slot.entry = style.entry millis) ∧
    (policy = .own → ∀ call ∈ race.calls,
      (call.effort.loads ≤ 1 ∧ call.effort.writes ≤ 1 ∧ call.effort.swaps ≤ 1) ∧
      ∀ first source, call.phase = .finished first source →
        call.answer? = some (style.write call.millis)) ∧
    ∀ caller < instants.length, 6 ≤ schedule.count caller →
      ∃ call first source, race.calls[caller]? = some call ∧
        call.phase = .finished first source := by
  intro race
  have hexact := exact_run style policy seed instants schedule
  refine ⟨hexact.instants_eq, hexact.slot, ?_, finished_run _ instants schedule⟩
  intro hpolicy call hcall
  refine ⟨?_, (hexact.calls call hcall).answer?_eq hpolicy⟩
  have hbounds := (hexact.spent call hcall).bounds
  rw [hpolicy] at hbounds
  exact hbounds

-- Two calls load the seed, and the one that loses the slot still answers for its own instant.
theorem run_exact_lost_swap :
    let schedule := [0, 1, 0, 1, 0, 1, 0, 1, 0, 1, 0, 1]
    let race := (start (Memo.ofStyle .epochMillis .own 0) [10, 20]).run schedule
    race.slot.entry = ⟨10, "10"⟩ ∧ 6 ≤ schedule.count 1 ∧
      ∃ call first source, race.calls[1]? = some call ∧ call.phase = .finished first source ∧
        call.effort.loads ≤ 1 ∧ call.answer? = some "20" := by
  intro schedule race
  have hsteps : 6 ≤ schedule.count 1 := by decide
  obtain ⟨hmillis, -, hexact, hfinished⟩ := run_exact .epochMillis .own 0 [10, 20] schedule
  obtain ⟨call, first, source, hcall, hphase⟩ := hfinished 1 (by decide) hsteps
  obtain ⟨hbounds, hanswer⟩ := hexact rfl call (List.mem_of_getElem? hcall)
  have htwenty : call.millis = 20 := by
    have hmap := congrArg (·[1]?) hmillis
    simpa [hcall] using hmap
  refine ⟨by decide +kernel, hsteps, call, first, source, hcall, hphase, hbounds.1, ?_⟩
  rw [hanswer first source hphase, htwenty]
  decide +kernel

end Race

end EventTime
