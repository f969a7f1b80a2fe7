import EventTime.Proofs.Race.Progress
import EventTime.Proofs.Race.Provenance
import EventTime.Proofs.Race.Retirement

-- Every cell that has been installed is freed once, and not while a call may look at it.
namespace EventTime

namespace Phase

-- The guard of the call is pinned.
def Guarded : Phase → Prop
  | waiting => False
  | finished _ _ => False
  | _ => True

-- The cells that a call may still look at.
def held : Phase → List Cell
  | loaded first => [first]
  | prepared first own => [first, own]
  | won first own => [first, own]
  | lost first own => [first, own]
  | answered first source => [first, source]
  | _ => []

theorem guarded_iff (phase : Phase) :
    phase.Guarded ↔ 0 < phase.stepsLeft ∧ phase.stepsLeft < 6 := by
  cases phase <;> simp [Guarded, stepsLeft]

theorem guarded_of_mem_held {phase : Phase} {cell : Cell} (hheld : cell ∈ phase.held) :
    phase.Guarded := by
  cases phase <;> trivial

-- Up to its end, a call holds the cell that it has loaded.
theorem mem_held_of_first? {phase : Phase} {first : Cell} (hfirst : phase.first? = some first)
    (hsteps : 0 < phase.stepsLeft) : first ∈ phase.held := by
  cases phase <;> simp_all [first?, held, stepsLeft]

theorem owes?_eq_some_iff (phase : Phase) (cell : Cell) :
    phase.owes? = some cell ↔ ∃ own, phase = .won cell own := by
  cases phase <;> simp [owes?]

end Phase

namespace Race

-- The next step of a call takes that cell out of the slot.
def Replaces (race : Race) (caller : Nat) (cell : Cell) : Prop :=
  race.slot = cell ∧ ∃ own, race.Installs caller own

-- The next step of a call retires that cell.
def Retires (race : Race) (caller : Nat) (cell : Cell) : Prop :=
  ∃ call own, race.calls[caller]? = some call ∧ call.phase = .won cell own

-- The next step of a call fails to put that cell into the slot.
def Loses (race : Race) (caller : Nat) (cell : Cell) : Prop :=
  ∃ call first, race.calls[caller]? = some call ∧ call.phase = .prepared first cell ∧
    race.slot.id ≠ first.id

def Guarded (race : Race) (caller : Nat) : Prop :=
  ∃ call, race.calls[caller]? = some call ∧ call.phase.Guarded

-- At some moment of the schedule, the cell was in the slot and the guard of the call was pinned.
def Saw (race : Race) (schedule : List Nat) (caller : Nat) (cell : Cell) : Prop :=
  ∃ before after, schedule = before ++ after ∧ (race.run before).Guarded caller ∧
    (race.run before).slot = cell

-- A cell may be destroyed once all guards that were pinned at its retirement are unpinned.
def Reclaimable (race : Race) (schedule : List Nat) (cell : Cell) : Prop :=
  ∃ early other later, schedule = early ++ [other] ++ later ∧ (race.run early).Retires other cell ∧
    ∀ caller, (race.run early).Guarded caller → ¬ (race.run schedule).Guarded caller

-- What is freed at the end: the cells that have been retired, and by the drop the one in the slot.
def freed (race : Race) : List Cell := race.slot :: race.retired.map Prod.fst

theorem took_concat_iff {race : Race} {schedule : List Nat} {mover caller : Nat}
    {kind : Race → Nat → Cell → Prop} {cell : Cell} :
    race.Took (schedule ++ [mover]) caller kind cell ↔
      race.Took schedule caller kind cell ∨
        mover = caller ∧ kind (race.run schedule) caller cell := by
  constructor
  · rintro ⟨before, after, hschedule, hkind⟩
    rcases List.eq_nil_or_concat after with rfl | ⟨rest, last, rfl⟩
    · rw [List.append_nil] at hschedule
      obtain ⟨rfl, hlast⟩ := List.append_inj' hschedule rfl
      exact .inr ⟨List.singleton_inj.mp hlast, hkind⟩
    · rw [List.concat_eq_append, ← List.append_assoc] at hschedule
      obtain ⟨rfl, -⟩ := List.append_inj' hschedule rfl
      exact .inl ⟨before, rest, rfl, hkind⟩
  · rintro (htook | ⟨rfl, hkind⟩)
    · exact htook.append [mover]
    · exact took_concat hkind

theorem not_took_nil {race : Race} {caller : Nat} {kind : Race → Nat → Cell → Prop} {cell : Cell} :
    ¬ race.Took [] caller kind cell := by
  rintro ⟨before, after, hschedule, -⟩
  simp at hschedule

section Steps

variable {race : Race} {caller : Nat} {cell : Cell}

theorem retires_iff_owed? : race.Retires caller cell ↔ race.owed? caller = some cell := by
  simp only [Retires, owed?, Option.bind_eq_some_iff, Phase.owes?_eq_some_iff, exists_and_left]

theorem Retires.mem_step (hretires : race.Retires caller cell) :
    (cell, caller) ∈ (race.step caller).retired := by
  obtain ⟨call, own, hcall, hphase⟩ := hretires
  simp only [step, hcall, advance, hphase, update]
  exact List.mem_cons_self

theorem Replaces.mem_step (hreplaces : race.Replaces caller cell) :
    (cell, caller) ∈ (race.step caller).replaced := by
  obtain ⟨rfl, own, call, first, hcall, hphase, hslot⟩ := hreplaces
  simp only [step, hcall, advance, hphase, swap, if_pos hslot, update]
  exact List.mem_cons_self

-- A list that gets at most one item more has that item then, and no other new one.
theorem mem_iff_of_grown {α : Type} {before after : List α} {item : α} {added : Prop}
    (hgrown : after = before ∨ ∃ new, after = new :: before ∧ (item = new → added))
    (hadded : added → item ∈ after) : item ∈ after ↔ item ∈ before ∨ added := by
  rcases hgrown with rfl | ⟨new, rfl, hnew⟩
  · exact ⟨.inl, fun hor => hor.elim id hadded⟩
  · refine ⟨fun hmem => ?_, fun hor => hor.elim (List.mem_cons_of_mem new) hadded⟩
    exact (List.mem_cons.mp hmem).elim (fun hitem => .inr (hnew hitem)) .inl

theorem mem_installed_step (mover : Nat) :
    cell ∈ (race.step mover).installed ↔ cell ∈ race.installed ∨ race.Installs mover cell := by
  refine mem_iff_of_grown ?_ fun hinstalls => hinstalls.slot_step ▸ slot_mem_installed _
  rcases race.step_cases mover with hsame | ⟨call, shared, next, hcall, hmove, hstep⟩
  · exact .inl (congrArg installed hsame)
  · rw [hstep]
    rcases hmove.installed_cases with ⟨hsame, -⟩ | ⟨first, own, hphase, hslot, -, -, hcons⟩
    · exact .inl hsame
    · exact .inr ⟨own, hcons, fun hcell => ⟨call, first, hcall, hcell ▸ hphase, hslot⟩⟩

theorem mem_replaced_step (mover : Nat) :
    (cell, caller) ∈ (race.step mover).replaced ↔
      (cell, caller) ∈ race.replaced ∨ mover = caller ∧ race.Replaces mover cell := by
  refine mem_iff_of_grown ?_ fun hreplaces => hreplaces.1 ▸ hreplaces.2.mem_step
  rcases race.step_cases mover with hsame | ⟨call, shared, next, hcall, hmove, hstep⟩
  · exact .inl (congrArg replaced hsame)
  · rw [hstep]
    rcases hmove.account_cases with ⟨first, own, hphase, hslot, -, hcons, -⟩ |
      ⟨-, -, -, hsame, -⟩ | ⟨-, -, hsame, -⟩
    · refine .inr ⟨_, hcons, fun hnew => ?_⟩
      cases hnew
      exact ⟨rfl, rfl, own, call, first, hcall, hphase, hslot⟩
    · exact .inl hsame
    · exact .inl hsame

theorem mem_retired_step (mover : Nat) :
    (cell, caller) ∈ (race.step mover).retired ↔
      (cell, caller) ∈ race.retired ∨ mover = caller ∧ race.Retires mover cell := by
  refine mem_iff_of_grown ?_ fun hretires => hretires.1 ▸ hretires.2.mem_step
  rcases race.step_cases mover with hsame | ⟨call, shared, next, hcall, hmove, hstep⟩
  · exact .inl (congrArg retired hsame)
  · rw [hstep]
    rcases hmove.account_cases with ⟨-, -, -, -, -, -, hsame⟩ | ⟨first, hfirst, -, -, hcons⟩ |
      ⟨-, -, -, hsame⟩
    · exact .inl hsame
    · refine .inr ⟨_, hcons, fun hnew => ?_⟩
      cases hnew
      exact ⟨rfl, retires_iff_owed?.mpr ((owed?_eq hcall).trans hfirst)⟩
    · exact .inl hsame

-- What a step of that kind, and no other, brings about has come about by such a step.
theorem holds_run_iff (holds : Race → Prop) (kind : Race → Nat → Cell → Prop)
    (hstep : ∀ (race : Race) (mover : Nat),
      holds (race.step mover) ↔ holds race ∨ kind race mover cell)
    (race : Race) (schedule : List Nat) :
    holds (race.run schedule) ↔ holds race ∨ ∃ mover, race.Took schedule mover kind cell := by
  induction schedule using List.reverseRecOn with
  | nil =>
      rw [or_iff_left]
      · rfl
      · rintro ⟨mover, htook⟩
        exact not_took_nil htook
  | append_singleton schedule mover ih =>
      rw [run_concat, hstep, ih, or_assoc]
      refine or_congr_right ?_
      simp only [took_concat_iff, exists_or, exists_eq_left']

theorem exists_took_and_eq {kind : Race → Nat → Cell → Prop} {schedule : List Nat} :
    (∃ mover, race.Took schedule mover
      (fun race mover cell => mover = caller ∧ kind race mover cell) cell) ↔
      race.Took schedule caller kind cell := by
  constructor
  · rintro ⟨_, before, after, hschedule, rfl, hkind⟩
    exact ⟨before, after, hschedule, hkind⟩
  · rintro ⟨before, after, hschedule, hkind⟩
    exact ⟨caller, before, after, hschedule, rfl, hkind⟩

end Steps

section Start

variable (memo : Memo) (instants : List Int) (schedule : List Nat) (caller : Nat) (cell : Cell)

theorem mem_installed_run_iff :
    cell ∈ ((start memo instants).run schedule).installed ↔
      cell = (start memo instants).slot ∨
        ∃ mover, (start memo instants).Took schedule mover Installs cell := by
  rw [holds_run_iff (fun race => cell ∈ race.installed) Installs
    fun race mover => mem_installed_step mover]
  exact or_congr_left List.mem_singleton

theorem mem_replaced_run_iff :
    (cell, caller) ∈ ((start memo instants).run schedule).replaced ↔
      (start memo instants).Took schedule caller Replaces cell := by
  rw [holds_run_iff (fun race => (cell, caller) ∈ race.replaced)
    (fun race mover cell => mover = caller ∧ race.Replaces mover cell)
    fun race mover => mem_replaced_step mover, exists_took_and_eq]
  exact or_iff_right List.not_mem_nil

theorem mem_retired_run_iff :
    (cell, caller) ∈ ((start memo instants).run schedule).retired ↔
      (start memo instants).Took schedule caller Retires cell := by
  rw [holds_run_iff (fun race => (cell, caller) ∈ race.retired)
    (fun race mover cell => mover = caller ∧ race.Retires mover cell)
    fun race mover => mem_retired_step mover, exists_took_and_eq]
  exact or_iff_right List.not_mem_nil

end Start

section Guards

variable {race : Race} {schedule : List Nat} {caller : Nat} {call : Call} {cell : Cell}

theorem guarded_of_held (hcall : race.calls[caller]? = some call) (hheld : cell ∈ call.phase.held) :
    race.Guarded caller :=
  ⟨call, hcall, Phase.guarded_of_mem_held hheld⟩

-- A call pins its guard once, so that it stays pinned between two moments at which it is.
theorem Guarded.run_between (hbefore : race.Guarded caller) (between after : List Nat)
    (hafter : (race.run (between ++ after)).Guarded caller) :
    (race.run between).Guarded caller := by
  obtain ⟨call, hcall, hcallGuarded⟩ := hbefore
  obtain ⟨last, hlast, hlastGuarded⟩ := hafter
  obtain ⟨mine, hmine, hmineLeft⟩ := stepsLeft_run race between caller call hcall
  obtain ⟨other, hother, hotherLeft⟩ := stepsLeft_run (race.run between) after caller mine hmine
  rw [run_append] at hlast
  obtain rfl := Option.some.inj (hother.symm.trans hlast)
  rw [Phase.guarded_iff] at hcallGuarded hlastGuarded
  exact ⟨mine, hmine, (Phase.guarded_iff _).mpr (by omega)⟩

theorem Saw.append (hsaw : race.Saw schedule caller cell) (later : List Nat) :
    race.Saw (schedule ++ later) caller cell := by
  obtain ⟨before, after, rfl, hmoment⟩ := hsaw
  exact ⟨before, after ++ later, List.append_assoc before after later, hmoment⟩

theorem saw_of_guarded (hguarded : (race.run schedule).Guarded caller)
    (hslot : (race.run schedule).slot = cell) : race.Saw schedule caller cell :=
  ⟨schedule, [], (List.append_nil _).symm, hguarded, hslot⟩

-- A cell that may be destroyed may be destroyed ever after.
theorem Reclaimable.append (hreclaimable : race.Reclaimable schedule cell) (later : List Nat) :
    race.Reclaimable (schedule ++ later) cell := by
  obtain ⟨early, other, rest, rfl, hretires, hunpinned⟩ := hreclaimable
  refine ⟨early, other, rest ++ later, by simp only [List.append_assoc], hretires, ?_⟩
  intro caller hguarded hlater
  apply hunpinned caller hguarded
  rw [List.append_assoc early, run_append]
  rw [List.append_assoc early, List.append_assoc early, run_append] at hlater
  exact hguarded.run_between ([other] ++ rest) later hlater

theorem Loses.discarded_step (hloses : race.Loses caller cell) (hdistinct : race.Distinct) :
    (race.step caller).Discarded cell := by
  obtain ⟨call, first, hcall, hphase, hslot⟩ := hloses
  cases hpolicy : race.policy with
  | own =>
      have hmove : Move race caller call _ _ := .keep first cell hphase hslot hpolicy
      simp only [step, hcall, advance, hphase, swap, if_neg hslot, hpolicy]
      exact hdistinct.discarded hcall hphase hmove rfl rfl
  | installed =>
      have hmove : Move race caller call _ _ := .lose first cell hphase hslot hpolicy
      simp only [step, hcall, advance, hphase, swap, if_neg hslot, hpolicy]
      exact hdistinct.discarded hcall hphase hmove rfl rfl

end Guards

-- What a call holds was in the slot while its guard was pinned, or else it has been written by the
-- call and is not in the slot yet, or never will be.
def Kept (race : Race) (schedule : List Nat) : Prop :=
  ∀ (caller : Nat) (call : Call) (cell : Cell), (race.run schedule).calls[caller]? = some call →
    cell ∈ call.phase.held →
    race.Saw schedule caller cell ∨ call.phase.own? = some cell ∨
      (race.run schedule).Discarded cell

section Keeping

variable {race : Race} {schedule : List Nat} {caller : Nat} {call : Call} {cell : Cell}

theorem Kept.saw (hkept : race.Kept schedule) (hdistinct : (race.run schedule).Distinct)
    (hcall : (race.run schedule).calls[caller]? = some call) (hheld : cell ∈ call.phase.held)
    (hinstalled : cell ∈ (race.run schedule).installed) : race.Saw schedule caller cell := by
  have hmem := List.mem_map_of_mem (f := Cell.id) hinstalled
  rcases hkept caller call cell hcall hheld with hsaw | hown | hdiscarded
  · exact hsaw
  · exact absurd hmem (hdistinct.own_new caller call cell hcall hown)
  · exact absurd hmem hdiscarded.absent

theorem Kept.concat (hkept : race.Kept schedule) (hdistinct : (race.run schedule).Distinct)
    (mover : Nat) : race.Kept (schedule ++ [mover]) := by
  intro caller next cell hnext hheld
  have hlater := hnext
  rw [run_concat] at hnext
  -- a call that holds the same as before the step holds it for the same reason
  have hsame (call : Call) (hcall : (race.run schedule).calls[caller]? = some call)
      (hbefore : cell ∈ call.phase.held) (hown : call.phase.own? = next.phase.own?) :
      race.Saw (schedule ++ [mover]) caller cell ∨ next.phase.own? = some cell ∨
        (race.run (schedule ++ [mover])).Discarded cell := by
    rw [← hown, run_append]
    exact (hkept caller call cell hcall hbefore).imp (fun hsaw => hsaw.append [mover])
      (Or.imp_right fun hdiscarded => hdiscarded.run [mover])
  rcases getElem?_step _ _ _ _ hnext with hcall | ⟨rfl, call, shared, hcall, hmove⟩
  · exact hsame next hcall hheld rfl
  · have hfirst (first : Cell) (hloaded : next.phase.first? = some first) :
        race.Saw (schedule ++ [mover]) mover first := by
      rcases hmove.first?_next hloaded with ⟨hphase, rfl⟩ | hbefore
      · exact (saw_of_guarded ⟨call, hcall, by rw [hphase]; trivial⟩ rfl).append [mover]
      · have hsteps := Nat.zero_lt_of_lt hmove.stepsLeft_lt
        have hinstalled := hdistinct.first_mem mover call first hcall hbefore
        have hsaw := hkept.saw hdistinct hcall (Phase.mem_held_of_first? hbefore hsteps) hinstalled
        exact hsaw.append [mover]
    cases hmove with
    | pin hphase => cases hheld
    | load hphase =>
        obtain rfl := List.mem_singleton.mp hheld
        exact .inl (hfirst _ rfl)
    | hit first hphase hmillis =>
        rcases List.mem_pair.mp hheld with rfl | rfl
        · exact .inl (hfirst cell rfl)
        · exact .inl (hfirst cell rfl)
    | write first hphase hmillis =>
        rcases List.mem_pair.mp hheld with rfl | rfl
        · exact .inl (hfirst cell rfl)
        · exact .inr (.inl rfl)
    | win first own hphase hslot =>
        rcases List.mem_pair.mp hheld with rfl | rfl
        · exact .inl (hfirst cell rfl)
        · -- the swap has put the cell of the call into the slot
          have hinstalls : (race.run schedule).Installs mover cell :=
            ⟨call, first, hcall, hphase, hslot⟩
          refine .inl (saw_of_guarded ⟨_, hlater, trivial⟩ ?_)
          rw [run_concat, hinstalls.slot_step]
    | keep first own hphase hslot hpolicy | lose first own hphase hslot hpolicy =>
        rcases List.mem_pair.mp hheld with rfl | rfl
        · exact .inl (hfirst cell rfl)
        · have hloses : (race.run schedule).Loses mover cell := ⟨call, first, hcall, hphase, hslot⟩
          refine .inr (.inr ?_)
          rw [run_concat]
          exact hloses.discarded_step hdistinct
    | retire first own hphase =>
        exact hsame call hcall (by rw [hphase]; exact hheld) (by rw [hphase]; rfl)
    | reload first own hphase =>
        rcases List.mem_pair.mp hheld with rfl | rfl
        · exact .inl (hfirst cell rfl)
        · have hguarded : (race.run schedule).Guarded mover :=
            ⟨call, hcall, by rw [hphase]; trivial⟩
          exact .inl ((saw_of_guarded hguarded rfl).append [mover])
    | unpin first source hphase => cases hheld

end Keeping

section Start

variable {memo : Memo} {instants : List Int} {schedule : List Nat} {caller other : Nat}
variable {call : Call} {cell : Cell}

theorem kept_run (memo : Memo) (instants : List Int) (schedule : List Nat) :
    (start memo instants).Kept schedule := by
  induction schedule using List.reverseRecOn with
  | nil =>
      intro caller call cell hcall hheld
      obtain ⟨millis, -, rfl⟩ := List.mem_map.mp (List.mem_of_getElem? hcall)
      cases hheld
  | append_singleton schedule mover ih =>
      exact ih.concat (distinct_run memo instants schedule) mover

theorem mem_replaced_run {race : Race} (hcell : cell ∈ race.replaced.map Prod.fst)
    (schedule : List Nat) : cell ∈ (race.run schedule).replaced.map Prod.fst :=
  @run_invariant (fun race => cell ∈ race.replaced.map Prod.fst)
    (fun _ _ _ _ _ hmem _ hmove => hmove.mem_replaced hmem) race hcell schedule

theorem Accounted.mem_replaced_of_retires {race : Race} (haccounted : race.Accounted)
    (hretires : race.Retires caller cell) : (cell, caller) ∈ race.replaced :=
  haccounted.owed_mem cell caller (retires_iff_owed?.mp hretires)

-- A cell that a call has seen while its guard was pinned is not retired before that.
theorem Saw.guarded_of_retires {early later : List Nat}
    (hsaw : (start memo instants).Saw (early ++ [other] ++ later) caller cell)
    (hguarded : ((start memo instants).run (early ++ [other] ++ later)).Guarded caller)
    (hretires : ((start memo instants).run early).Retires other cell) :
    ((start memo instants).run early).Guarded caller := by
  obtain ⟨before, after, hschedule, hbefore, hslot⟩ := hsaw
  rw [List.append_assoc] at hschedule
  rcases List.append_eq_append_iff.mp hschedule with ⟨between, rfl, -⟩ | ⟨between, rfl, -⟩
  · -- the retired cell would have been replaced before, and not come back
    have hreplaced := (accounted_run memo instants early).mem_replaced_of_retires hretires
    have hlater := mem_replaced_run (List.mem_map_of_mem hreplaced) between
    rw [← run_append] at hlater
    exact absurd (congrArg Cell.id hslot) ((distinct_run memo instants _).slot_id_ne hlater)
  · rw [List.append_assoc, List.append_assoc, run_append] at hguarded
    rw [run_append]
    exact hbefore.run_between between ([other] ++ later) hguarded

-- What may be destroyed is neither in the slot nor held by a call.
theorem Reclaimable.unreachable (hreclaimable : (start memo instants).Reclaimable schedule cell) :
    ((start memo instants).run schedule).slot ≠ cell ∧
      ∀ call ∈ ((start memo instants).run schedule).calls, cell ∉ call.phase.held := by
  obtain ⟨early, other, later, rfl, hretires, hunpinned⟩ := hreclaimable
  have hdistinct := distinct_run memo instants (early ++ [other] ++ later)
  have hreplaced : cell ∈
      ((start memo instants).run (early ++ [other] ++ later)).replaced.map Prod.fst := by
    have hearly := (accounted_run memo instants early).mem_replaced_of_retires hretires
    rw [List.append_assoc, run_append]
    exact mem_replaced_run (List.mem_map_of_mem hearly) _
  refine ⟨fun hslot => hdistinct.slot_id_ne hreplaced (congrArg Cell.id hslot), ?_⟩
  intro call hmem hheld
  obtain ⟨caller, hcall⟩ := List.getElem?_of_mem hmem
  have hguarded := guarded_of_held hcall hheld
  have hsaw := (kept_run memo instants _).saw hdistinct hcall hheld
    (List.mem_cons_of_mem _ hreplaced)
  exact hunpinned caller (hsaw.guarded_of_retires hguarded hretires) hguarded

section Finished

variable {race : Race}
variable (hfinished : ∀ call ∈ race.calls, ∃ first source, call.phase = .finished first source)
include hfinished

theorem not_guarded_of_finished (caller : Nat) : ¬ race.Guarded caller := by
  rintro ⟨call, hcall, hguarded⟩
  obtain ⟨first, source, hphase⟩ := hfinished call (List.mem_of_getElem? hcall)
  rw [hphase] at hguarded
  exact hguarded

theorem owed?_eq_none_of_finished (caller : Nat) : race.owed? caller = none := by
  refine Option.eq_none_iff_forall_ne_some.mpr fun cell howed => ?_
  obtain ⟨call, own, hcall, hwon⟩ := retires_iff_owed?.mpr howed
  obtain ⟨first, source, hphase⟩ := hfinished call (List.mem_of_getElem? hcall)
  cases hphase.symm.trans hwon

end Finished

end Start

-- Under every schedule, what has been installed, the seed included, is what stands in the slot and
-- what has been replaced. A cell is retired once at most, by the call that has replaced it, and not
-- while it is in the slot; one that has lost its swap never is, as it never comes into the slot.
-- What a call still holds was in the slot while its guard was pinned, and is not retired before.
-- So what may be destroyed is out of reach, and in the end every cell is freed once.
theorem run_reclamation (memo : Memo) (instants : List Int) (schedule : List Nat) :
    let race := start memo instants
    let shared := race.run schedule
    ((shared.installed.map Cell.id).Nodup ∧
      ∀ cell, cell ∈ shared.slot :: shared.replaced.map Prod.fst ↔
        cell = race.slot ∨ ∃ caller, race.Took schedule caller Installs cell) ∧
    ((shared.retired.map fun pair => pair.1.id).Nodup ∧
      ∀ cell caller, ((cell, caller) ∈ shared.retired ↔ race.Took schedule caller Retires cell) ∧
        ((cell, caller) ∈ shared.retired ∨ shared.Retires caller cell →
          race.Took schedule caller Replaces cell ∧ shared.slot.id ≠ cell.id) ∧
        (shared.Retires caller cell → ∀ pair ∈ shared.retired, pair.1.id ≠ cell.id)) ∧
    (∀ caller own, race.Took schedule caller Loses own →
      own.id ∉ shared.installed.map Cell.id ∧ ∀ pair ∈ shared.retired, pair.1.id ≠ own.id) ∧
    (∀ caller call cell, shared.calls[caller]? = some call → cell ∈ call.phase.held →
      cell ∈ shared.installed → race.Saw schedule caller cell ∧
        ∀ early other later, schedule = early ++ [other] ++ later →
          (race.run early).Retires other cell → (race.run early).Guarded caller) ∧
    (∀ early later cell, schedule = early ++ later → race.Reclaimable early cell →
      shared.slot ≠ cell ∧ ∀ call ∈ shared.calls, cell ∉ call.phase.held) ∧
    ((∀ call ∈ shared.calls, ∃ first source, call.phase = .finished first source) →
      (∀ pair ∈ shared.retired, race.Reclaimable schedule pair.1) ∧
        shared.freed.Perm shared.installed) := by
  intro race shared
  have hdistinct : shared.Distinct := distinct_run memo instants schedule
  have haccounted : shared.Accounted := accounted_run memo instants schedule
  refine ⟨⟨hdistinct.nodup, mem_installed_run_iff memo instants schedule⟩,
    ⟨haccounted.nodup, fun cell caller => ⟨mem_retired_run_iff memo instants schedule caller cell,
      ?_, ?_⟩⟩, ?_, ?_, ?_, ?_⟩
  · intro hretired
    have hreplaced : (cell, caller) ∈ shared.replaced := by
      rcases hretired with hretired | hretires
      · exact ((haccounted.retired_iff cell caller).mp hretired).1
      · exact haccounted.mem_replaced_of_retires hretires
    exact ⟨(mem_replaced_run_iff memo instants schedule caller cell).mp hreplaced,
      hdistinct.slot_id_ne (List.mem_map_of_mem hreplaced)⟩
  · intro hretires pair hpair
    exact haccounted.id_ne_of_owed hdistinct (retires_iff_owed?.mp hretires) hpair
  · rintro caller own ⟨before, after, rfl, hloses⟩
    have hstep := hloses.discarded_step (distinct_run memo instants before)
    have hdiscarded : shared.Discarded own := by
      have hlater := hstep.run after
      rwa [← run_concat, ← run_append] at hlater
    refine ⟨hdiscarded.absent, ?_⟩
    rintro ⟨cell, other⟩ hpair hid
    have hreplaced := ((haccounted.retired_iff cell other).mp hpair).1
    have hinstalled : cell ∈ shared.installed :=
      List.mem_cons_of_mem _ (List.mem_map_of_mem hreplaced)
    exact hdiscarded.absent (hid ▸ List.mem_map_of_mem hinstalled)
  · intro caller call cell hcall hheld hinstalled
    have hsaw := (kept_run memo instants schedule).saw hdistinct hcall hheld hinstalled
    refine ⟨hsaw, ?_⟩
    rintro early other later rfl hretires
    exact hsaw.guarded_of_retires (guarded_of_held hcall hheld) hretires
  · rintro early later cell rfl hreclaimable
    exact (hreclaimable.append later).unreachable
  · intro hfinished
    constructor
    · rintro ⟨cell, caller⟩ hpair
      obtain ⟨early, later, hschedule, hretires⟩ :=
        (mem_retired_run_iff memo instants schedule caller cell).mp hpair
      exact ⟨early, caller, later, hschedule, hretires,
        fun other _ => not_guarded_of_finished hfinished other⟩
    · have hperm := haccounted.perm hdistinct (owed?_eq_none_of_finished hfinished)
      exact (hperm.map Prod.fst).cons shared.slot

-- The second call retires the seed while the first holds it, so that it is destroyed later.
-- The first loses its swap, and what it has written is not among the cells that are freed.
theorem run_reclamation_pinned :
    let race := start (Memo.ofStyle .epochMillis .own 0) [10, 20]
    let schedule := [0, 0, 1, 1, 1, 1, 1]
    let whole := schedule ++ [0, 0, 0, 1]
    ((race.slot, 1) ∈ (race.run schedule).retired ∧ (race.run [0, 0, 1, 1, 1, 1]).Guarded 0 ∧
      ¬ race.Reclaimable schedule race.slot) ∧
    race.Reclaimable whole race.slot ∧ (race.run whole).freed.Perm (race.run whole).installed ∧
      (race.run whole).freed.map Cell.id = [1, 0] ∧
      2 ∉ (race.run whole).installed.map Cell.id := by
  intro race schedule whole
  have hretired : (race.slot, 1) ∈ (race.run schedule).retired := by decide +kernel
  have hwhole : (race.slot, 1) ∈ (race.run whole).retired := by decide +kernel
  obtain ⟨-, -, -, hguards, hreach, -⟩ :=
    run_reclamation (Memo.ofStyle .epochMillis .own 0) [10, 20] schedule
  obtain ⟨-, -, hloses, -, -, hdone⟩ :=
    run_reclamation (Memo.ofStyle .epochMillis .own 0) [10, 20] whole
  have hholder : (race.run schedule).calls[0]? =
      some ⟨10, 0, ⟨1, 0, 0⟩, .loaded race.slot⟩ := by decide +kernel
  have hheld : race.slot ∈ (Phase.loaded race.slot).held := List.mem_cons_self
  obtain ⟨-, hguarded⟩ := hguards 0 _ race.slot hholder hheld (by decide +kernel)
  have hretires : (race.run [0, 0, 1, 1, 1, 1]).Retires 1 race.slot :=
    retires_iff_owed?.mpr (by decide +kernel)
  have hfinished : ∀ call ∈ (race.run whole).calls,
      ∃ first source, call.phase = .finished first source := by
    intro call hcall
    have hsteps : ∀ call ∈ (race.run whole).calls, call.phase.stepsLeft = 0 := by decide +kernel
    exact call.phase.exists_of_stepsLeft_eq_zero (hsteps call hcall)
  obtain ⟨hreclaimable, hperm⟩ := hdone hfinished
  have hlost : (race.run ([0, 0, 1, 1, 1, 1, 1] ++ [0])).Loses 0
      ⟨2, Style.epochMillis.entry 10⟩ :=
    ⟨⟨10, 0, ⟨1, 1, 0⟩, .prepared race.slot ⟨2, Style.epochMillis.entry 10⟩⟩, race.slot,
      by decide +kernel, rfl, by decide +kernel⟩
  refine ⟨⟨hretired, hguarded _ 1 [] rfl hretires, fun hearly => ?_⟩, hreclaimable _ hwhole, hperm,
    by decide +kernel, (hloses 0 _ ⟨_, [0, 1], rfl, hlost⟩).1⟩
  exact (hreach schedule [] race.slot rfl hearly).2 _ (List.mem_of_getElem? hholder) hheld

end Race

end EventTime
