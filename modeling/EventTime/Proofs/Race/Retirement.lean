import EventTime.Proofs.Race.Cells
import Mathlib.Data.List.Nodup

-- A call that replaces a cell retires it by its next step, and nobody else does.
namespace EventTime

-- The cell that a call has replaced and has yet to retire.
def Phase.owes? : Phase → Option Cell
  | won first _ => some first
  | _ => none

namespace Race

def owed? (race : Race) (caller : Nat) : Option Cell :=
  race.calls[caller]?.bind fun call => call.phase.owes?

-- In a race, the id of a cell tells which one it is.
theorem Distinct.eq_of_id_eq {race : Race} (hdistinct : race.Distinct) {cell other : Cell}
    (hcell : cell ∈ race.installed) (hother : other ∈ race.installed) (hid : cell.id = other.id) :
    cell = other :=
  List.inj_on_of_nodup_map hdistinct.nodup hcell hother hid

section Moves

variable {race shared : Race} {caller : Nat} {call next : Call}

theorem owed?_eq (hcall : race.calls[caller]? = some call) :
    race.owed? caller = call.phase.owes? := by
  rw [owed?, hcall, Option.bind_some]

theorem Move.owed?_update (hmove : Move race caller call shared next)
    (hcall : race.calls[caller]? = some call) (number : Nat) :
    (shared.update caller next).owed? number =
      if caller = number then next.phase.owes? else race.owed? number := by
  rw [owed?, hmove.getElem?_update hcall]
  split <;> rfl

-- A swap that succeeds replaces the slot, and the step after it retires what was there.
theorem Move.account_cases (hmove : Move race caller call shared next) :
    (∃ first own, call.phase = .prepared first own ∧ race.slot.id = first.id ∧
        next.phase.owes? = some first ∧ shared.replaced = (race.slot, caller) :: race.replaced ∧
        shared.retired = race.retired) ∨
      (∃ first, call.phase.owes? = some first ∧ next.phase.owes? = none ∧
        shared.replaced = race.replaced ∧ shared.retired = (first, caller) :: race.retired) ∨
      call.phase.owes? = none ∧ next.phase.owes? = none ∧ shared.replaced = race.replaced ∧
        shared.retired = race.retired := by
  cases hmove with
  | win first own hphase hslot => exact .inl ⟨first, own, hphase, hslot, rfl, rfl, rfl⟩
  | retire first own hphase =>
      exact .inr (.inl ⟨first, by rw [hphase]; rfl, rfl, rfl, rfl⟩)
  | pin hphase | load hphase | hit _ hphase | write _ hphase | keep _ _ hphase | lose _ _ hphase
  | reload _ _ hphase | unpin _ _ hphase =>
      exact .inr (.inr ⟨by rw [hphase]; rfl, rfl, rfl, rfl⟩)

end Moves

-- What has been replaced has been retired, but for what is still owed.
structure Accounted (race : Race) : Prop where
  owed_mem : ∀ (cell : Cell) (caller : Nat), race.owed? caller = some cell →
    (cell, caller) ∈ race.replaced
  retired_iff : ∀ (cell : Cell) (caller : Nat), (cell, caller) ∈ race.retired ↔
    (cell, caller) ∈ race.replaced ∧ race.owed? caller ≠ some cell
  nodup : (race.retired.map fun pair => pair.1.id).Nodup

theorem accounted_start (memo : Memo) (instants : List Int) :
    (start memo instants).Accounted where
  owed_mem cell caller howed := by
    simp only [owed?, start, List.getElem?_map, Option.bind_map] at howed
    obtain ⟨millis, -, howes⟩ := Option.bind_eq_some_iff.mp howed
    cases howes
  retired_iff cell caller := by simp [start]
  nodup := List.nodup_nil

section Moves

variable {race shared : Race} {caller : Nat} {call next : Call}

-- What a call is about to swap away is what stands in the slot.
theorem Distinct.slot_eq (hdistinct : race.Distinct) (hcall : race.calls[caller]? = some call)
    {first own : Cell} (hphase : call.phase = .prepared first own)
    (hslot : race.slot.id = first.id) : race.slot = first :=
  hdistinct.eq_of_id_eq race.slot_mem_installed
    (hdistinct.first_mem caller call first hcall (by rw [hphase]; rfl)) hslot

theorem Accounted.move_owed_mem (haccounted : race.Accounted) (hdistinct : race.Distinct)
    (hcall : race.calls[caller]? = some call) (hmove : Move race caller call shared next)
    (cell : Cell) (number : Nat) (howed : (shared.update caller next).owed? number = some cell) :
    (cell, number) ∈ shared.replaced := by
  rw [hmove.owed?_update hcall] at howed
  rcases hmove.account_cases with ⟨first, own, hphase, hslot, howes, hreplaced, -⟩ |
    ⟨first, -, howes, hreplaced, -⟩ | ⟨-, howes, hreplaced, -⟩
  case inl =>
    rw [hreplaced]
    split at howed
    · rename_i hself
      cases howes.symm.trans howed
      rw [← hdistinct.slot_eq hcall hphase hslot, hself]
      exact List.mem_cons_self
    · exact List.mem_cons_of_mem _ (haccounted.owed_mem cell number howed)
  all_goals
    rw [hreplaced]
    split at howed
    · cases howes.symm.trans howed
    · exact haccounted.owed_mem cell number howed

theorem Accounted.move_retired_iff (haccounted : race.Accounted) (hdistinct : race.Distinct)
    (hcall : race.calls[caller]? = some call) (hmove : Move race caller call shared next)
    (cell : Cell) (number : Nat) : (cell, number) ∈ shared.retired ↔
      (cell, number) ∈ shared.replaced ∧ (shared.update caller next).owed? number ≠ some cell := by
  have hbefore := haccounted.retired_iff cell number
  have howed := owed?_eq hcall
  rw [hmove.owed?_update hcall]
  rcases hmove.account_cases with ⟨first, own, hphase, hslot, howes, hreplaced, hretired⟩ |
    ⟨first, hfirst, howes, hreplaced, hretired⟩ | ⟨hnone, howes, hreplaced, hretired⟩
  · -- what is replaced now is owed, and has not been replaced before
    obtain rfl := hdistinct.slot_eq hcall hphase hslot
    have hnone : call.phase.owes? = none := by rw [hphase]; rfl
    rw [hretired, hreplaced, hbefore, List.mem_cons]
    by_cases hself : caller = number
    · subst hself
      rw [if_pos rfl, howed, hnone, howes]
      constructor
      · rintro ⟨hmem, -⟩
        have hne := hdistinct.slot_id_ne (List.mem_map_of_mem hmem)
        exact ⟨.inr hmem, fun hslot => hne (congrArg Cell.id (Option.some.inj hslot))⟩
      · rintro ⟨hnew | hmem, hne⟩
        · exact absurd (congrArg some (congrArg Prod.fst hnew).symm) hne
        · exact ⟨hmem, nofun⟩
    · rw [if_neg hself, or_iff_right]
      exact fun hnew => hself (congrArg Prod.snd hnew).symm
  · -- what was owed is retired now
    rw [hretired, hreplaced, List.mem_cons]
    by_cases hself : caller = number
    · subst hself
      rw [if_pos rfl, hbefore, howed, hfirst, howes]
      constructor
      · rintro (hnew | ⟨hmem, -⟩)
        · obtain rfl : cell = first := congrArg Prod.fst hnew
          exact ⟨haccounted.owed_mem cell caller (howed.trans hfirst), nofun⟩
        · exact ⟨hmem, nofun⟩
      · rintro ⟨hmem, -⟩
        by_cases hcell : cell = first
        · exact .inl (by rw [hcell])
        · exact .inr ⟨hmem, fun hsome => hcell (Option.some.inj hsome).symm⟩
    · rw [if_neg hself, or_iff_right, hbefore]
      exact fun hnew => hself (congrArg Prod.snd hnew).symm
  · rw [hretired, hreplaced, hbefore]
    by_cases hself : caller = number
    · subst hself
      rw [if_pos rfl, howed, hnone, howes]
    · rw [if_neg hself]

theorem Distinct.replaced_nodup (hdistinct : race.Distinct) :
    (race.replaced.map fun pair => pair.1.id).Nodup := by
  have hnodup := hdistinct.nodup
  rw [installed, List.map_cons, List.nodup_cons, List.map_map] at hnodup
  exact hnodup.2

-- What is owed has not been retired.
theorem Accounted.id_ne_of_owed (haccounted : race.Accounted) (hdistinct : race.Distinct)
    {first : Cell} (howed : race.owed? caller = some first) {pair : Cell × Nat}
    (hpair : pair ∈ race.retired) : pair.1.id ≠ first.id := by
  intro hid
  have hreplaced := ((haccounted.retired_iff pair.1 pair.2).mp hpair).1
  have hsame : pair = (first, caller) :=
    List.inj_on_of_nodup_map hdistinct.replaced_nodup hreplaced
      (haccounted.owed_mem first caller howed) hid
  subst hsame
  exact ((haccounted.retired_iff first caller).mp hpair).2 howed

theorem Accounted.move_nodup (haccounted : race.Accounted) (hdistinct : race.Distinct)
    (hcall : race.calls[caller]? = some call) (hmove : Move race caller call shared next) :
    (shared.retired.map fun pair => pair.1.id).Nodup := by
  rcases hmove.account_cases with ⟨-, -, -, -, -, -, hretired⟩ |
    ⟨first, hfirst, -, -, hretired⟩ | ⟨-, -, -, hretired⟩
  case inr.inl =>
    rw [hretired, List.map_cons, List.nodup_cons]
    refine ⟨fun hmem => ?_, haccounted.nodup⟩
    obtain ⟨pair, hpair, hid⟩ := List.mem_map.mp hmem
    exact haccounted.id_ne_of_owed hdistinct ((owed?_eq hcall).trans hfirst) hpair hid
  all_goals
    rw [hretired]
    exact haccounted.nodup

theorem Accounted.move (haccounted : race.Accounted) (hdistinct : race.Distinct)
    (hcall : race.calls[caller]? = some call) (hmove : Move race caller call shared next) :
    (shared.update caller next).Accounted := by
  have hnodup := haccounted.move_nodup hdistinct hcall hmove
  exact
    { owed_mem := haccounted.move_owed_mem hdistinct hcall hmove
      retired_iff := haccounted.move_retired_iff hdistinct hcall hmove
      nodup := hnodup }

end Moves

theorem accounted_run (memo : Memo) (instants : List Int) (schedule : List Nat) :
    ((start memo instants).run schedule).Accounted := by
  refine (@run_invariant (fun race => race.Distinct ∧ race.Accounted) ?_ _
    ⟨distinct_start memo instants, accounted_start memo instants⟩ schedule).2
  rintro race caller call shared next ⟨hdistinct, haccounted⟩ hcall hmove
  exact ⟨hdistinct.move hcall hmove, haccounted.move hdistinct hcall hmove⟩

-- Where nothing is owed, all that has been replaced has been retired.
theorem Accounted.perm {race : Race} (haccounted : race.Accounted) (hdistinct : race.Distinct)
    (hnone : ∀ caller, race.owed? caller = none) : race.retired.Perm race.replaced := by
  refine (List.perm_ext_iff_of_nodup haccounted.nodup.of_map hdistinct.replaced_nodup.of_map).mpr ?_
  rintro ⟨cell, caller⟩
  rw [haccounted.retired_iff, hnone]
  exact and_iff_left nofun

-- A cell that has been written, and can no longer come into the slot.
structure Discarded (race : Race) (cell : Cell) : Prop where
  lt : cell.id < race.nextId
  absent : cell.id ∉ race.installed.map Cell.id
  unowned : ∀ (number : Nat) (call : Call) (own : Cell), race.calls[number]? = some call →
    call.phase.own? = some own → own.id ≠ cell.id

section Moves

variable {race shared : Race} {caller : Nat} {call next : Call} {cell : Cell}

theorem Discarded.move (hdiscarded : race.Discarded cell)
    (hcall : race.calls[caller]? = some call) (hmove : Move race caller call shared next) :
    (shared.update caller next).Discarded cell where
  lt := Nat.lt_of_lt_of_le hdiscarded.lt hmove.nextId_le
  absent := by
    change cell.id ∉ shared.installed.map Cell.id
    rcases hmove.installed_cases with ⟨hsame, -⟩ | ⟨first, own, hphase, -, -, -, hcons⟩
    · exact hsame ▸ hdiscarded.absent
    · rw [hcons, List.map_cons, List.mem_cons, not_or]
      have hunowned := hdiscarded.unowned caller call own hcall (by rw [hphase]; rfl)
      exact ⟨hunowned.symm, hdiscarded.absent⟩
  unowned number other own hother hown := by
    rw [hmove.getElem?_update hcall] at hother
    split at hother
    · obtain rfl := Option.some.inj hother
      rw [(hmove.own?_next hown).1]
      exact Nat.ne_of_gt hdiscarded.lt
    · exact hdiscarded.unowned number other own hother hown

-- A call that goes on without its own cell in the slot has discarded it.
theorem Distinct.discarded (hdistinct : race.Distinct) (hcall : race.calls[caller]? = some call)
    {first own : Cell} (hphase : call.phase = .prepared first own)
    (hmove : Move race caller call shared next) (hnext : next.phase.own? = none)
    (hinstalled : shared.installed = race.installed) :
    (shared.update caller next).Discarded own where
  lt := by
    have hown := hdistinct.own_lt caller call own hcall (by rw [hphase]; rfl)
    exact Nat.lt_of_lt_of_le hown hmove.nextId_le
  absent := by
    change own.id ∉ shared.installed.map Cell.id
    rw [hinstalled]
    exact hdistinct.own_new caller call own hcall (by rw [hphase]; rfl)
  unowned number other theirs hother htheirs hid := by
    rw [hmove.getElem?_update hcall] at hother
    split at hother
    · obtain rfl := Option.some.inj hother
      cases hnext.symm.trans htheirs
    · rename_i hne
      exact hne (hdistinct.own_unique caller number call other own theirs hcall hother
        (by rw [hphase]; rfl) htheirs hid.symm)

end Moves

theorem Discarded.run {race : Race} {cell : Cell} (hdiscarded : race.Discarded cell)
    (schedule : List Nat) : (race.run schedule).Discarded cell :=
  @run_invariant (fun race => race.Discarded cell)
    (fun _ _ _ _ _ hdiscarded hcall hmove => hdiscarded.move hcall hmove) race hdiscarded schedule

end Race

end EventTime
