import EventTime.Proofs.Race.Move

-- Cells are told apart by their ids, and a cell that has been replaced never comes back.
namespace EventTime

namespace Phase

-- The cell that a call has loaded before its swap.
def first? : Phase → Option Cell
  | waiting => none
  | pinned => none
  | loaded first => some first
  | prepared first _ => some first
  | won first _ => some first
  | lost first _ => some first
  | answered first _ => some first
  | finished first _ => some first

-- The cell that a call is about to install.
def own? : Phase → Option Cell
  | prepared _ own => some own
  | _ => none

end Phase

namespace Race

-- The cells that have stood in the slot, the last first.
def installed (race : Race) : List Cell := race.slot :: race.replaced.map Prod.fst

theorem slot_mem_installed (race : Race) : race.slot ∈ race.installed := List.mem_cons_self

namespace Move

variable {race shared : Race} {caller : Nat} {call next : Call}

theorem getElem?_update (hmove : Move race caller call shared next)
    (hcall : race.calls[caller]? = some call) (number : Nat) :
    (shared.update caller next).calls[number]? =
      if caller = number then some next else race.calls[number]? := by
  have hlt := (List.getElem?_eq_some_iff.mp hcall).1
  rw [update, hmove.calls_eq, List.getElem?_set]
  by_cases hself : caller = number
  · rw [if_pos hself, if_pos hself, if_pos (hself ▸ hlt)]
  · rw [if_neg hself, if_neg hself]

theorem nextId_le (hmove : Move race caller call shared next) : race.nextId ≤ shared.nextId := by
  cases hmove <;> first | exact Nat.le_succ _ | exact Nat.le_refl _

-- Only a swap that succeeds adds to the cells that have stood in the slot.
theorem installed_cases (hmove : Move race caller call shared next) :
    shared.installed = race.installed ∧ shared.slot = race.slot ∨
      ∃ first own, call.phase = .prepared first own ∧ race.slot.id = first.id ∧
        shared.slot = own ∧ next.phase = .won first own ∧
        shared.installed = own :: race.installed := by
  cases hmove with
  | win first own hphase hslot => exact .inr ⟨first, own, hphase, hslot, rfl, rfl, rfl⟩
  | _ => exact .inl ⟨rfl, rfl⟩

theorem mem_installed (hmove : Move race caller call shared next) {cell : Cell}
    (hcell : cell ∈ race.installed) : cell ∈ shared.installed := by
  rcases hmove.installed_cases with ⟨hsame, -⟩ | ⟨first, own, -, -, -, -, hcons⟩
  · exact hsame ▸ hcell
  · exact hcons ▸ List.mem_cons_of_mem _ hcell

-- A cell that is prepared is a new one.
theorem own?_next (hmove : Move race caller call shared next) {own : Cell}
    (hown : next.phase.own? = some own) :
    own.id = race.nextId ∧ shared.nextId = race.nextId + 1 ∧
      shared.installed = race.installed := by
  cases hmove with
  | write first hphase hmillis =>
      obtain rfl := Option.some.inj hown
      exact ⟨rfl, rfl, rfl⟩
  | _ => cases hown

-- The cell that a call has loaded stays the same up to its end.
theorem first?_next (hmove : Move race caller call shared next) {first : Cell}
    (hfirst : next.phase.first? = some first) :
    call.phase = .pinned ∧ first = race.slot ∨ call.phase.first? = some first := by
  cases hmove with
  | pin hphase => cases hfirst
  | load hphase => exact .inl ⟨hphase, (Option.some.inj hfirst).symm⟩
  | hit _ hphase | write _ hphase | win _ _ hphase | keep _ _ hphase | lose _ _ hphase
  | retire _ _ hphase | reload _ _ hphase | unpin _ _ hphase =>
      rw [hphase]
      exact .inr hfirst

-- A call loses where the slot holds another cell than the one that it has loaded.
theorem lost_next (hmove : Move race caller call shared next) {first own : Cell}
    (hlost : next.phase = .lost first own) :
    call.phase = .prepared first own ∧ race.slot.id ≠ first.id ∧
      shared.replaced = race.replaced := by
  cases hmove with
  | lose mine theirs hphase hslot hpolicy =>
      cases hlost
      exact ⟨hphase, hslot, rfl⟩
  | _ => cases hlost

theorem mem_replaced (hmove : Move race caller call shared next) {cell : Cell}
    (hcell : cell ∈ race.replaced.map Prod.fst) : cell ∈ shared.replaced.map Prod.fst := by
  cases hmove with
  | win first own hphase hslot => exact List.mem_cons_of_mem _ hcell
  | _ => exact hcell

end Move

-- No two cells have the same id, whether they have stood in the slot or are about to.
structure Distinct (race : Race) : Prop where
  installed_lt : ∀ cell ∈ race.installed, cell.id < race.nextId
  nodup : (race.installed.map Cell.id).Nodup
  own_lt : ∀ (number : Nat) (call : Call) (own : Cell), race.calls[number]? = some call →
    call.phase.own? = some own → own.id < race.nextId
  own_new : ∀ (number : Nat) (call : Call) (own : Cell), race.calls[number]? = some call →
    call.phase.own? = some own → own.id ∉ race.installed.map Cell.id
  own_unique : ∀ (number other : Nat) (call rival : Call) (own theirs : Cell),
    race.calls[number]? = some call → race.calls[other]? = some rival →
    call.phase.own? = some own → rival.phase.own? = some theirs → own.id = theirs.id →
    number = other
  first_mem : ∀ (number : Nat) (call : Call) (first : Cell), race.calls[number]? = some call →
    call.phase.first? = some first → first ∈ race.installed
  lost_mem : ∀ (number : Nat) (call : Call) (first own : Cell), race.calls[number]? = some call →
    call.phase = .lost first own → first ∈ race.replaced.map Prod.fst

theorem distinct_start (memo : Memo) (instants : List Int) : (start memo instants).Distinct := by
  have hwaiting : ∀ (number : Nat) (call : Call),
      (start memo instants).calls[number]? = some call → call.phase = .waiting := by
    intro number call hcall
    obtain ⟨millis, -, rfl⟩ := List.mem_map.mp (List.mem_of_getElem? hcall)
    rfl
  refine
    { installed_lt := ?_, nodup := by simp [installed, start], own_lt := ?_, own_new := ?_
      own_unique := ?_, first_mem := ?_, lost_mem := ?_ }
  · intro cell hcell
    obtain rfl := List.mem_singleton.mp hcell
    exact Nat.zero_lt_one
  · intro number call own hcall hown
    simp [hwaiting number call hcall, Phase.own?] at hown
  · intro number call own hcall hown
    simp [hwaiting number call hcall, Phase.own?] at hown
  · intro number other call rival own theirs hcall _ hown
    simp [hwaiting number call hcall, Phase.own?] at hown
  · intro number call first hcall hfirst
    simp [hwaiting number call hcall, Phase.first?] at hfirst
  · intro number call first own hcall hphase
    simp [hwaiting number call hcall] at hphase

section Moves

variable {race shared : Race} {caller : Nat} {call next : Call}

theorem Distinct.move_installed_lt (hdistinct : race.Distinct)
    (hcall : race.calls[caller]? = some call) (hmove : Move race caller call shared next) :
    ∀ cell ∈ shared.installed, cell.id < shared.nextId := by
  intro cell hcell
  apply Nat.lt_of_lt_of_le _ hmove.nextId_le
  rcases hmove.installed_cases with ⟨hsame, -⟩ | ⟨first, own, hphase, -, -, -, hcons⟩
  · exact hdistinct.installed_lt cell (hsame ▸ hcell)
  · rw [hcons] at hcell
    rcases List.mem_cons.mp hcell with rfl | hcell
    · exact hdistinct.own_lt caller call cell hcall (by rw [hphase]; rfl)
    · exact hdistinct.installed_lt cell hcell

theorem Distinct.move_nodup (hdistinct : race.Distinct)
    (hcall : race.calls[caller]? = some call) (hmove : Move race caller call shared next) :
    (shared.installed.map Cell.id).Nodup := by
  rcases hmove.installed_cases with ⟨hsame, -⟩ | ⟨first, own, hphase, -, -, -, hcons⟩
  · exact hsame ▸ hdistinct.nodup
  · rw [hcons, List.map_cons, List.nodup_cons]
    exact ⟨hdistinct.own_new caller call own hcall (by rw [hphase]; rfl), hdistinct.nodup⟩

-- A cell that waits for its swap is not installed by the swap of another call.
theorem Distinct.move_own_new (hdistinct : race.Distinct)
    (hcall : race.calls[caller]? = some call) (hmove : Move race caller call shared next)
    (number : Nat) (other : Call) (own : Cell)
    (hother : (shared.update caller next).calls[number]? = some other)
    (hown : other.phase.own? = some own) : own.id ∉ shared.installed.map Cell.id := by
  rw [hmove.getElem?_update hcall] at hother
  split at hother
  · obtain rfl := Option.some.inj hother
    obtain ⟨hid, -, hsame⟩ := hmove.own?_next hown
    rw [hsame, hid]
    intro hmem
    obtain ⟨cell, hcell, hcellId⟩ := List.mem_map.mp hmem
    exact absurd (hdistinct.installed_lt cell hcell) (by omega)
  · rename_i hne
    have hold := hdistinct.own_new number other own hother hown
    rcases hmove.installed_cases with ⟨hsame, -⟩ | ⟨first, theirs, hphase, -, -, -, hcons⟩
    · rwa [hsame]
    · rw [hcons, List.map_cons, List.mem_cons, not_or]
      refine ⟨fun hid => hne ?_, hold⟩
      exact hdistinct.own_unique caller number call other theirs own hcall hother
        (by rw [hphase]; rfl) hown hid.symm

theorem Distinct.move_own_lt (hdistinct : race.Distinct)
    (hcall : race.calls[caller]? = some call) (hmove : Move race caller call shared next)
    (number : Nat) (other : Call) (own : Cell)
    (hother : (shared.update caller next).calls[number]? = some other)
    (hown : other.phase.own? = some own) : own.id < shared.nextId := by
  rw [hmove.getElem?_update hcall] at hother
  split at hother
  · obtain rfl := Option.some.inj hother
    obtain ⟨hid, hnext, -⟩ := hmove.own?_next hown
    omega
  · have hold := hdistinct.own_lt number other own hother hown
    have hle := hmove.nextId_le
    omega

theorem Distinct.move_own_unique (hdistinct : race.Distinct)
    (hcall : race.calls[caller]? = some call) (hmove : Move race caller call shared next)
    (number other : Nat) (mine rival : Call) (own theirs : Cell)
    (hmine : (shared.update caller next).calls[number]? = some mine)
    (hrival : (shared.update caller next).calls[other]? = some rival)
    (hown : mine.phase.own? = some own) (htheirs : rival.phase.own? = some theirs)
    (hid : own.id = theirs.id) : number = other := by
  rw [hmove.getElem?_update hcall] at hmine hrival
  split at hmine <;> split at hrival
  · omega
  · obtain rfl := Option.some.inj hmine
    have hnew := (hmove.own?_next hown).1
    have hold := hdistinct.own_lt other rival theirs hrival htheirs
    omega
  · obtain rfl := Option.some.inj hrival
    have hnew := (hmove.own?_next htheirs).1
    have hold := hdistinct.own_lt number mine own hmine hown
    omega
  · exact hdistinct.own_unique number other mine rival own theirs hmine hrival hown htheirs hid

theorem Distinct.move_first_mem (hdistinct : race.Distinct)
    (hcall : race.calls[caller]? = some call) (hmove : Move race caller call shared next)
    (number : Nat) (other : Call) (first : Cell)
    (hother : (shared.update caller next).calls[number]? = some other)
    (hfirst : other.phase.first? = some first) : first ∈ shared.installed := by
  apply hmove.mem_installed
  rw [hmove.getElem?_update hcall] at hother
  split at hother
  · obtain rfl := Option.some.inj hother
    rcases hmove.first?_next hfirst with ⟨-, rfl⟩ | hold
    · exact race.slot_mem_installed
    · exact hdistinct.first_mem caller call first hcall hold
  · exact hdistinct.first_mem number other first hother hfirst

-- A call loses because the cell that it has loaded has been replaced.
theorem Distinct.move_lost_mem (hdistinct : race.Distinct)
    (hcall : race.calls[caller]? = some call) (hmove : Move race caller call shared next)
    (number : Nat) (other : Call) (first own : Cell)
    (hother : (shared.update caller next).calls[number]? = some other)
    (hphase : other.phase = .lost first own) : first ∈ shared.replaced.map Prod.fst := by
  rw [hmove.getElem?_update hcall] at hother
  split at hother
  · obtain rfl := Option.some.inj hother
    obtain ⟨hprepared, hslot, hsame⟩ := hmove.lost_next hphase
    have hmem := hdistinct.first_mem caller call first hcall (by rw [hprepared]; rfl)
    rcases List.mem_cons.mp hmem with rfl | hmem
    · exact absurd rfl hslot
    · exact hsame ▸ hmem
  · exact hmove.mem_replaced (hdistinct.lost_mem number other first own hother hphase)

theorem Distinct.move (hdistinct : race.Distinct) (hcall : race.calls[caller]? = some call)
    (hmove : Move race caller call shared next) : (shared.update caller next).Distinct := by
  have hlt := hdistinct.move_installed_lt hcall hmove
  have hnodup := hdistinct.move_nodup hcall hmove
  exact
    { installed_lt := hlt
      nodup := hnodup
      own_lt := hdistinct.move_own_lt hcall hmove
      own_new := hdistinct.move_own_new hcall hmove
      own_unique := hdistinct.move_own_unique hcall hmove
      first_mem := hdistinct.move_first_mem hcall hmove
      lost_mem := hdistinct.move_lost_mem hcall hmove }

end Moves

theorem distinct_run (memo : Memo) (instants : List Int) (schedule : List Nat) :
    ((start memo instants).run schedule).Distinct :=
  run_invariant (fun _ _ _ _ _ hdistinct hcall hmove => hdistinct.move hcall hmove) _
    (distinct_start memo instants) schedule

-- A cell that has been replaced does not stand in the slot again.
theorem Distinct.slot_id_ne {race : Race} (hdistinct : race.Distinct) {cell : Cell}
    (hcell : cell ∈ race.replaced.map Prod.fst) : race.slot.id ≠ cell.id := by
  have hnodup := hdistinct.nodup
  rw [installed, List.map_cons, List.nodup_cons] at hnodup
  intro hid
  exact hnodup.1 (hid ▸ List.mem_map_of_mem hcell)

end Race

end EventTime
