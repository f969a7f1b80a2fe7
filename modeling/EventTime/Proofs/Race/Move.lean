import EventTime.Memo.Race

-- What a race can do in one step, and what every schedule therefore keeps.
namespace EventTime.Race

-- The moves of a call. Each gives the race as the other calls see it afterwards,
-- and the call as it goes on.
inductive Move (race : Race) (caller : Nat) (call : Call) : Race → Call → Prop where
  | pin (hphase : call.phase = .waiting) :
      Move race caller call race { call with since := race.replaced.length, phase := .pinned }
  | load (hphase : call.phase = .pinned) :
      Move race caller call race (call.load.enter (.loaded race.slot))
  | hit (first : Cell) (hphase : call.phase = .loaded first)
      (hmillis : first.entry.millis = call.millis) :
      Move race caller call race (call.enter (.answered first first))
  | write (first : Cell) (hphase : call.phase = .loaded first)
      (hmillis : first.entry.millis ≠ call.millis) :
      Move race caller call { race with nextId := race.nextId + 1 }
        (call.write.enter (.prepared first ⟨race.nextId, race.style.entry call.millis⟩))
  | win (first own : Cell) (hphase : call.phase = .prepared first own)
      (hslot : race.slot.id = first.id) :
      Move race caller call
        { race with slot := own, replaced := (race.slot, caller) :: race.replaced }
        (call.swap.enter (.won first own))
  | keep (first own : Cell) (hphase : call.phase = .prepared first own)
      (hslot : race.slot.id ≠ first.id) (hpolicy : race.policy = .own) :
      Move race caller call race (call.swap.enter (.answered first own))
  | lose (first own : Cell) (hphase : call.phase = .prepared first own)
      (hslot : race.slot.id ≠ first.id) (hpolicy : race.policy = .installed) :
      Move race caller call race (call.swap.enter (.lost first own))
  | retire (first own : Cell) (hphase : call.phase = .won first own) :
      Move race caller call { race with retired := (first, caller) :: race.retired }
        (call.enter (.answered first own))
  | reload (first own : Cell) (hphase : call.phase = .lost first own) :
      Move race caller call race (call.load.enter (.answered first race.slot))
  | unpin (first source : Cell) (hphase : call.phase = .answered first source) :
      Move race caller call race (call.enter (.finished first source))

theorem advance_cases (race : Race) (caller : Nat) (call : Call) :
    (∃ first source, call.phase = .finished first source ∧ race.advance caller call = race) ∨
      ∃ shared next, Move race caller call shared next ∧
        race.advance caller call = shared.update caller next := by
  cases hphase : call.phase with
  | waiting => exact .inr ⟨_, _, .pin hphase, by simp only [advance, hphase]⟩
  | pinned => exact .inr ⟨_, _, .load hphase, by simp only [advance, hphase]⟩
  | loaded first =>
      by_cases hmillis : first.entry.millis = call.millis
      · exact .inr ⟨_, _, .hit first hphase hmillis, by
          simp only [advance, hphase, if_pos hmillis]⟩
      · exact .inr ⟨_, _, .write first hphase hmillis, by
          simp only [advance, hphase, if_neg hmillis]⟩
  | prepared first own =>
      by_cases hslot : race.slot.id = first.id
      · exact .inr ⟨_, _, .win first own hphase hslot, by
          simp only [advance, hphase, swap, if_pos hslot]⟩
      · cases hpolicy : race.policy with
        | own =>
            exact .inr ⟨_, _, .keep first own hphase hslot hpolicy, by
              simp only [advance, hphase, swap, if_neg hslot, hpolicy]⟩
        | installed =>
            exact .inr ⟨_, _, .lose first own hphase hslot hpolicy, by
              simp only [advance, hphase, swap, if_neg hslot, hpolicy]⟩
  | won first own => exact .inr ⟨_, _, .retire first own hphase, by simp only [advance, hphase]⟩
  | lost first own => exact .inr ⟨_, _, .reload first own hphase, by simp only [advance, hphase]⟩
  | answered first source =>
      exact .inr ⟨_, _, .unpin first source hphase, by simp only [advance, hphase]⟩
  | finished first source =>
      exact .inl ⟨first, source, rfl, by simp only [advance, hphase]⟩

-- A step changes nothing, or it is a move of the call that is named.
theorem step_cases (race : Race) (caller : Nat) :
    race.step caller = race ∨
      ∃ call shared next, race.calls[caller]? = some call ∧ Move race caller call shared next ∧
        race.step caller = shared.update caller next := by
  unfold step
  cases hcall : race.calls[caller]? with
  | none => exact .inl rfl
  | some call =>
      rcases race.advance_cases caller call with ⟨_, _, _, hsame⟩ | ⟨shared, next, hmove, hnext⟩
      · exact .inl hsame
      · exact .inr ⟨call, shared, next, rfl, hmove, hnext⟩

-- What every move keeps holds at the end of every schedule.
theorem run_invariant {holds : Race → Prop}
    (hkeep : ∀ (race : Race) (caller : Nat) (call : Call) (shared : Race) (next : Call),
      holds race → race.calls[caller]? = some call → Move race caller call shared next →
        holds (shared.update caller next))
    (race : Race) (hstart : holds race) (schedule : List Nat) : holds (race.run schedule) := by
  induction schedule generalizing race with
  | nil => exact hstart
  | cons caller rest ih =>
      apply ih (race.step caller)
      rcases race.step_cases caller with hsame | ⟨call, shared, next, hcall, hmove, hnext⟩
      · rw [hsame]
        exact hstart
      · rw [hnext]
        exact hkeep race caller call shared next hstart hcall hmove

namespace Move

variable {race shared : Race} {caller : Nat} {call next : Call}

theorem style_eq (hmove : Move race caller call shared next) : shared.style = race.style := by
  cases hmove <;> rfl

theorem policy_eq (hmove : Move race caller call shared next) :
    shared.policy = race.policy := by
  cases hmove <;> rfl

-- A move touches no call but its own.
theorem calls_eq (hmove : Move race caller call shared next) : shared.calls = race.calls := by
  cases hmove <;> rfl

theorem millis_eq (hmove : Move race caller call shared next) : next.millis = call.millis := by
  cases hmove <;> rfl

theorem mem_calls (hmove : Move race caller call shared next) {other : Call}
    (hother : other ∈ (shared.update caller next).calls) : other ∈ race.calls ∨ other = next := by
  simp only [update, hmove.calls_eq] at hother
  exact List.mem_or_eq_of_mem_set hother

theorem map_millis (hmove : Move race caller call shared next)
    (hcall : race.calls[caller]? = some call) :
    (shared.update caller next).calls.map Call.millis = race.calls.map Call.millis := by
  have hmillis : (race.calls.map Call.millis)[caller]? = some call.millis := by
    rw [List.getElem?_map, hcall, Option.map_some]
  obtain ⟨hlt, hget⟩ := List.getElem?_eq_some_iff.mp hmillis
  simp only [update, hmove.calls_eq, List.map_set, hmove.millis_eq]
  rw [← hget, List.set_getElem_self]

end Move

end EventTime.Race
