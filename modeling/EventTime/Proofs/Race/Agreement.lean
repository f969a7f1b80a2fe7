import EventTime.Proofs.Memo.Sound
import EventTime.Proofs.Race.Progress
import Mathlib.Data.List.Basic

-- Calls for one instant agree on its text, whatever the slot held before and whoever wins it.
namespace EventTime

-- The cell that a race begins with.
def Cell.IsSeed (cell : Cell) : Prop := cell.id = 0

-- What a call has seen of the slot, where all calls ask for the same instant.
-- Until one of them has won, the slot may hold a seed of another instant.
def Call.Agrees (style : Style) (slot : Cell) (call : Call) : Prop :=
  match call.phase with
  | .waiting => True
  | .pinned => True
  | .loaded first =>
    first.entry = style.entry call.millis ∧ slot.entry = style.entry call.millis ∨
      first.IsSeed ∧ first.entry.millis ≠ call.millis
  | .prepared first own => first.IsSeed ∧ own.entry = style.entry call.millis
  | .won _ own => own.entry = style.entry call.millis ∧ slot.entry = style.entry call.millis
  | .lost _ _ => slot.entry = style.entry call.millis
  | .answered _ source =>
    source.entry = style.entry call.millis ∧ slot.entry = style.entry call.millis
  | .finished _ source =>
    source.entry = style.entry call.millis ∧ slot.entry = style.entry call.millis

theorem Call.Agrees.settle {style : Style} {slot later : Cell} {call : Call}
    (hagrees : call.Agrees style slot) (hlater : later.entry = style.entry call.millis) :
    call.Agrees style later := by
  unfold Agrees at hagrees ⊢
  cases hphase : call.phase with
  | loaded first =>
      simp only [hphase] at hagrees
      exact hagrees.imp_left fun hsettled => ⟨hsettled.1, hlater⟩
  | _ => simp_all

namespace Race

-- All calls ask for the same instant, and the slot holds its text or still the seed.
structure Uniform (style : Style) (millis : Int) (race : Race) : Prop where
  style_eq : race.style = style
  millis_eq : ∀ call ∈ race.calls, call.millis = millis
  slot : race.slot.entry = style.entry millis ∨
    race.slot.IsSeed ∧ race.slot.entry.millis ≠ millis
  agrees : ∀ call ∈ race.calls, call.Agrees style race.slot

theorem uniform_start (style : Style) (policy : Policy) (seed millis : Int)
    (instants : List Int) (hinstants : ∀ instant ∈ instants, instant = millis) :
    Uniform style millis (start (Memo.ofStyle style policy seed) instants) where
  style_eq := rfl
  millis_eq := by
    intro call hcall
    obtain ⟨instant, hinstant, rfl⟩ := List.mem_map.mp hcall
    exact hinstants instant hinstant
  slot := by
    by_cases hseed : seed = millis
    · exact .inl (hseed ▸ rfl)
    · exact .inr ⟨rfl, hseed⟩
  agrees := by
    intro call hcall
    obtain ⟨instant, -, rfl⟩ := List.mem_map.mp hcall
    trivial

section Moves

variable {style : Style} {millis : Int} {race shared : Race} {caller : Nat} {call next : Call}

-- The slot stays as it is, or comes to hold the text of the instant.
theorem Uniform.move_slot (huniform : Uniform style millis race) (hcall : call ∈ race.calls)
    (hmove : Move race caller call shared next) :
    shared.slot = race.slot ∨ shared.slot.entry = style.entry millis := by
  have hagrees := huniform.agrees call hcall
  cases hmove with
  | win first own hphase hslot =>
      simp only [Call.Agrees, hphase] at hagrees
      exact .inr (huniform.millis_eq call hcall ▸ hagrees.2)
  | _ => exact .inl rfl

theorem Uniform.move_agrees (huniform : Uniform style millis race) (hcall : call ∈ race.calls)
    (hmove : Move race caller call shared next) : next.Agrees style shared.slot := by
  have hagrees := huniform.agrees call hcall
  obtain rfl := huniform.millis_eq call hcall
  cases hmove with
  | pin hphase => trivial
  | load hphase =>
      rcases huniform.slot with hsettled | hseed
      · exact .inl ⟨hsettled, hsettled⟩
      · exact .inr hseed
  | hit first hphase hmillis =>
      simp only [Call.Agrees, hphase] at hagrees
      rcases hagrees with hsettled | ⟨-, hother⟩
      · exact hsettled
      · exact absurd hmillis hother
  | write first hphase hmillis =>
      simp only [Call.Agrees, hphase] at hagrees
      rcases hagrees with ⟨hentry, -⟩ | ⟨hseed, -⟩
      · exact absurd (congrArg Entry.millis hentry) hmillis
      · exact ⟨hseed, congrArg (Style.entry · call.millis) huniform.style_eq⟩
  | win first own hphase hslot =>
      simp only [Call.Agrees, hphase] at hagrees
      exact ⟨hagrees.2, hagrees.2⟩
  | keep first own hphase hslot hpolicy =>
      simp only [Call.Agrees, hphase] at hagrees
      rcases huniform.slot with hsettled | ⟨hseed, -⟩
      · exact ⟨hagrees.2, hsettled⟩
      · exact absurd (hseed.trans hagrees.1.symm) hslot
  | lose first own hphase hslot hpolicy =>
      -- the slot has lost its seed, and every call installs the same text
      simp only [Call.Agrees, hphase] at hagrees
      rcases huniform.slot with hsettled | ⟨hseed, -⟩
      · exact hsettled
      · exact absurd (hseed.trans hagrees.1.symm) hslot
  | retire first own hphase =>
      simp only [Call.Agrees, hphase] at hagrees
      exact hagrees
  | reload first own hphase =>
      simp only [Call.Agrees, hphase] at hagrees
      exact ⟨hagrees, hagrees⟩
  | unpin first source hphase =>
      simp only [Call.Agrees, hphase] at hagrees
      exact hagrees

theorem Uniform.move (huniform : Uniform style millis race)
    (hcall : race.calls[caller]? = some call) (hmove : Move race caller call shared next) :
    Uniform style millis (shared.update caller next) := by
  have hmem := List.mem_of_getElem? hcall
  have hslot := huniform.move_slot hmem hmove
  have hnext := huniform.move_agrees hmem hmove
  refine { style_eq := hmove.style_eq.trans huniform.style_eq, millis_eq := ?_, slot := ?_
           agrees := ?_ }
  · intro other hother
    rcases hmove.mem_calls hother with hother | rfl
    · exact huniform.millis_eq other hother
    · exact hmove.millis_eq.trans (huniform.millis_eq call hmem)
  · rcases hslot with hsame | hsettled
    · exact hsame ▸ huniform.slot
    · exact .inl hsettled
  · intro other hother
    rcases hmove.mem_calls hother with hother | rfl
    · have hagrees := huniform.agrees other hother
      rcases hslot with hsame | hsettled
      · exact hsame ▸ hagrees
      · exact hagrees.settle (huniform.millis_eq other hother ▸ hsettled)
    · exact hnext

end Moves

theorem uniform_run (style : Style) (policy : Policy) (seed millis : Int) (instants : List Int)
    (hinstants : ∀ instant ∈ instants, instant = millis) (schedule : List Nat) :
    Uniform style millis ((start (Memo.ofStyle style policy seed) instants).run schedule) :=
  run_invariant (fun _ _ _ _ _ huniform hcall hmove => huniform.move hcall hmove) _
    (uniform_start style policy seed millis instants hinstants) schedule

theorem Uniform.answer?_eq {style : Style} {millis : Int} {race : Race}
    (huniform : Uniform style millis race) {call : Call} (hcall : call ∈ race.calls)
    {first source : Cell} (hphase : call.phase = .finished first source) :
    call.answer? = some (style.write millis) ∧ race.slot.entry = style.entry millis := by
  have hagrees := huniform.agrees call hcall
  simp only [Call.Agrees, hphase, huniform.millis_eq call hcall] at hagrees
  refine ⟨?_, hagrees.2⟩
  simp only [Call.answer?, hphase, hagrees.1, Style.entry]

-- Calls that have all finished leave the text of their instant behind, if there are any.
theorem Uniform.slot_eq {style : Style} {millis : Int} {race : Race}
    (huniform : Uniform style millis race) (hover : race.Over) (hcalls : 0 < race.calls.length) :
    race.slot.entry = style.entry millis := by
  obtain ⟨call, hcall⟩ := List.exists_mem_of_length_pos hcalls
  obtain ⟨first, source, hphase⟩ := hover call hcall
  exact (huniform.answer?_eq hcall hphase).2

-- Threads that have all finished, in whatever order they took their steps, agree on the text.
theorem agreed_run (style : Style) (policy : Policy) (seed millis : Int) (threads : Nat)
    (hthreads : 0 < threads) (schedule : List Nat)
    (hdone : ∀ caller < threads, 6 ≤ schedule.count caller) :
    let race := (start (Memo.ofStyle style policy seed) (List.replicate threads millis)).run
      schedule
    agreed millis (race.calls.filterMap Call.answer?) = .ok (style.write millis) ∧
      race.slot.entry = style.entry millis := by
  intro race
  have huniform : Uniform style millis race :=
    uniform_run style policy seed millis _ (fun _ => List.eq_of_mem_replicate) schedule
  have hlength : race.calls.length = threads := by
    rw [length_calls_run, start, List.length_map, List.length_replicate]
  have hover : race.Over := over_run _ _ schedule (by simpa using hdone)
  have hanswers : ∀ call ∈ race.calls, call.answer? = some (style.write millis) := by
    intro call hcall
    obtain ⟨first, source, hphase⟩ := hover call hcall
    exact (huniform.answer?_eq hcall hphase).1
  have htexts : race.calls.filterMap Call.answer? =
      List.replicate threads (style.write millis) := by
    rw [List.filterMap_congr hanswers, List.filterMap_eq_map', List.map_const', hlength]
  refine ⟨?_, huniform.slot_eq hover (hlength ▸ hthreads)⟩
  rw [htexts, agreed_replicate millis _ threads hthreads]

end Race

end EventTime
