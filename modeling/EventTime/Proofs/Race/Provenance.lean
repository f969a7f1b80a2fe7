import EventTime.Proofs.Race.Agreement
import EventTime.Proofs.Race.Cells
import EventTime.Proofs.Race.Exact
import Mathlib.Data.List.Induction

-- Where the answers of calls come from that look for what is installed.
namespace EventTime

namespace Phase

-- The cell whose text a call answers with.
def source? : Phase → Option Cell
  | answered _ source => some source
  | finished _ source => some source
  | _ => none

-- The swap of the call has succeeded.
def HasWon : Phase → Prop
  | won _ _ => True
  | answered _ _ => True
  | finished _ _ => True
  | _ => False

end Phase

namespace Race

theorem run_append (race : Race) (before after : List Nat) :
    race.run (before ++ after) = (race.run before).run after := List.foldl_append

theorem run_concat (race : Race) (schedule : List Nat) (mover : Nat) :
    race.run (schedule ++ [mover]) = (race.run schedule).step mover := race.run_append schedule _

-- A call stands where it stood before a step, or the step was its own.
theorem getElem?_step (race : Race) (mover caller : Nat) (next : Call)
    (hnext : (race.step mover).calls[caller]? = some next) :
    race.calls[caller]? = some next ∨
      mover = caller ∧ ∃ call shared, race.calls[caller]? = some call ∧
        Move race caller call shared next := by
  rcases race.step_cases mover with hsame | ⟨call, shared, moved, hcall, hmove, hstep⟩
  · exact .inl (hsame ▸ hnext)
  · rw [hstep, hmove.getElem?_update hcall] at hnext
    split at hnext
    · rename_i hself
      obtain rfl := Option.some.inj hnext
      subst hself
      exact .inr ⟨rfl, call, shared, hcall, hmove⟩
    · exact .inl hnext

-- The next step of a call loads that cell, before its swap.
def Loads (race : Race) (caller : Nat) (cell : Cell) : Prop :=
  ∃ call, race.calls[caller]? = some call ∧ call.phase = .pinned ∧ race.slot = cell

-- The next step of a call puts that cell into the slot.
def Installs (race : Race) (caller : Nat) (cell : Cell) : Prop :=
  ∃ call first, race.calls[caller]? = some call ∧ call.phase = .prepared first cell ∧
    race.slot.id = first.id

-- The next step of a call loads that cell again, as its swap has failed.
def Reloads (race : Race) (caller : Nat) (cell : Cell) : Prop :=
  ∃ call first own, race.calls[caller]? = some call ∧ call.phase = .lost first own ∧
    race.slot = cell

-- A step of the caller in the schedule is of that kind and about that cell.
def Took (race : Race) (schedule : List Nat) (caller : Nat)
    (kind : Race → Nat → Cell → Prop) (cell : Cell) : Prop :=
  ∃ before after, schedule = before ++ [caller] ++ after ∧ kind (race.run before) caller cell

-- Between the two loads of a call, another call puts the cell into the slot that the second
-- load finds there.
def Adopts (race : Race) (schedule : List Nat) (caller : Nat) (first source : Cell)
    (other : Nat) : Prop :=
  other ≠ caller ∧ ∃ before between after rest,
    schedule = before ++ [caller] ++ between ++ [other] ++ after ++ [caller] ++ rest ∧
    (race.run before).Loads caller first ∧
    (race.run (before ++ [caller] ++ between)).Installs other source ∧
    (race.run (before ++ [caller] ++ between ++ [other] ++ after)).Reloads caller source

-- What the answer of a call goes back to: the cell that it has loaded, the cell that it has
-- installed itself, or the cell of another call.
inductive Origin (race : Race) (style : Style) (schedule : List Nat) (caller : Nat)
    (millis : Int) (first source : Cell) : Prop where
  | loaded (hsource : source = first) (hentry : source.entry = style.entry millis)
  | own (htook : race.Took schedule caller Installs source)
  | adopted (other : Nat) (hadopts : race.Adopts schedule caller first source other)

theorem Took.append {race : Race} {schedule : List Nat} {caller : Nat}
    {kind : Race → Nat → Cell → Prop} {cell : Cell} (htook : race.Took schedule caller kind cell)
    (later : List Nat) : race.Took (schedule ++ later) caller kind cell := by
  obtain ⟨before, after, hschedule, hkind⟩ := htook
  refine ⟨before, after ++ later, ?_, hkind⟩
  rw [hschedule, List.append_assoc _ after later]

theorem took_concat {race : Race} {schedule : List Nat} {caller : Nat}
    {kind : Race → Nat → Cell → Prop} {cell : Cell}
    (hkind : kind (race.run schedule) caller cell) :
    race.Took (schedule ++ [caller]) caller kind cell :=
  ⟨schedule, [], (List.append_nil _).symm, hkind⟩

theorem Adopts.append {race : Race} {schedule : List Nat} {caller other : Nat}
    {first source : Cell} (hadopts : race.Adopts schedule caller first source other)
    (later : List Nat) : race.Adopts (schedule ++ later) caller first source other := by
  obtain ⟨hne, before, between, after, rest, hschedule, hsteps⟩ := hadopts
  refine ⟨hne, before, between, after, rest ++ later, ?_, hsteps⟩
  rw [hschedule, List.append_assoc _ rest later]

theorem Origin.append {race : Race} {style : Style} {schedule : List Nat} {caller : Nat}
    {millis : Int} {first source : Cell}
    (horigin : race.Origin style schedule caller millis first source) (later : List Nat) :
    race.Origin style (schedule ++ later) caller millis first source := by
  cases horigin with
  | loaded hsource hentry => exact .loaded hsource hentry
  | own htook => exact .own (htook.append later)
  | adopted other hadopts => exact .adopted other (hadopts.append later)

section Steps

variable {race : Race} {caller : Nat} {cell : Cell}

theorem Loads.slot_step (hloads : race.Loads caller cell) : (race.step caller).slot = cell := by
  obtain ⟨call, hcall, hphase, hslot⟩ := hloads
  simp only [step, hcall, advance, hphase, update]
  exact hslot

theorem Installs.slot_step (hinstalls : race.Installs caller cell) :
    (race.step caller).slot = cell := by
  obtain ⟨call, first, hcall, hphase, hslot⟩ := hinstalls
  simp only [step, hcall, advance, hphase, swap, if_pos hslot, update]

theorem Installs.hasWon_step (hinstalls : race.Installs caller cell) :
    ∃ next, (race.step caller).calls[caller]? = some next ∧ next.phase.HasWon := by
  obtain ⟨call, first, hcall, hphase, hslot⟩ := hinstalls
  have hmove : Move race caller call _ _ := .win first cell hphase hslot
  refine ⟨call.swap.enter (.won first cell), ?_, trivial⟩
  simp only [step, hcall, advance, hphase, swap, if_pos hslot]
  rw [hmove.getElem?_update hcall, if_pos rfl]

-- What is installed has never been in the slot before.
theorem Installs.id_ne (hinstalls : race.Installs caller cell) (hdistinct : race.Distinct)
    {old : Cell} (hold : old ∈ race.installed) : cell.id ≠ old.id := by
  obtain ⟨call, first, hcall, hphase, -⟩ := hinstalls
  have hnew := hdistinct.own_new caller call cell hcall (by rw [hphase]; rfl)
  intro hid
  exact hnew (hid ▸ List.mem_map_of_mem hold)

theorem mem_installed_run (hcell : cell ∈ race.installed) (schedule : List Nat) :
    cell ∈ (race.run schedule).installed :=
  @run_invariant (fun race => cell ∈ race.installed)
    (fun _ _ _ _ _ hmem _ hmove => hmove.mem_installed hmem) race hcell schedule

-- A call that has won stays one that has won.
theorem hasWon_run (race : Race) (schedule : List Nat) (caller : Nat)
    (hwon : ∃ call, race.calls[caller]? = some call ∧ call.phase.HasWon) :
    ∃ call, (race.run schedule).calls[caller]? = some call ∧ call.phase.HasWon := by
  refine @run_invariant (fun race =>
    ∃ call, race.calls[caller]? = some call ∧ call.phase.HasWon) ?_ race hwon schedule
  rintro race mover call shared next ⟨mine, hmine, hhasWon⟩ hcall hmove
  by_cases hself : mover = caller
  · subst hself
    obtain rfl := Option.some.inj (hcall.symm.trans hmine)
    refine ⟨next, by rw [hmove.getElem?_update hcall, if_pos rfl], ?_⟩
    cases hmove <;> simp_all [Phase.HasWon, Call.enter]
  · exact ⟨mine, by rw [hmove.getElem?_update hcall, if_neg hself, hmine], hhasWon⟩

theorem installs_of_slot_ne (hchanged : (race.step caller).slot ≠ race.slot) :
    race.Installs caller (race.step caller).slot := by
  rcases race.step_cases caller with hsame | ⟨call, shared, next, hcall, hmove, hstep⟩
  · exact absurd (congrArg slot hsame) hchanged
  · rw [hstep] at hchanged ⊢
    rcases hmove.installed_cases with ⟨-, hslot⟩ | ⟨first, own, hphase, hslot, hown, -⟩
    · exact absurd hslot hchanged
    · refine ⟨call, first, hcall, ?_, hslot⟩
      rw [hphase, ← hown]
      rfl

-- Where the slot changes over a schedule, one of its steps has installed what is there last.
theorem exists_took_installs (race : Race) (schedule : List Nat)
    (hchanged : (race.run schedule).slot ≠ race.slot) :
    ∃ mover, race.Took schedule mover Installs (race.run schedule).slot := by
  induction schedule using List.reverseRecOn with
  | nil => exact absurd rfl hchanged
  | append_singleton schedule mover ih =>
      rw [run_concat] at hchanged ⊢
      by_cases hslot : ((race.run schedule).step mover).slot = (race.run schedule).slot
      · rw [hslot] at hchanged ⊢
        obtain ⟨earlier, htook⟩ := ih hchanged
        exact ⟨earlier, htook.append [mover]⟩
      · exact ⟨mover, took_concat (installs_of_slot_ne hslot)⟩

end Steps

-- What a schedule tells of a call that has come to its phase.
structure Traced (race : Race) (style : Style) (schedule : List Nat) : Prop where
  loads : ∀ (caller : Nat) (call : Call) (first : Cell),
    (race.run schedule).calls[caller]? = some call → call.phase.first? = some first →
    race.Took schedule caller Loads first
  installs : ∀ (caller : Nat) (call : Call) (first own : Cell),
    (race.run schedule).calls[caller]? = some call → call.phase = .won first own →
    race.Took schedule caller Installs own
  answers : ∀ (caller : Nat) (call : Call) (first source : Cell),
    (race.run schedule).calls[caller]? = some call → call.phase.first? = some first →
    call.phase.source? = some source →
    race.Origin style schedule caller call.millis first source

section Tracing

variable {race : Race} {style : Style} {seed : Int} {instants : List Int}
variable {schedule : List Nat} {caller : Nat} {call : Call}

-- A call that has lost finds a cell that another call has installed since it loaded its own.
theorem exists_adopts (hdistinct : (race.run schedule).Distinct) {first own : Cell}
    (hloads : race.Took schedule caller Loads first)
    (hcall : (race.run schedule).calls[caller]? = some call)
    (hphase : call.phase = .lost first own) :
    ∃ other,
      race.Adopts (schedule ++ [caller]) caller first (race.run schedule).slot other := by
  obtain ⟨before, after, hschedule, hloads⟩ := hloads
  have hloaded : (race.run (before ++ [caller])).slot = first := by
    rw [run_concat, hloads.slot_step]
  have hreplaced := hdistinct.lost_mem caller call first own hcall hphase
  have hchanged : ((race.run (before ++ [caller])).run after).slot ≠
      (race.run (before ++ [caller])).slot := by
    rw [← run_append, ← hschedule, hloaded]
    exact fun hslot => hdistinct.slot_id_ne hreplaced (congrArg Cell.id hslot)
  obtain ⟨other, between, later, hafter, hinstalls⟩ := exists_took_installs _ after hchanged
  rw [← run_append, ← run_append, ← hschedule] at hinstalls
  have hsplit : schedule = before ++ [caller] ++ between ++ [other] ++ later := by
    rw [hschedule, hafter]
    simp only [List.append_assoc]
  refine ⟨other, ?_, before, between, later, [], ?_, hloads, hinstalls, ?_⟩
  · -- a call that has won goes on to its end and never loses
    rintro rfl
    obtain ⟨last, hlast, hwon⟩ := hasWon_run _ later other hinstalls.hasWon_step
    rw [← run_concat, ← run_append, ← hsplit, hcall] at hlast
    obtain rfl := Option.some.inj hlast
    rw [hphase] at hwon
    exact hwon
  · rw [hsplit, List.append_nil]
  · rw [← hsplit]
    exact ⟨call, first, own, hcall, hphase, rfl⟩

theorem traced_start (memo : Memo) (style : Style) (instants : List Int) :
    (start memo instants).Traced style [] := by
  have hwaiting : ∀ (caller : Nat) (call : Call),
      ((start memo instants).run []).calls[caller]? = some call → call.phase = .waiting := by
    intro caller call hcall
    obtain ⟨millis, -, rfl⟩ := List.mem_map.mp (List.mem_of_getElem? hcall)
    rfl
  refine { loads := ?_, installs := ?_, answers := ?_ }
  · intro caller call first hcall hfirst
    simp [hwaiting caller call hcall, Phase.first?] at hfirst
  · intro caller call first own hcall hphase
    simp [hwaiting caller call hcall] at hphase
  · intro caller call first source hcall hfirst
    simp [hwaiting caller call hcall, Phase.first?] at hfirst

theorem Traced.loads_concat (htraced : race.Traced style schedule) (mover : Nat)
    {first : Cell} (hcall : (race.run (schedule ++ [mover])).calls[caller]? = some call)
    (hfirst : call.phase.first? = some first) :
    race.Took (schedule ++ [mover]) caller Loads first := by
  rw [run_concat] at hcall
  rcases getElem?_step _ _ _ _ hcall with hsame | ⟨rfl, earlier, shared, hearlier, hmove⟩
  · exact (htraced.loads caller call first hsame hfirst).append [mover]
  · rcases hmove.first?_next hfirst with ⟨hphase, hslot⟩ | hbefore
    · exact took_concat ⟨earlier, hearlier, hphase, hslot.symm⟩
    · exact (htraced.loads mover earlier first hearlier hbefore).append [mover]

theorem Traced.installs_concat (htraced : race.Traced style schedule) (mover : Nat)
    {first own : Cell} (hcall : (race.run (schedule ++ [mover])).calls[caller]? = some call)
    (hphase : call.phase = .won first own) :
    race.Took (schedule ++ [mover]) caller Installs own := by
  rw [run_concat] at hcall
  rcases getElem?_step _ _ _ _ hcall with hsame | ⟨rfl, earlier, shared, hearlier, hmove⟩
  · exact (htraced.installs caller call first own hsame hphase).append [mover]
  · cases hmove with
    | win mine theirs hprepared hslot =>
        cases hphase
        exact took_concat ⟨earlier, first, hearlier, hprepared, hslot⟩
    | _ => cases hphase

-- Only a call that has lost answers with the cell of another call.
theorem Traced.answers_concat (htraced : race.Traced style schedule)
    (hexact : Exact style .installed seed instants (race.run schedule))
    (hdistinct : (race.run schedule).Distinct) (mover : Nat) {first source : Cell}
    (hcall : (race.run (schedule ++ [mover])).calls[caller]? = some call)
    (hfirst : call.phase.first? = some first) (hsource : call.phase.source? = some source) :
    race.Origin style (schedule ++ [mover]) caller call.millis first source := by
  rw [run_concat] at hcall
  rcases getElem?_step _ _ _ _ hcall with hsame | ⟨rfl, earlier, shared, hearlier, hmove⟩
  · exact (htraced.answers caller call first source hsame hfirst hsource).append [mover]
  · have hearlierExact := hexact.calls earlier (List.mem_of_getElem? hearlier)
    cases hmove with
    | hit loaded hphase hmillis =>
        cases hfirst
        cases hsource
        simp only [Call.Exact, hphase] at hearlierExact
        refine .loaded rfl ?_
        rw [hearlierExact, hmillis]
        rfl
    | keep _ _ _ _ hpolicy => cases hexact.policy_eq.symm.trans hpolicy
    | retire loaded own hphase =>
        cases hsource
        exact .own ((htraced.installs mover earlier loaded source hearlier hphase).append [mover])
    | reload loaded own hphase =>
        cases hfirst
        cases hsource
        have hloads := htraced.loads mover earlier first hearlier (by rw [hphase]; rfl)
        obtain ⟨other, hadopts⟩ := exists_adopts hdistinct hloads hearlier hphase
        exact .adopted other hadopts
    | unpin loaded answer hphase =>
        cases hfirst
        cases hsource
        have horigin := htraced.answers mover earlier first source hearlier
          (by rw [hphase]; rfl) (by rw [hphase]; rfl)
        exact horigin.append [mover]
    | _ => cases hsource

end Tracing

theorem traced_run (style : Style) (seed : Int) (instants : List Int) (schedule : List Nat) :
    (start (Memo.ofStyle style .installed seed) instants).Traced style schedule := by
  induction schedule using List.reverseRecOn with
  | nil => exact traced_start _ style instants
  | append_singleton schedule mover ih =>
      have hexact := exact_run style .installed seed instants schedule
      have hdistinct := distinct_run (Memo.ofStyle style .installed seed) instants schedule
      exact
        { loads := fun _ _ _ hcall => ih.loads_concat mover hcall
          installs := fun _ _ _ _ hcall => ih.installs_concat mover hcall
          answers := fun _ _ _ _ hcall => ih.answers_concat hexact hdistinct mover hcall }

section Sources

variable {race : Race} {style : Style} {policy : Policy} {seed : Int} {instants : List Int}
variable {schedule : List Nat} {caller other : Nat} {call : Call} {first source : Cell}

theorem Exact.getElem?_instants (hexact : Exact style policy seed instants race)
    (hcall : race.calls[caller]? = some call) : instants[caller]? = some call.millis := by
  rw [← hexact.instants_eq, List.getElem?_map, hcall, Option.map_some]

-- What a call installs is the text of its own instant.
theorem Installs.exists_entry_eq (hinstalls : race.Installs caller source)
    (hexact : Exact style policy seed instants race) :
    ∃ millis, instants[caller]? = some millis ∧ source.entry = style.entry millis := by
  obtain ⟨call, first, hcall, hphase, -⟩ := hinstalls
  have hentry := hexact.calls call (List.mem_of_getElem? hcall)
  simp only [Call.Exact, hphase] at hentry
  exact ⟨call.millis, hexact.getElem?_instants hcall, hentry⟩

theorem Adopts.exists_entry_eq
    (hadopts : (start (Memo.ofStyle style policy seed) instants).Adopts schedule caller first
      source other) :
    ∃ millis, instants[other]? = some millis ∧ source.entry = style.entry millis := by
  obtain ⟨-, before, between, after, rest, -, -, hinstalls, -⟩ := hadopts
  exact hinstalls.exists_entry_eq (exact_run style policy seed instants _)

-- The cell that is adopted is new since the first load.
theorem Adopts.id_ne {memo : Memo}
    (hadopts : (start memo instants).Adopts schedule caller first source other) :
    source.id ≠ first.id ∧ source.id ≠ (start memo instants).slot.id := by
  obtain ⟨-, before, between, after, rest, -, ⟨call, -, -, hfirst⟩, hinstalls, -⟩ := hadopts
  have hdistinct := distinct_run memo instants (before ++ [caller] ++ between)
  refine ⟨hinstalls.id_ne hdistinct ?_, hinstalls.id_ne hdistinct ?_⟩
  · rw [List.append_assoc, run_append]
    exact mem_installed_run (hfirst ▸ slot_mem_installed _) _
  · exact mem_installed_run (slot_mem_installed _) _

end Sources

-- Under every schedule, a call that looks for what is installed answers for its own instant, with
-- the cell that it has loaded, where that is of this instant, or that it has installed itself, or
-- else with a cell that another call has installed since, and that is neither the one that it
-- loaded first nor the seed.
-- Calls for a single instant all answer with its text under both policies, and leave it in the
-- slot.
theorem run_provenance (style : Style) (seed : Int) (instants : List Int) (schedule : List Nat) :
    let race := start (Memo.ofStyle style .installed seed) instants
    (∀ caller millis, instants[caller]? = some millis →
      ∀ call first source, (race.run schedule).calls[caller]? = some call →
        call.phase = .finished first source →
        (source = first ∧ first.entry.millis = millis ∨
            race.Took schedule caller Installs source) ∧
          call.answer? = some (style.write millis) ∨
        ∃ other adopted, race.Adopts schedule caller first source other ∧
          instants[other]? = some adopted ∧ call.answer? = some (style.write adopted) ∧
          source.id ≠ first.id ∧ source.id ≠ race.slot.id) ∧
    ∀ policy millis, instants ≠ [] → (∀ instant ∈ instants, instant = millis) →
      let shared := (start (Memo.ofStyle style policy seed) instants).run schedule
      (∀ call ∈ shared.calls, ∀ first source, call.phase = .finished first source →
        call.answer? = some (style.write millis)) ∧
      ((∀ call ∈ shared.calls, ∃ first source, call.phase = .finished first source) →
        shared.slot.entry = style.entry millis) ∧
      ∀ caller < instants.length, 6 ≤ schedule.count caller →
        ∃ call, shared.calls[caller]? = some call ∧
          call.answer? = some (style.write millis) := by
  intro race
  refine ⟨?_, ?_⟩
  · intro caller millis hmillis call first source hcall hphase
    have hexact := exact_run style .installed seed instants schedule
    obtain rfl := Option.some.inj ((hexact.getElem?_instants hcall).symm.trans hmillis)
    have hanswer : call.answer? = some source.entry.text := by simp only [Call.answer?, hphase]
    have horigin := (traced_run style seed instants schedule).answers caller call first source
      hcall (by rw [hphase]; rfl) (by rw [hphase]; rfl)
    cases horigin with
    | loaded hsource hentry =>
        refine .inl ⟨.inl ⟨hsource, ?_⟩, ?_⟩
        · rw [← hsource, hentry]
          rfl
        · rw [hanswer, hentry]
          rfl
    | own htook =>
        obtain ⟨before, after, -, hinstalls⟩ := id htook
        obtain ⟨own, hown, hentry⟩ :=
          hinstalls.exists_entry_eq (exact_run style .installed seed instants before)
        obtain rfl := Option.some.inj (hmillis.symm.trans hown)
        refine .inl ⟨.inr htook, ?_⟩
        rw [hanswer, hentry]
        rfl
    | adopted other hadopts =>
        obtain ⟨adopted, hadopted, hentry⟩ := hadopts.exists_entry_eq
        refine .inr ⟨other, adopted, hadopts, hadopted, ?_, hadopts.id_ne⟩
        rw [hanswer, hentry]
        rfl
  · intro policy millis hne hinstants shared
    have huniform : Uniform style millis shared :=
      uniform_run style policy seed millis instants hinstants schedule
    refine ⟨fun call hcall first source hphase => (huniform.answer?_eq hcall hphase).1, ?_, ?_⟩
    · intro hfinished
      have hlength : shared.calls.length = instants.length := by
        rw [length_calls_run, start, List.length_map]
      have hpos : 0 < shared.calls.length := hlength ▸ List.length_pos_of_ne_nil hne
      obtain ⟨call, hcall⟩ := List.exists_mem_of_length_pos hpos
      obtain ⟨first, source, hphase⟩ := hfinished call hcall
      exact (huniform.answer?_eq hcall hphase).2
    · intro caller hcaller hsteps
      obtain ⟨call, first, source, hcall, hphase⟩ :=
        finished_run _ instants schedule caller hcaller hsteps
      exact ⟨call, hcall, (huniform.answer?_eq (List.mem_of_getElem? hcall) hphase).1⟩

-- The first call loses to the second, and adopts what the third has installed by then.
-- In calls for one instant, the one that loses answers as the one that wins.
theorem run_provenance_replaced_twice :
    let race := start (Memo.ofStyle .epochMillis .installed 0) [10, 20, 30]
    let schedule := [0, 0, 0, 1, 1, 1, 1, 0, 2, 2, 2, 2, 0, 0]
    (∃ call first source other, (race.run schedule).calls[0]? = some call ∧
      race.Adopts schedule 0 first source other ∧ call.answer? = some "30" ∧
      source.id ≠ first.id) ∧
    let shared := start (Memo.ofStyle .epochMillis .installed 0) [7, 7]
    let turns := [0, 1, 0, 1, 0, 1, 0, 1, 0, 1, 0, 1]
    ∃ call, (shared.run turns).calls[1]? = some call ∧ call.answer? = some "7" := by
  intro race schedule
  refine ⟨?_, ?_⟩
  · obtain ⟨call, first, source, hcall, hphase⟩ :=
      finished_run (Memo.ofStyle .epochMillis .installed 0) [10, 20, 30] schedule 0 (by decide)
        (by decide)
    have hthirty : (race.run schedule).calls[0]?.bind Call.answer? = some "30" := by
      decide +kernel
    have hanswer : call.answer? = some "30" := by
      rw [hcall] at hthirty
      exact hthirty
    obtain ⟨horigin, -⟩ := run_provenance .epochMillis 0 [10, 20, 30] schedule
    rcases horigin 0 10 rfl call first source hcall hphase with
      ⟨-, hten⟩ | ⟨other, adopted, hadopts, -, -, hne, -⟩
    · exact absurd (hanswer.symm.trans hten) (by decide +kernel)
    · exact ⟨call, first, source, other, hcall, hadopts, hanswer, hne⟩
  · intro shared turns
    obtain ⟨-, huniform⟩ := run_provenance .epochMillis 0 [7, 7] turns
    obtain ⟨-, -, hdone⟩ := huniform .installed 7 (by decide) (by decide)
    obtain ⟨call, hcall, hanswer⟩ := hdone 1 (by decide) (by decide)
    refine ⟨call, hcall, ?_⟩
    rw [hanswer]
    decide +kernel

end Race

end EventTime
