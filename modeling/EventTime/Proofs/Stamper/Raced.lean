import EventTime.Proofs.Race.Agreement
import EventTime.Stamper.Run

-- Runs whose threads race for the memo at each instant show no trace of the races.
namespace EventTime.Stamper

-- The text that threads agree on when their calls take their steps in the order of a schedule.
-- At least one thread is there to answer.
def raced (stamper : Stamper) (threads : Nat) (schedule : List Nat) (millis : Int) :
    Stamper × Except Failure String :=
  let race := (Race.start stamper.memo (List.replicate (max threads 1) millis)).run schedule
  (⟨{ stamper.memo with entry := race.slot.entry }⟩,
    agreed millis (race.calls.filterMap Call.answer?))

-- A run whose threads race for its first input in the first order, and so on.
def runRaced (stamper : Stamper) (threads : Nat) (orders : Nat → List Nat) (clock : Int)
    (out : String) : List Input → Stamper × String × Option Failure
  | [] => (stamper, out, none)
  | .error failure :: _ => (stamper, out, some failure)
  | .ok timestamp :: rest =>
    match stamper.raced threads (orders 0) (timestamp.millis clock) with
    | (stamper, .error failure) => (stamper, out, some failure)
    | (stamper, .ok text) =>
      stamper.runRaced threads (fun turn => orders (turn + 1)) clock (out ++ text ++ "\n") rest

-- An order in which all threads finish. No call takes more than six steps.
def Joins (threads : Nat) (schedule : List Nat) : Prop :=
  ∀ caller < max threads 1, 6 ≤ schedule.count caller

instance (threads : Nat) (schedule : List Nat) : Decidable (Joins threads schedule) :=
  inferInstanceAs (Decidable (∀ caller < max threads 1, 6 ≤ schedule.count caller))

theorem raced_of_sound (stamper : Stamper) (hsound : stamper.memo.Sound) (threads : Nat)
    (schedule : List Nat) (hjoins : Joins threads schedule) (millis : Int) :
    stamper.raced threads schedule millis = stamper.shared millis threads := by
  have hmemo : Memo.ofStyle stamper.memo.style stamper.memo.policy stamper.memo.entry.millis =
      stamper.memo := hsound.remembering_millis
  obtain ⟨htext, hentry⟩ := Race.agreed_run stamper.memo.style stamper.memo.policy
    stamper.memo.entry.millis millis (max threads 1) (by omega) schedule hjoins
  rw [hmemo] at htext hentry
  rw [stamper.shared_of_sound hsound]
  simp only [raced, htext, hentry, Memo.remembering]

-- Whatever the orders, a raced run does what the run does whose threads take turns.
theorem runRaced_of_sound (stamper : Stamper) (hsound : stamper.memo.Sound) (threads : Nat)
    (orders : Nat → List Nat) (horders : ∀ turn, Joins threads (orders turn)) (clock : Int)
    (out : String) (inputs : List Input) :
    stamper.runRaced threads orders clock out inputs = stamper.run threads clock out inputs := by
  induction inputs generalizing stamper orders out with
  | nil => rfl
  | cons input rest ih =>
      cases input with
      | error failure => rfl
      | ok timestamp =>
          simp only [runRaced, run, stamper.raced_of_sound hsound threads _ (horders 0),
            stamper.shared_of_sound hsound]
          exact ih _ (Memo.sound_remembering _ _) _ (fun turn => horders (turn + 1)) _

end EventTime.Stamper
