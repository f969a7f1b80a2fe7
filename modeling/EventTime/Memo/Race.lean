import EventTime.Memo.Basic

namespace EventTime

-- An entry in memory. Cells with equal entries are told apart by their ids.
structure Cell where
  id : Nat
  entry : Entry
  deriving DecidableEq, Repr

-- How far a call has come. From its pin until it has finished it may look at cells.
inductive Phase where
  | waiting
  | pinned
  | loaded (first : Cell)
  | prepared (first own : Cell)
  | won (first own : Cell)
  | lost (first own : Cell)
  | answered (first source : Cell)
  | finished (first source : Cell)
  deriving DecidableEq, Repr

-- What a call has done so far: loads of the slot, texts written, and swaps tried.
structure Effort where
  loads : Nat
  writes : Nat
  swaps : Nat
  deriving DecidableEq, Repr

def Effort.none : Effort := ⟨0, 0, 0⟩

-- A call for the text of an instant.
-- `since` counts the cells that had been replaced when the call pinned its guard.
structure Call where
  millis : Int
  since : Nat
  effort : Effort
  phase : Phase
  deriving DecidableEq, Repr

namespace Call

def start (millis : Int) : Call := ⟨millis, 0, .none, .waiting⟩

def enter (call : Call) (phase : Phase) : Call := { call with phase }

def load (call : Call) : Call :=
  { call with effort := { call.effort with loads := call.effort.loads + 1 } }

def write (call : Call) : Call :=
  { call with effort := { call.effort with writes := call.effort.writes + 1 } }

def swap (call : Call) : Call :=
  { call with effort := { call.effort with swaps := call.effort.swaps + 1 } }

-- The text that a finished call has appended.
def answer? (call : Call) : Option String :=
  match call.phase with
  | .finished _ source => some source.entry.text
  | _ => none

end Call

-- Calls that share one memo and take their steps in any order.
-- Replaced and retired cells stand beside the number of the call that did it, the last first.
structure Race where
  style : Style
  policy : Policy
  slot : Cell
  nextId : Nat
  replaced : List (Cell × Nat)
  retired : List (Cell × Nat)
  calls : List Call
  deriving DecidableEq, Repr

namespace Race

-- No call has begun, and the seed of the memo is the only cell.
def start (memo : Memo) (instants : List Int) : Race :=
  { style := memo.style
    policy := memo.policy
    slot := ⟨0, memo.entry⟩
    nextId := 1
    replaced := []
    retired := []
    calls := instants.map Call.start }

def update (race : Race) (caller : Nat) (call : Call) : Race :=
  { race with calls := race.calls.set caller call }

-- The swap of a call that has prepared a cell of its own.
-- It succeeds if the slot holds the very cell that was loaded.
def swap (race : Race) (caller : Nat) (call : Call) (first own : Cell) : Race :=
  if race.slot.id = first.id then
    { race with slot := own, replaced := (race.slot, caller) :: race.replaced }.update caller
      (call.swap.enter (.won first own))
  else
    match race.policy with
    | .own => race.update caller (call.swap.enter (.answered first own))
    | .installed => race.update caller (call.swap.enter (.lost first own))

-- The next step of a call: pin, load, compare and write, swap, retire or load again, unpin.
def advance (race : Race) (caller : Nat) (call : Call) : Race :=
  match call.phase with
  | .waiting => race.update caller { call with since := race.replaced.length, phase := .pinned }
  | .pinned => race.update caller (call.load.enter (.loaded race.slot))
  | .loaded first =>
    if first.entry.millis = call.millis then
      race.update caller (call.enter (.answered first first))
    else
      let own : Cell := ⟨race.nextId, race.style.entry call.millis⟩
      { race with nextId := race.nextId + 1 }.update caller
        (call.write.enter (.prepared first own))
  | .prepared first own => race.swap caller call first own
  | .won first own =>
    { race with retired := (first, caller) :: race.retired }.update caller
      (call.enter (.answered first own))
  | .lost first _ => race.update caller (call.load.enter (.answered first race.slot))
  | .answered first source => race.update caller (call.enter (.finished first source))
  | .finished _ _ => race

-- One step of the call with that number. A number without a call changes nothing.
def step (race : Race) (caller : Nat) : Race :=
  match race.calls[caller]? with
  | some call => race.advance caller call
  | none => race

-- A schedule names the call that takes each step.
def run (race : Race) (schedule : List Nat) : Race := schedule.foldl step race

end Race

end EventTime
