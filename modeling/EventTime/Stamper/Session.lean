import EventTime.Stamper.Basic

namespace EventTime

-- A stamper at work on a text.
structure Session where
  stamper : Stamper
  buffer : String
  deriving DecidableEq, Repr

-- The uses of a stamper and of its memo.
inductive Request where
  | millis (count : Int)
  | event (logged : Event)
  | moment (date : Moment)
  | value (given : Value)
  | first (values : List Value)
  | shared (count : Int) (threads : Nat)
  | get (count : Int)
  | append (count : Int)
  | clear
  deriving DecidableEq, Repr

namespace Request

-- The instant whose text the request needs, if any.
def instant? : Request → Option Int
  | .millis count => some count
  | .event logged => some logged.millis
  | .moment date => some date.millis
  | .value given => given.millis?
  | .first values => values.findSome? Value.millis?
  | .shared count _ => some count
  | .get count => some count
  | .append count => some count
  | .clear => none

end Request

namespace Session

def writing (result : Stamper × String) : Session × Option (Except Failure String) :=
  (⟨result.1, result.2⟩, none)

-- Carries out a request. The requests that do not write hand out a text instead.
def perform (session : Session) : Request → Session × Option (Except Failure String)
  | .millis count => writing (session.stamper.write count session.buffer)
  | .event logged => writing (session.stamper.writeEvent logged session.buffer)
  | .moment date => writing (session.stamper.writeMoment date session.buffer)
  | .value given => writing (session.stamper.writeValue given session.buffer)
  | .first values => writing (session.stamper.writeFirst values session.buffer)
  | .shared count threads =>
    let (stamper, text) := session.stamper.shared count threads
    ({ session with stamper }, some text)
  | .get count =>
    let (memo, text) := session.stamper.memo.get count
    ({ session with stamper := ⟨memo⟩ }, some (.ok text))
  | .append count =>
    let (memo, buffer) := session.stamper.memo.append count session.buffer
    (⟨⟨memo⟩, buffer⟩, none)
  | .clear => ({ session with buffer := "" }, none)

-- Carries out requests one after another.
def performAll (session : Session) (requests : List Request) : Session :=
  requests.foldl (fun session request => (session.perform request).1) session

end Session

end EventTime
