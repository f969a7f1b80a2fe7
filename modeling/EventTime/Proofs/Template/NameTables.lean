import EventTime.Proofs.Template.Numbers

-- Names of months and weekdays looked up by their place in a table.
-- No place lies outside the tables, so that every template is written to its end.
namespace EventTime

open Calendar

namespace Field

def shortMonths : List String :=
  ["Jan", "Feb", "Mar", "Apr", "May", "Jun", "Jul", "Aug", "Sep", "Oct", "Nov", "Dec"]

def longMonths : List String :=
  ["January", "February", "March", "April", "May", "June", "July", "August", "September",
    "October", "November", "December"]

def shortWeekdays : List String := ["Mon", "Tue", "Wed", "Thu", "Fri", "Sat", "Sun"]

def longWeekdays : List String :=
  ["Monday", "Tuesday", "Wednesday", "Thursday", "Friday", "Saturday", "Sunday"]

-- The table that holds the text of a field, and the number of the entry, from 1.
def listing? (time : DateTime) (width : Nat) : Field → Option (List String × Nat)
  | month =>
    if width ≤ 2 then none
    else some (if width = 3 then shortMonths else longMonths, time.date.month.number)
  | weekday => some (if 4 ≤ width then longWeekdays else shortWeekdays, time.date.weekday.number)
  | _ => none

-- The entry of a table with a number, if the table has it. Its first entry has the place 0.
def lookUp? (table : List String) : Nat → Option String
  | 0 => none
  | place + 1 => table[place]?

-- The field as it is written, if its entry is in the table.
def renderByTable? (reading : Reading) (width : Nat) (kind : Field) : Option (List Char) :=
  match kind.listing? reading.time.dateTime width with
  | none => some (kind.render reading width)
  | some (table, number) => (lookUp? table number).map String.toList

theorem lookUp?_shortMonths (month : Month) :
    lookUp? shortMonths month.number = some month.shortName := by
  cases month <;> rfl

theorem lookUp?_longMonths (month : Month) :
    lookUp? longMonths month.number = some month.name := by
  cases month <;> rfl

theorem lookUp?_shortWeekdays (weekday : Weekday) :
    lookUp? shortWeekdays weekday.number = some weekday.shortName := by
  cases weekday <;> rfl

theorem lookUp?_longWeekdays (weekday : Weekday) :
    lookUp? longWeekdays weekday.number = some weekday.name := by
  cases weekday <;> rfl

-- The entry is in the table, and it is what the field shows.
theorem lookUp?_of_listing? (reading : Reading) (width : Nat) (kind : Field) (table : List String)
    (number : Nat) (hlisting : kind.listing? reading.time.dateTime width = some (table, number)) :
    ∃ name, lookUp? table number = some name ∧ kind.render reading width = name.toList := by
  cases kind with
  | month =>
      simp only [listing?] at hlisting
      split at hlisting
      · cases hlisting
      · rename_i hwide
        cases hlisting
        rw [render, monthText, if_neg hwide]
        split
        · exact ⟨_, lookUp?_shortMonths _, rfl⟩
        · exact ⟨_, lookUp?_longMonths _, rfl⟩
  | weekday =>
      cases hlisting
      rw [render, weekdayText, weekday_reading]
      split
      · exact ⟨_, lookUp?_longWeekdays _, rfl⟩
      · exact ⟨_, lookUp?_shortWeekdays _, rfl⟩
  | _ => cases hlisting

theorem renderByTable?_eq (reading : Reading) (width : Nat) (kind : Field) :
    kind.renderByTable? reading width = some (kind.render reading width) := by
  unfold renderByTable?
  split
  · rfl
  · rename_i table number hlisting
    obtain ⟨name, hname, hrender⟩ := lookUp?_of_listing? reading width kind table number hlisting
    rw [hname, hrender, Option.map_some]

end Field

def Piece.renderByTable? (reading : Reading) : Piece → Option (List Char)
  | .text chars => some chars
  | .field kind width => kind.renderByTable? reading width

theorem Piece.renderByTable?_eq (reading : Reading) (piece : Piece) :
    piece.renderByTable? reading = some (piece.render reading) := by
  cases piece with
  | text chars => rfl
  | field kind width => exact kind.renderByTable?_eq reading width

namespace Template

-- The pieces in their order, if every name is in its table.
def renderByTable? (template : Template) (zone : Zone) (millis : Int) : Option String :=
  (template.pieces.mapM (Piece.renderByTable? (zone.read (Millis.shown millis)))).map
    fun texts => String.ofList texts.flatten

theorem renderByTable?_eq (template : Template) (zone : Zone) (millis : Int) :
    template.renderByTable? zone millis = some (template.render zone millis) := by
  have hpieces : (template.pieces.mapM
      (Piece.renderByTable? (zone.read (Millis.shown millis)))) =
        some (template.pieces.map (Piece.render (zone.read (Millis.shown millis)))) := by
    rw [funext (Piece.renderByTable?_eq (zone.read (Millis.shown millis)))]
    exact List.mapM_pure
  rw [renderByTable?, hpieces]
  rfl

end Template

end EventTime
