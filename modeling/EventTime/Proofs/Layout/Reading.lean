import EventTime.Proofs.Calendar.Count
import EventTime.Proofs.Template.Pieces
import EventTime.Proofs.Text.Digits
import EventTime.Template.Render
import Mathlib.Data.List.Forall2

-- Dates and times written out in full, from the year to the milliseconds, and read back.
namespace EventTime

open Calendar

-- A field of so many digits, and the text that stands before it.
structure Slot where
  before : List Char
  kind : Field
  width : Nat

namespace Slot

def pieces (slot : Slot) : List Piece :=
  Piece.ofText slot.before ++ [.field slot.kind slot.width]

def length (slot : Slot) : Nat := slot.before.length + slot.width

def write (slot : Slot) (number : Nat) : List Char :=
  slot.before ++ Decimal.padded slot.width number

-- A number that needs no more digits than there are.
def Fits (slot : Slot) (number : Nat) : Prop := 0 < slot.width ∧ number < 10 ^ slot.width

def writeAll (slots : List Slot) (numbers : List Nat) : List Char :=
  (List.zipWith write slots numbers).flatten

-- The numbers of a text, if it has the slots one after another and nothing else.
def readAll : List Slot → List Char → Option (List Nat)
  | [], text => if text = [] then some [] else none
  | slot :: slots, text =>
    let behind := text.drop slot.before.length
    if text.take slot.before.length = slot.before then
      match Numeral.natural? (behind.take slot.width), readAll slots (behind.drop slot.width) with
      | some number, some numbers => some (number :: numbers)
      | _, _ => none
    else none

theorem length_write (slot : Slot) (number : Nat) (hfits : slot.Fits number) :
    (slot.write number).length = slot.length := by
  rw [write, List.length_append, Decimal.length_padded_of_lt slot.width number hfits.1 hfits.2,
    length]

theorem length_writeAll {slots : List Slot} {numbers : List Nat}
    (hfits : List.Forall₂ Fits slots numbers) :
    (writeAll slots numbers).length = (slots.map length).sum := by
  induction hfits with
  | nil => rfl
  | @cons slot number slots numbers hfit hfits ih =>
      simp only [writeAll] at ih
      rw [writeAll, List.zipWith_cons_cons, List.flatten_cons, List.length_append, ih,
        slot.length_write number hfit, List.map_cons, List.sum_cons]

theorem readAll_write_append (slot : Slot) (slots : List Slot) (number : Nat) (rest : List Char)
    (hfits : slot.Fits number) :
    readAll (slot :: slots) (slot.write number ++ rest) =
      (readAll slots rest).map (number :: ·) := by
  have hdigits := Decimal.length_padded_of_lt slot.width number hfits.1 hfits.2
  rw [readAll, write, List.append_assoc, List.take_left, List.drop_left, if_pos rfl,
    List.take_left' hdigits, List.drop_left' hdigits, Decimal.natural?_padded]
  cases readAll slots rest <;> rfl

theorem readAll_writeAll {slots : List Slot} {numbers : List Nat}
    (hfits : List.Forall₂ Fits slots numbers) :
    readAll slots (writeAll slots numbers) = some numbers := by
  induction hfits with
  | nil => rfl
  | @cons slot number slots numbers hfit hfits ih =>
      simp only [writeAll] at ih
      rw [writeAll, List.zipWith_cons_cons, List.flatten_cons,
        slot.readAll_write_append slots number _ hfit, ih, Option.map_some]

-- The year of a text and the numbers behind it, which tell from the end where they begin.
def readBehindYear? (slots : List Slot) (text : List Char) : Option (Int × List Nat) :=
  let cut := text.length - (slots.map length).sum
  match Decimal.integer? (text.take cut), readAll slots (text.drop cut) with
  | some year, some numbers => some (year, numbers)
  | _, _ => none

theorem readBehindYear?_write {slots : List Slot} {numbers : List Nat}
    (hfits : List.Forall₂ Fits slots numbers) (width : Nat) (year : Int) :
    readBehindYear? slots (Decimal.padded width year ++ writeAll slots numbers) =
      some (year, numbers) := by
  have hcut : (Decimal.padded width year ++ writeAll slots numbers).length -
      (slots.map length).sum = (Decimal.padded width year).length := by
    rw [List.length_append, length_writeAll hfits, Nat.add_sub_cancel]
  rw [readBehindYear?, hcut, List.take_left, List.drop_left, Decimal.integer?_padded,
    readAll_writeAll hfits]

end Slot

-- The texts that stand before the fields behind the year.
structure Layout where
  month : List Char
  day : List Char
  hour : List Char
  minute : List Char
  second : List Char
  milli : List Char

namespace Layout

def slots (layout : Layout) : List Slot :=
  [ ⟨layout.month, .month, 2⟩,
    ⟨layout.day, .day, 2⟩,
    ⟨layout.hour, .hourFrom0To23, 2⟩,
    ⟨layout.minute, .minute, 2⟩,
    ⟨layout.second, .second, 2⟩,
    ⟨layout.milli, .milli, 3⟩ ]

def pieces (layout : Layout) : List Piece :=
  .field .year 4 :: layout.slots.flatMap Slot.pieces

-- The numbers behind the year, in the order of the slots.
def numbers (time : DateTime) : List Nat :=
  [ time.date.month.number,
    time.date.day,
    time.clock.hour,
    time.clock.minute,
    time.clock.second,
    time.clock.milli ]

def write (layout : Layout) (time : DateTime) : List Char :=
  Decimal.padded 4 time.date.year ++ Slot.writeAll layout.slots (numbers time)

-- The length of what stands behind the year.
def tailLength (layout : Layout) : Nat := (layout.slots.map Slot.length).sum

-- The date and time of numbers, if there are such a date and such a time of day.
def dateTime? (year : Int) : List Nat → Option DateTime
  | [month, day, hour, minute, second, milli] =>
    match Date.of? year month day, Clock.of? hour minute second milli with
    | some date, some clock => some ⟨date, clock⟩
    | _, _ => none
  | _ => none

-- Reads a text. Only the year varies in length, so that it is what stands before the tail.
def read? (layout : Layout) (text : List Char) : Option DateTime :=
  let cut := text.length - layout.tailLength
  match Decimal.integer? (text.take cut), Slot.readAll layout.slots (text.drop cut) with
  | some year, some numbers => dateTime? year numbers
  | _, _ => none

theorem dateTime?_numbers (time : DateTime) :
    dateTime? time.date.year (numbers time) = some time := by
  simp only [dateTime?, numbers, Date.of?_numbers, Clock.of?_numbers]

theorem numbers_fit (layout : Layout) (time : DateTime) :
    List.Forall₂ Slot.Fits layout.slots (numbers time) := by
  have hmonth := time.date.month.number_lt
  have hday := time.date.day_le_length
  have hlength := time.date.month.length_le (isLeap time.date.year)
  have hhour := time.clock.hour_lt
  have hminute := time.clock.minute_lt
  have hsecond := time.clock.second_lt
  have hmilli := time.clock.milli_lt
  simp only [slots, numbers, List.forall₂_cons, Slot.Fits]
  refine ⟨?_, ?_, ?_, ?_, ?_, ?_, .nil⟩ <;> omega

theorem read?_eq_bind (layout : Layout) (text : List Char) :
    layout.read? text =
      (Slot.readBehindYear? layout.slots text).bind fun (year, numbers) =>
        dateTime? year numbers := by
  simp only [read?, Slot.readBehindYear?, tailLength]
  cases Decimal.integer? (text.take (text.length - (layout.slots.map Slot.length).sum)) with
  | none => rfl
  | some year =>
      cases Slot.readAll layout.slots
        (text.drop (text.length - (layout.slots.map Slot.length).sum)) <;> rfl

theorem read?_write (layout : Layout) (time : DateTime) :
    layout.read? (layout.write time) = some time := by
  rw [read?_eq_bind, write, Slot.readBehindYear?_write (layout.numbers_fit time)]
  exact dateTime?_numbers time

end Layout

theorem Piece.flatMap_render_ofText (reading : Reading) (text : List Char) :
    (ofText text).flatMap (Piece.render reading) = text := by
  unfold ofText
  split
  · rename_i hnil
    exact hnil.symm
  · rw [List.flatMap_singleton, Piece.render]

theorem Slot.flatMap_render_pieces (reading : Reading) (slot : Slot) :
    slot.pieces.flatMap (Piece.render reading) =
      slot.before ++ slot.kind.render reading slot.width := by
  rw [pieces, List.flatMap_append, Piece.flatMap_render_ofText, List.flatMap_singleton,
    Piece.render]

-- The pieces of a layout write what the calendars and clocks show.
theorem Layout.flatMap_render_pieces (layout : Layout) (reading : Reading) :
    layout.pieces.flatMap (Piece.render reading) = layout.write reading.time.dateTime := by
  rw [pieces, List.flatMap_cons, List.flatMap_assoc]
  simp only [Slot.flatMap_render_pieces]
  rfl

end EventTime
