/-!
Dates and times of day, their text and their order. A leap second is the last second of a minute
whose fraction reaches beyond one second.
-/

namespace Polysql

/-- The number with zeros in front up to `width` digits. -/
def zeroPadded (width n : Nat) : String :=
  let ds := (Nat.repr n).toList
  String.ofList (List.replicate (width - ds.length) '0' ++ ds)

/-- A day of the calendar. Of the documented behaviour of a library's dates, the text after ISO 8601
and the order are taken over; that a month has the day is left to those who build it. -/
structure Date where
  /-- The year; there is a year zero, and negative years come before it. -/
  year : Int
  /-- The month, from 1. -/
  month : Nat
  /-- The day of the month, from 1. -/
  day : Nat
deriving DecidableEq, Repr

namespace Date

/-- The year with at least four digits, and with a sign outside `0` to `9999`. -/
def yearText (year : Int) : String :=
  let digits := zeroPadded 4 year.natAbs
  if year < 0 then "-" ++ digits
  else if 9999 < year then "+" ++ digits
  else digits

/-- Year, month and day. -/
def text (d : Date) : String :=
  yearText d.year ++ "-" ++ zeroPadded 2 d.month ++ "-" ++ zeroPadded 2 d.day

/-- The order in time. -/
def compare (a b : Date) : Ordering :=
  (Ord.compare a.year b.year).then
    ((Ord.compare a.month b.month).then (Ord.compare a.day b.day))

end Date

/-- A time of day. Of the documented behaviour of a library's times, the text, the order and the
place of a leap second are taken over. -/
structure Time where
  hour : Nat
  minute : Nat
  second : Nat
  /-- Billionths of a second; a billion and more during a leap second. -/
  nano : Nat
deriving DecidableEq, Repr

namespace Time

/-- A fraction of a second: nothing, or a point and three, six or nine digits, as few as it
takes. -/
def fractionText (nano : Nat) : String :=
  if nano = 0 then ""
  else if nano % 1000000 = 0 then "." ++ zeroPadded 3 (nano / 1000000)
  else if nano % 1000 = 0 then "." ++ zeroPadded 6 (nano / 1000)
  else "." ++ zeroPadded 9 nano

/-- Hour, minute, second and fraction. A leap second is number sixty. -/
def text (t : Time) : String :=
  let second := t.second + t.nano / 1000000000
  zeroPadded 2 t.hour ++ ":" ++ zeroPadded 2 t.minute ++ ":" ++ zeroPadded 2 second ++
    fractionText (t.nano % 1000000000)

/-- The order within a day. -/
def compare (a b : Time) : Ordering :=
  (Ord.compare a.hour b.hour).then
    ((Ord.compare a.minute b.minute).then
      ((Ord.compare a.second b.second).then (Ord.compare a.nano b.nano)))

end Time

/-- A day and a time of day, with no time zone. Its text and its order are taken over from those of
the two. -/
structure Timestamp where
  date : Date
  time : Time
deriving DecidableEq, Repr

namespace Timestamp

/-- Date and time with `separator` between them. -/
def textWith (separator : String) (t : Timestamp) : String :=
  t.date.text ++ separator ++ t.time.text

/-- Date and time. -/
def text (t : Timestamp) : String :=
  t.textWith " "

/-- The order in time. -/
def compare (a b : Timestamp) : Ordering :=
  (a.date.compare b.date).then (a.time.compare b.time)

end Timestamp

end Polysql
