import FabricTopology.Decimal
import FabricTopology.Text.Numeral
import FabricTopology.Text.Words

/-!
Days of the Gregorian calendar, extended to all years from `firstYear` to `lastYear`, and moments of Universal Time to
the nanosecond. A `Date` carries its own validity, so every date has a day after it (`next?`) unless it is the last one
of the calendar, and a day before it (`previous?`) unless it is the first.

A `Timestamp` carries its own validity; its second may be the sixtieth, a leap second. `ordinal` puts all moments in one
line, so later ones compare greater, and `shift?` turns the local reading of a clock into Universal Time.

`Timestamp.text` writes `2024-01-02T03:04:05Z`, with three, six or nine digits of a second when fewer would lose
something. `Timestamp.ofText?` also reads white space before any part, numbers without leading zeros, a space or a small
`t` between date and time, and any offset from Universal Time below a day; an offset, a time and an existing date are
required.
-/
namespace FabricTopology.Calendar

/-! ### Days -/

/-- The first year of the calendar. -/
def firstYear : Int := -262143

/-- The last year of the calendar. -/
def lastYear : Int := 262142

/-- Leap years: every fourth, of the full centuries only every fourth. -/
def isLeap (year : Int) : Bool := year % 4 == 0 && (year % 100 != 0 || year % 400 == 0)

/-- Lengths of the months of a year. -/
def monthLengths (leap : Bool) : List Nat :=
  [31, if leap then 29 else 28, 31, 30, 31, 30, 31, 31, 30, 31, 30, 31]

/-- Length of a month, zero for what is no month. -/
def monthLength (year : Int) (month : Nat) : Nat :=
  if month = 0 then 0 else (monthLengths (isLeap year)).getD (month - 1) 0

/-- A day of the calendar. -/
structure Date where
  year : Int
  month : Nat
  day : Nat
  inCalendar : firstYear ≤ year ∧ year ≤ lastYear
  inMonth : 1 ≤ day ∧ day ≤ monthLength year month
deriving DecidableEq

/-- The day of that year, month and number, if there is one. -/
def Date.of? (year : Int) (month day : Nat) : Option Date :=
  if h : (firstYear ≤ year ∧ year ≤ lastYear) ∧ 1 ≤ day ∧ day ≤ monthLength year month then
    some ⟨year, month, day, h.1, h.2⟩
  else none

/-- The first day of 1970. -/
def Date.epoch : Date := ⟨1970, 1, 1, by decide, by decide⟩

/-- The day after. -/
def Date.next? (d : Date) : Option Date :=
  if d.day < monthLength d.year d.month then Date.of? d.year d.month (d.day + 1)
  else if d.month < 12 then Date.of? d.year (d.month + 1) 1
  else Date.of? (d.year + 1) 1 1

/-- The day before. -/
def Date.previous? (d : Date) : Option Date :=
  if 1 < d.day then Date.of? d.year d.month (d.day - 1)
  else if 1 < d.month then Date.of? d.year (d.month - 1) (monthLength d.year (d.month - 1))
  else Date.of? (d.year - 1) 12 31

/-- The day so many days earlier, or the first day of the calendar if it begins later. -/
def Date.back (d : Date) : Nat → Date
  | 0 => d
  | n + 1 => match d.previous? with
    | some p => p.back n
    | none => d

/-! ### Moments -/

/-- A date with a time of day. -/
structure Timestamp where
  date : Date
  hour : Nat
  minute : Nat
  second : Nat
  nano : Nat
  inDay : hour < 24 ∧ minute < 60 ∧ second ≤ 60 ∧ nano < 1000000000
deriving DecidableEq

namespace Timestamp

/-- That time on that day, if there is one. -/
def of? (date : Date) (hour minute second nano : Nat) : Option Timestamp :=
  if h : hour < 24 ∧ minute < 60 ∧ second ≤ 60 ∧ nano < 1000000000 then
    some ⟨date, hour, minute, second, nano, h⟩
  else none

/-- The first moment of 1970. -/
def epoch : Timestamp := ⟨Date.epoch, 0, 0, 0, 0, by decide⟩

/-- Position among all moments: years, months, days and the parts of the day in mixed radix. -/
def ordinal (t : Timestamp) : Int :=
  (((((t.date.year * 13 + t.date.month) * 32 + t.date.day) * 24 + t.hour) * 60 + t.minute) * 61 +
    t.second) * 1000000000 + t.nano

instance : LE Timestamp := ⟨fun t u => t.ordinal ≤ u.ordinal⟩

instance : LT Timestamp := ⟨fun t u => t.ordinal < u.ordinal⟩

instance (t u : Timestamp) : Decidable (t ≤ u) :=
  inferInstanceAs (Decidable (t.ordinal ≤ u.ordinal))

instance (t u : Timestamp) : Decidable (t < u) :=
  inferInstanceAs (Decidable (t.ordinal < u.ordinal))

/-- The same time so many days earlier. -/
def daysBack (t : Timestamp) (n : Nat) : Timestamp := { t with date := t.date.back n }

/-- Universal Time of a clock that shows `t` and runs `offset` minutes, less than a day, ahead. -/
def shift? (t : Timestamp) (offset : Int) : Option Timestamp := do
  let minutes := (60 * t.hour + t.minute : Nat) - offset
  let date ← if minutes < 0 then t.date.previous?
    else if 1440 ≤ minutes then t.date.next? else some t.date
  let inDay := (minutes % 1440).toNat
  of? date (inDay / 60) (inDay % 60) t.second t.nano

end Timestamp

/-! ### Moments as texts -/

open FabricTopology.Text FabricTopology.Decimal

/-- Decimal digits, with zeros in front up to a width. -/
def padded (width n : Nat) : List Char :=
  List.replicate (width - (digits n).length) '0' ++ digits n

/-- Years from 0 to 9999 in four digits, all others with a sign. -/
def yearText (year : Int) : List Char :=
  if 0 ≤ year ∧ year ≤ 9999 then padded 4 year.toNat
  else (if year < 0 then '-' else '+') :: padded 4 year.natAbs

/-- The fraction of a second, in as many digits as it needs: none, three, six or nine. -/
def fractionText (nano : Nat) : List Char :=
  if nano = 0 then []
  else if nano % 1000000 = 0 then '.' :: padded 3 (nano / 1000000)
  else if nano % 1000 = 0 then '.' :: padded 6 (nano / 1000)
  else '.' :: padded 9 nano

/-- The text of a moment. -/
def Timestamp.text (t : Timestamp) : List Char :=
  yearText t.date.year ++ '-' :: padded 2 t.date.month ++ '-' :: padded 2 t.date.day ++
    'T' :: padded 2 t.hour ++ ':' :: padded 2 t.minute ++ ':' :: padded 2 t.second ++
    fractionText t.nano ++ ['Z']

/-- A number of at most `width` digits, white space before it, and what follows. -/
def number? (width : Nat) (cs : List Char) : Option (Nat × List Char) :=
  let cs := trimStart cs
  let ds := (cs.take width).takeWhile Char.isDigit
  if ds.isEmpty then none else some (digitsValue ds, cs.drop ds.length)

/-- A year of at most four digits, or of any number of them after a sign. -/
def year? (cs : List Char) : Option (Int × List Char) :=
  let signed (rest : List Char) : Option (Nat × List Char) :=
    let ds := rest.takeWhile Char.isDigit
    if ds.isEmpty then none else some (digitsValue ds, rest.drop ds.length)
  match trimStart cs with
  | '-' :: rest => (signed rest).map fun r => (-(r.1 : Int), r.2)
  | '+' :: rest => (signed rest).map fun r => ((r.1 : Int), r.2)
  | cs => (number? 4 cs).map fun r => ((r.1 : Int), r.2)

/-- What follows the mark `c`, white space before it. -/
def afterMark? (c : Char) (cs : List Char) : Option (List Char) :=
  match trimStart cs with
  | d :: rest => if d = c then some rest else none
  | [] => none

/-- A date and what follows it. -/
def date? (cs : List Char) : Option (Date × List Char) := do
  let (year, cs) ← year? cs
  let (month, cs) ← number? 2 (← afterMark? '-' cs)
  let (day, cs) ← number? 2 (← afterMark? '-' cs)
  let date ← Date.of? year month day
  some (date, cs)

/-- The fraction of a second in nanoseconds, digits after the ninth dropped, and what follows it. -/
def fraction? : List Char → Option (Nat × List Char)
  | '.' :: rest =>
    let ds := rest.takeWhile Char.isDigit
    if ds.isEmpty then none
    else some (digitsValue ((ds ++ List.replicate 9 '0').take 9), rest.drop ds.length)
  | cs => some (0, cs)

/-- A time of day on a date and what follows it. -/
def timeOn? (date : Date) (cs : List Char) : Option (Timestamp × List Char) := do
  let (hour, cs) ← number? 2 cs
  let (minute, cs) ← number? 2 (← afterMark? ':' cs)
  let (second, cs) ← number? 2 (← afterMark? ':' cs)
  let (nano, cs) ← fraction? cs
  let t ← Timestamp.of? date hour minute second nano
  some (t, cs)

/-- Two digits of an offset and what follows them. -/
def twoDigits? : List Char → Option (Nat × List Char)
  | a :: b :: rest =>
    if a.isDigit && b.isDigit then some (digitsValue [a, b], rest) else none
  | _ => none

/-- An offset in minutes after its sign, hours and minutes with any colons and white space between
    them, and what follows it. -/
def offset? (cs : List Char) : Option (Int × List Char) := do
  let (hours, cs) ← twoDigits? cs
  let (minutes, cs) ← twoDigits? (cs.dropWhile fun c => c == ':' || isBlank c)
  if hours < 24 ∧ minutes < 60 then some ((60 * hours + minutes : Nat), cs) else none

/-- The distance of a clock from Universal Time in minutes, and what follows it. -/
def zone? (cs : List Char) : Option (Int × List Char) :=
  if (cs.take 3).map Char.toLower == ['u', 't', 'c'] then some (0, cs.drop 3)
  else match cs with
    | 'Z' :: rest => some (0, rest)
    | 'z' :: rest => some (0, rest)
    | '+' :: rest => offset? rest
    | '-' :: rest => (offset? rest).map fun r => (-r.1, r.2)
    | '\u2212' :: rest => (offset? rest).map fun r => (-r.1, r.2)
    | _ => none

/-- The moment a text stands for. -/
def Timestamp.ofText? (cs : List Char) : Option Timestamp := do
  let (date, cs) ← date? cs
  let cs ← match cs with
    | c :: rest => if c = 'T' ∨ c = 't' ∨ c = ' ' then some rest else none
    | [] => none
  let (t, cs) ← timeOn? date cs
  let (offset, cs) ← zone? (trimStart cs)
  if cs.all isBlank then t.shift? offset else none

end FabricTopology.Calendar
