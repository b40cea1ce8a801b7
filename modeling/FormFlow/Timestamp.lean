import FormFlow.Text.Blank
import FormFlow.Text.Digits

/-!
# Timestamps

A timestamp is a calendar date and a time of day in UTC. It is read from a date, a time and an
offset from UTC, with white space allowed between the parts, and always written in UTC with as
many groups of three decimals as it needs. A leap second is the last second of its minute with
10^9 nanoseconds or more.
-/

namespace FormFlow

structure Date where
  year : Int
  month : Nat
  day : Nat
deriving DecidableEq

namespace Date

def isLeapYear (year : Int) : Bool :=
  year % 4 = 0 && (year % 100 ≠ 0 || year % 400 = 0)

def daysIn (year : Int) (month : Nat) : Nat :=
  match month with
  | 2 => if isLeapYear year then 29 else 28
  | 4 | 6 | 9 | 11 => 30
  | _ => 31

/-- The years that have dates. -/
def inRange (year : Int) : Bool :=
  -262143 ≤ year && year ≤ 262142

/-- Is it a date of the calendar? -/
def isValid (date : Date) : Bool :=
  inRange date.year && 1 ≤ date.month && date.month ≤ 12 && 1 ≤ date.day &&
    date.day ≤ daysIn date.year date.month

def next (date : Date) : Date :=
  if date.day < daysIn date.year date.month then { date with day := date.day + 1 }
  else if date.month < 12 then ⟨date.year, date.month + 1, 1⟩
  else ⟨date.year + 1, 1, 1⟩

def previous (date : Date) : Date :=
  if 1 < date.day then { date with day := date.day - 1 }
  else if 1 < date.month then ⟨date.year, date.month - 1, daysIn date.year (date.month - 1)⟩
  else ⟨date.year - 1, 12, 31⟩

end Date

structure Timestamp where
  date : Date
  /-- The second of the day. -/
  second : Nat
  /-- Nanoseconds of the second, from 10^9 on in a leap second. -/
  nano : Nat
deriving DecidableEq

namespace Timestamp

/-- The nanoseconds of a second. -/
def oneSecond : Nat := 1000000000

/-- A number of one to `most` digits, after any white space. -/
def readNumber? (most : Nat) (text : List Char) : Option (Nat × List Char) :=
  let text := Text.trimStart text
  let digits := (text.take most).takeWhile Text.isDigit
  if digits.isEmpty then none else some (Text.digitsValue digits, text.drop digits.length)

/-- What follows a character, after any white space. -/
def after? (c : Char) (text : List Char) : Option (List Char) :=
  match Text.trimStart text with
  | first :: rest => if first = c then some rest else none
  | [] => none

/-- A year of at most four digits, or of any number of digits after a sign. -/
def readYear? (text : List Char) : Option (Int × List Char) :=
  match Text.trimStart text with
  | '-' :: rest => do
    guard (rest.head?.any Text.isDigit)
    let (year, rest) ← readNumber? rest.length rest
    some (-year, rest)
  | '+' :: rest => do
    guard (rest.head?.any Text.isDigit)
    let (year, rest) ← readNumber? rest.length rest
    some (year, rest)
  | text => do
    let (year, rest) ← readNumber? 4 text
    some (year, rest)

def readDate? (text : List Char) : Option (Date × List Char) := do
  let (year, text) ← readYear? text
  let (month, text) ← readNumber? 2 (← after? '-' text)
  let (day, text) ← readNumber? 2 (← after? '-' text)
  let date : Date := ⟨year, month, day⟩
  guard date.isValid
  some (date, text)

/-- The nanoseconds of a fraction, if there is one; digits after the ninth do not count. -/
def readFraction? : List Char → Option (Nat × List Char)
  | '.' :: rest =>
      let digits := rest.takeWhile Text.isDigit
      let kept := digits.take 9
      if digits.isEmpty then none
      else some (Text.digitsValue kept * Nat.pow 10 (9 - kept.length), rest.drop digits.length)
  | text => some (0, text)

/-- The second of the day and the nanoseconds. -/
def readTime? (text : List Char) : Option (Nat × Nat × List Char) := do
  let (hour, text) ← readNumber? 2 text
  let (minute, text) ← readNumber? 2 (← after? ':' text)
  let (second, text) ← readNumber? 2 (← after? ':' text)
  guard (hour < 24 ∧ minute < 60 ∧ second ≤ 60)
  let (nano, text) ← readFraction? text
  let start := 3600 * hour + 60 * minute
  if second = 60 then some (start + 59, oneSecond + nano, text)
  else some (start + second, nano, text)

/-- Seconds in an offset of two digits of hours and two of minutes, which may be apart. -/
def readHoursMinutes? : List Char → Option (Nat × List Char)
  | a :: b :: rest =>
      match rest.dropWhile fun c => c == ':' || Unicode.isWhiteSpace c with
      | c :: d :: rest => do
        guard ([a, b, c, d].all Text.isDigit)
        let hours := Text.digitsValue [a, b]
        let minutes := Text.digitsValue [c, d]
        guard (hours < 24 ∧ minutes < 60)
        some (3600 * hours + 60 * minutes, rest)
      | _ => none
  | _ => none

/-- How many seconds a local time is ahead of UTC. -/
def readOffset? (text : List Char) : Option (Int × List Char) :=
  match Text.trimStart text with
  | 'Z' :: rest | 'z' :: rest => some (0, rest)
  | '+' :: rest => (readHoursMinutes? rest).map fun (seconds, rest) => (seconds, rest)
  | '-' :: rest | '\u2212' :: rest =>
      (readHoursMinutes? rest).map fun (seconds, rest) => (-seconds, rest)
  | text =>
      if (text.take 3).map Char.toUpper = ['U', 'T', 'C'] then some (0, text.drop 3) else none

/-- The time of day in UTC for a local date and second of the day. Offsets are shorter than a day,
so the date moves by one day at most. -/
def toUtc? (date : Date) (second : Nat) (offset : Int) (nano : Nat) : Option Timestamp :=
  let moved : Int := second - offset
  let (date, second) :=
    if moved < 0 then (date.previous, moved + 86400)
    else if 86400 ≤ moved then (date.next, moved - 86400)
    else (date, moved)
  if Date.inRange date.year then some ⟨date, second.toNat, nano⟩ else none

/-- Read a timestamp. -/
def ofText? (text : List Char) : Option Timestamp := do
  let (date, text) ← readDate? text
  let text ← match text with
    | 'T' :: rest | 't' :: rest | ' ' :: rest => some rest
    | _ => none
  let (second, nano, text) ← readTime? text
  let (offset, text) ← readOffset? text
  guard (Text.isBlank text)
  toUtc? date second offset nano

/-- The last `count` decimal digits of a number. -/
def paddedDigits : Nat → Nat → List Char
  | 0, _ => []
  | count + 1, n => paddedDigits count (n / 10) ++ [Nat.digitChar (n % 10)]

/-- Four digits, or a sign and at least four digits for a year that does not fit. -/
def yearDigits (year : Int) : List Char :=
  if 0 ≤ year ∧ year ≤ 9999 then paddedDigits 4 year.toNat
  else
    (if year < 0 then '-' else '+') ::
      paddedDigits (max 4 (Nat.toDigits 10 year.natAbs).length) year.natAbs

/-- A fraction in as few groups of three digits as show it. -/
def fractionText (nano : Nat) : List Char :=
  if nano = 0 then []
  else if nano % 1000000 = 0 then '.' :: paddedDigits 3 (nano / 1000000)
  else if nano % 1000 = 0 then '.' :: paddedDigits 6 (nano / 1000)
  else '.' :: paddedDigits 9 nano

/-- Write a timestamp. -/
def toChars (time : Timestamp) : List Char :=
  let leap := time.nano / oneSecond
  yearDigits time.date.year ++ '-' :: paddedDigits 2 time.date.month ++
    '-' :: paddedDigits 2 time.date.day ++ 'T' :: paddedDigits 2 (time.second / 3600) ++
    ':' :: paddedDigits 2 (time.second / 60 % 60) ++
    ':' :: paddedDigits 2 (time.second % 60 + leap) ++
    fractionText (time.nano % oneSecond) ++ ['Z']

def text (time : Timestamp) : String :=
  String.ofList time.toChars

end Timestamp

end FormFlow
