import Steering.Text.Blank

/-!
# Instants

An instant is a moment in universal time, by its calendar date and time of day down to the
nanosecond. The second of a minute may be 60, for a leap second.

Written, an instant has the form `2024-01-02T03:04:05.678Z`, with the fewest of 0, 3, 6 or 9
fraction digits that lose nothing. Reading is laxer: it takes any offset from universal time,
`T`, `t` or a blank between date and time, numbers with fewer digits than usual and blanks
between the parts. Each reading function gives the value it has read and the rest of the text.
-/

namespace Steering

/-- The calendar is the Gregorian one, also before it was introduced; there is a year 0. -/
def isLeapYear (year : Int) : Bool :=
  year % 4 == 0 && (year % 100 != 0 || year % 400 == 0)

def daysInMonth (year : Int) (month : Nat) : Nat :=
  match month with
  | 2 => if isLeapYear year then 29 else 28
  | 4 | 6 | 9 | 11 => 30
  | _ => 31

structure Instant where
  year : Int
  month : Nat
  day : Nat
  hour : Nat
  minute : Nat
  /-- The second is 60 in a leap second. -/
  second : Nat
  nanosecond : Nat
deriving Repr, DecidableEq, Inhabited

namespace Instant

/-- The years that dates are kept for. -/
def minYear : Int := -262143

def maxYear : Int := 262142

/-- Holds of a date and time that exist. -/
def isValid (t : Instant) : Bool :=
  decide (minYear ≤ t.year) && decide (t.year ≤ maxYear) &&
  decide (1 ≤ t.month) && decide (t.month ≤ 12) &&
  decide (1 ≤ t.day) && decide (t.day ≤ daysInMonth t.year t.month) &&
  decide (t.hour < 24) && decide (t.minute < 60) && decide (t.second ≤ 60) &&
  decide (t.nanosecond < 1000000000)

/-! ### Counting -/

/-- The year, month and day that lie the given number of days after the first of January 1970.
The count is made in cycles of 400 years that begin with a March, so that a leap day ends a year. -/
def dateOfDay (day : Int) : Int × Nat × Nat :=
  let shifted := day + 719468
  let cycle := shifted / 146097
  let dayOfCycle := (shifted % 146097).toNat
  let yearOfCycle :=
    (dayOfCycle - dayOfCycle / 1460 + dayOfCycle / 36524 - dayOfCycle / 146096) / 365
  let dayOfYear := dayOfCycle - (365 * yearOfCycle + yearOfCycle / 4 - yearOfCycle / 100)
  let fromMarch := (5 * dayOfYear + 2) / 153
  let dayOfMonth := dayOfYear - (153 * fromMarch + 2) / 5 + 1
  let year := cycle * 400 + yearOfCycle
  if fromMarch < 10 then (year, fromMarch + 3, dayOfMonth)
  else (year + 1, fromMarch - 9, dayOfMonth)

/-- The instant that lies the given number of seconds after the beginning of 1970, leap seconds
not counted. -/
def ofSeconds (seconds : Int) (nanosecond : Nat) : Instant :=
  let (year, month, day) := dateOfDay (seconds / 86400)
  let second := (seconds % 86400).toNat
  { year, month, day
    hour := second / 3600, minute := second / 60 % 60, second := second % 60, nanosecond }

/-! ### Writing -/

/-- A number with at least the given count of digits. -/
def padded (width n : Nat) : List Char :=
  let digits := Nat.toDigits 10 n
  List.replicate (width - digits.length) '0' ++ digits

/-- Years before 0 and after 9999 are written with a sign. -/
def writeYear (year : Int) : List Char :=
  if 0 ≤ year ∧ year ≤ 9999 then padded 4 year.toNat
  else (if year < 0 then '-' else '+') :: padded 4 year.natAbs

def writeFraction (nanosecond : Nat) : List Char :=
  if nanosecond = 0 then []
  else if nanosecond % 1000000 = 0 then '.' :: padded 3 (nanosecond / 1000000)
  else if nanosecond % 1000 = 0 then '.' :: padded 6 (nanosecond / 1000)
  else '.' :: padded 9 nanosecond

def writeChars (t : Instant) : List Char :=
  writeYear t.year ++ '-' :: padded 2 t.month ++ '-' :: padded 2 t.day ++ 'T' ::
    padded 2 t.hour ++ ':' :: padded 2 t.minute ++ ':' :: padded 2 t.second ++
    writeFraction t.nanosecond ++ ['Z']

def toText (t : Instant) : String := String.ofList (writeChars t)

/-! ### Reading -/

/-- A number of one to `width` digits. -/
def readDigits (width : Nat) (cs : List Char) : Option (Nat × List Char) :=
  let digits := (cs.take width).takeWhile Char.isDigit
  if digits.isEmpty then none
  else
    some (digits.foldl (fun n d => n * 10 + (d.toNat - '0'.toNat)) 0, cs.drop digits.length)

/-- A number of up to `width` digits that blanks may precede. -/
def readNumber (width : Nat) (cs : List Char) : Option (Nat × List Char) :=
  readDigits width (Text.trimStart cs)

/-- A year of up to four digits, or of any number of digits after a sign. -/
def readYear (cs : List Char) : Option (Int × List Char) :=
  match Text.trimStart cs with
  | '-' :: rest => (readDigits rest.length rest).map fun (n, rest) => (-(n : Int), rest)
  | '+' :: rest => (readDigits rest.length rest).map fun (n, rest) => ((n : Int), rest)
  | cs => (readDigits 4 cs).map fun (n, rest) => ((n : Int), rest)

/-- The given character, which blanks may precede. -/
def readMark (mark : Char) (cs : List Char) : Option (List Char) :=
  match Text.trimStart cs with
  | c :: rest => if c = mark then some rest else none
  | [] => none

/-- A fraction of a second in nanoseconds; digits after the ninth are dropped. -/
def readFraction : List Char → Option (Nat × List Char)
  | '.' :: rest => do
    let (value, more) ← readDigits 9 rest
    let count := rest.length - more.length
    some (value * Nat.pow 10 (9 - count), more.dropWhile Char.isDigit)
  | cs => some (0, cs)

/-- Two digits with a value below the bound. -/
def readTwo (bound : Nat) : List Char → Option (Nat × List Char)
  | a :: b :: rest =>
    if a.isDigit && b.isDigit then
      let n := (a.toNat - 48) * 10 + (b.toNat - 48)
      if n < bound then some (n, rest) else none
    else none
  | _ => none

/-- An offset from universal time, in minutes. The hours and minutes may be separated by colons
and blanks. -/
def readSignedOffset : List Char → Option (Int × List Char)
  | sign :: rest =>
    if sign = '+' ∨ sign = '-' ∨ sign = '−' then do
      let (hours, rest) ← readTwo 24 rest
      let (minutes, rest) ← readTwo 60 (rest.dropWhile fun c => c == ':' || Text.isBlank c)
      let offset : Int := hours * 60 + minutes
      some (if sign = '+' then offset else -offset, rest)
    else none
  | [] => none

def readOffset (cs : List Char) : Option (Int × List Char) :=
  match cs with
  | c :: rest =>
    if c = 'Z' ∨ c = 'z' then some (0, rest)
    else
      match cs with
      | a :: b :: c :: rest =>
        if (a = 'U' ∨ a = 'u') ∧ (b = 'T' ∨ b = 't') ∧ (c = 'C' ∨ c = 'c') then some (0, rest)
        else readSignedOffset cs
      | _ => readSignedOffset cs
  | [] => none

/-- The same time on the day before. -/
def dayBefore (t : Instant) : Instant :=
  if t.day ≠ 1 then { t with day := t.day - 1 }
  else if t.month ≠ 1 then { t with month := t.month - 1, day := daysInMonth t.year (t.month - 1) }
  else { t with year := t.year - 1, month := 12, day := 31 }

/-- The same time on the day after. -/
def dayAfter (t : Instant) : Instant :=
  if t.day ≠ daysInMonth t.year t.month then { t with day := t.day + 1 }
  else if t.month ≠ 12 then { t with month := t.month + 1, day := 1 }
  else { t with year := t.year + 1, month := 1, day := 1 }

/-- The instant at which clocks that are `offset` minutes ahead of universal time show `t`. The
offset is less than a day. -/
def fromOffset (t : Instant) (offset : Int) : Instant :=
  let minutes : Int := t.hour * 60 + t.minute - offset
  let day :=
    if minutes < 0 then t.dayBefore else if 1440 ≤ minutes then t.dayAfter else t
  let minuteOfDay := (minutes % 1440).toNat
  { day with hour := minuteOfDay / 60, minute := minuteOfDay % 60 }

def readChars (cs : List Char) : Option Instant := do
  let (year, cs) ← readYear cs
  let cs ← readMark '-' cs
  let (month, cs) ← readNumber 2 cs
  let cs ← readMark '-' cs
  let (day, cs) ← readNumber 2 cs
  let cs ← match cs with
    | c :: rest => if c = 'T' ∨ c = 't' ∨ c = ' ' then some rest else none
    | [] => none
  let (hour, cs) ← readNumber 2 cs
  let cs ← readMark ':' cs
  let (minute, cs) ← readNumber 2 cs
  let cs ← readMark ':' cs
  let (second, cs) ← readNumber 2 cs
  let (nanosecond, cs) ← readFraction cs
  let (offset, cs) ← readOffset (Text.trimStart cs)
  if Text.trimStart cs = [] then
    let shown : Instant := { year, month, day, hour, minute, second, nanosecond }
    let t := shown.fromOffset offset
    if shown.isValid && t.isValid then some t else none
  else none

/-- The instant that a text stands for, if it is one. -/
def parse? (text : String) : Option Instant := readChars text.toList

end Instant

end Steering
