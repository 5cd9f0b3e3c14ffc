import ReplicaSync.Text.Blank
import ReplicaSync.Time.Instant

/-!
# Timestamps as text

An instant is written in UTC with as many fraction digits as it needs, in steps of three; a year
beyond four digits or before the year 0 has a sign. The reader is more lenient: numbers may have
fewer digits, blanks may stand around the separators, the day and the time may be separated by a
blank, and any offset from UTC in whole minutes may follow.
-/

namespace ReplicaSync

/-! ### Writing -/

/-- The decimal digits of a number, filled up with zeros in front. -/
def padded (width n : Nat) : List Char :=
  let digits := Nat.toDigits 10 n
  List.replicate (width - digits.length) '0' ++ digits

/-- A year of at least four digits, with a sign unless it has exactly four and none is needed. -/
def yearDigits (year : Int) : List Char :=
  if 0 ≤ year && year ≤ 9999 then padded 4 year.natAbs
  else (if year < 0 then '-' else '+') :: padded 4 year.natAbs

namespace Date

/-- Year, month and day with hyphens between them. -/
def text (d : Date) : List Char :=
  yearDigits d.year ++ '-' :: padded 2 d.month ++ '-' :: padded 2 d.day

end Date

namespace Instant

/-- Hour, minute and second with colons between them. -/
def clockText (t : Instant) : List Char :=
  padded 2 t.hour ++ ':' :: padded 2 t.minute ++ ':' :: padded 2 t.second

/-- The fraction of the second in none, three, six or nine digits. -/
def fractionText (t : Instant) : List Char :=
  if t.subsecond = 0 then []
  else if t.subsecond % 1000000 = 0 then '.' :: padded 3 (t.subsecond / 1000000)
  else if t.subsecond % 1000 = 0 then '.' :: padded 6 (t.subsecond / 1000)
  else '.' :: padded 9 t.subsecond

/-- The canonical text of an instant. -/
def rfc3339 (t : Instant) : String :=
  String.ofList (t.date.text ++ 'T' :: t.clockText ++ t.fractionText ++ ['Z'])

/-- The text of an instant for people, to the millisecond. -/
def logText (t : Instant) : String :=
  String.ofList
    (t.date.text ++ ' ' :: t.clockText ++ '.' :: padded 3 (t.subsecond / 1000000))

end Instant

/-! ### Reading -/

namespace Timestamp

open Text (trimStart)

def isDigit (c : Char) : Bool := '0' ≤ c && c ≤ '9'

/-- The number that a run of digits writes. -/
def value (digits : List Char) : Nat := digits.foldl (fun n c => n * 10 + (c.toNat - 48)) 0

/-- Reads a number of one up to `width` digits. -/
def readNumber (width : Nat) (s : List Char) : Option (Nat × List Char) :=
  let digits := (s.take width).takeWhile isDigit
  if digits.isEmpty then none else some (value digits, s.drop digits.length)

/-- Reads a number of any length that fits a word of 64 bits. -/
def readLong (s : List Char) : Option (Nat × List Char) :=
  let digits := s.takeWhile isDigit
  if digits.isEmpty || Nat.pow 2 63 ≤ value digits then none
  else some (value digits, s.drop digits.length)

/-- Reads a year: up to four digits, or a sign and any number of them. -/
def readYear (s : List Char) : Option (Int × List Char) :=
  match trimStart s with
  | '-' :: rest => (readLong rest).map fun (n, rest) => (-(n : Int), rest)
  | '+' :: rest => (readLong rest).map fun (n, rest) => ((n : Int), rest)
  | s => (readNumber 4 s).map fun (n, rest) => ((n : Int), rest)

/-- Reads a number of up to two digits between two bounds. -/
def readPart (low high : Nat) (s : List Char) : Option (Nat × List Char) :=
  match readNumber 2 (trimStart s) with
  | some (n, rest) => if low ≤ n && n ≤ high then some (n, rest) else none
  | none => none

/-- Passes over blanks and the character `c`. -/
def expect (c : Char) (s : List Char) : Option (List Char) :=
  match trimStart s with
  | d :: rest => if d = c then some rest else none
  | [] => none

/-- Reads the fraction of a second in nanoseconds; digits behind the ninth do not count. -/
def readFraction : List Char → Option (Nat × List Char)
  | '.' :: s =>
    let digits := (s.take 9).takeWhile isDigit
    if digits.isEmpty then none
    else some (value digits * Nat.pow 10 (9 - digits.length),
      (s.drop digits.length).dropWhile fun c => digits.length = 9 && isDigit c)
  | s => some (0, s)

/-- Two digits, the first of them up to `most`. -/
def readPair (most : Char) : List Char → Option (Nat × List Char)
  | a :: b :: rest =>
    if isDigit a && isDigit b && a ≤ most then some (value [a, b], rest) else none
  | _ => none

/-- Reads the hours and minutes of an offset, with colons or blanks between them. -/
def readOffsetSize (s : List Char) : Option (Nat × List Char) :=
  match readPair '9' s with
  | none => none
  | some (hours, rest) =>
    match readPair '5' (rest.dropWhile fun c => c = ':' || Text.isBlank c) with
    | none => none
    | some (minutes, rest) => some (hours * 3600 + minutes * 60, rest)

/-- Reads an offset from UTC in seconds. -/
def readOffset (s : List Char) : Option (Int × List Char) :=
  match s with
  | c :: rest =>
    if c = 'Z' || c = 'z' then some (0, rest)
    else if ((s.take 3).map Char.toUpper) = ['U', 'T', 'C'] then some (0, s.drop 3)
    else if c = '+' then (readOffsetSize rest).map fun (n, rest) => ((n : Int), rest)
    else if c = '-' || c.toNat = 0x2212 then
      (readOffsetSize rest).map fun (n, rest) => (-(n : Int), rest)
    else none
  | [] => none

/-- The parts of a timestamp as they were read. -/
structure Parts where
  date : Date
  hour : Nat
  minute : Nat
  /-- The second of the minute, 60 for a leap second. -/
  second : Nat
  nanos : Nat
  /-- The offset from UTC in seconds. -/
  offset : Int

/-- Reads the day. -/
def readDate (s : List Char) : Option (Date × List Char) := do
  let (year, s) ← readYear s
  let (month, s) ← readPart 1 12 (← expect '-' s)
  let (day, s) ← readPart 1 31 (← expect '-' s)
  return (⟨year, month, day⟩, s)

/-- Reads a whole timestamp and the blanks behind it. -/
def read (s : List Char) : Option Parts := do
  let (date, s) ← readDate s
  let s ← match s with
    | c :: rest => if c = 'T' || c = 't' || c = ' ' then some rest else none
    | [] => none
  let (hour, s) ← readPart 0 23 s
  let (minute, s) ← readPart 0 59 (← expect ':' s)
  let (second, s) ← readPart 0 60 (← expect ':' s)
  let (nanos, s) ← readFraction s
  let (offset, s) ← readOffset (trimStart s)
  if (trimStart s).isEmpty then return ⟨date, hour, minute, second, nanos, offset⟩ else none

/-- The instant that the parts name. The date has to exist and to lie in the range of years, the
offset has to be less than a day, and a leap second counts as the second before it. -/
def Parts.instant? (parts : Parts) : Option Instant :=
  let leap := parts.second = 60
  let secs := parts.date.toDays * 86400 + parts.hour * 3600 + parts.minute * 60 +
    (if leap then 59 else parts.second)
  let nanos := parts.nanos + (if leap then 1000000000 else 0)
  if parts.date.isValid && -86400 < parts.offset && parts.offset < 86400 then
    match Instant.of? secs nanos with
    | some _ => Instant.of? (secs - parts.offset) nanos
    | none => none
  else none

end Timestamp

/-- The instant that a timestamp names. -/
def Instant.ofRfc3339? (text : String) : Option Instant :=
  (Timestamp.read text.toList).bind (·.instant?)

end ReplicaSync
