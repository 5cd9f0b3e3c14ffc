import ReplicaSync.Json.Basic
import ReplicaSync.Text.Hexadecimal

/-!
# Reading JSON text

A reader takes the characters that are left and returns what it read with what is left then. The
text of a value is accepted only if nothing but blanks follows it. The number of steps is bounded
by the length of the text: each step takes at least one character.
-/

namespace ReplicaSync.Json

/-- The blanks between tokens. -/
def isSpace (c : Char) : Bool := c = ' ' || c = '\t' || c = '\n' || c = '\r'

def skipSpace (s : List Char) : List Char := s.dropWhile isSpace

def isDigit (c : Char) : Bool := '0' ≤ c && c ≤ '9'

/-- The value of four digits in base sixteen. -/
def hex4? (a b c d : Char) : Option Nat := Text.hexNumber? [a, b, c, d]

/-- The character that stands behind a backslash, the form with digits apart. -/
def unescape? (c : Char) : Option Char :=
  if c = '"' then some '"'
  else if c = '\\' then some '\\'
  else if c = '/' then some '/'
  else if c = 'b' then some (Char.ofNat 0x8)
  else if c = 'f' then some (Char.ofNat 0xC)
  else if c = 'n' then some '\n'
  else if c = 'r' then some '\r'
  else if c = 't' then some '\t'
  else none

/-- The character for a pair of surrogates. -/
def joinSurrogates (high low : Nat) : Char :=
  Char.ofNat (0x10000 + (high - 0xD800) * 0x400 + (low - 0xDC00))

/-- Puts a character in front of what a reader of strings returned. -/
def consChar (c : Char) : Option (List Char × List Char) → Option (List Char × List Char)
  | some (s, rest) => some (c :: s, rest)
  | none => none

/-- Reads a string behind its opening quote. A surrogate must be one half of a pair. -/
def readString : List Char → Option (List Char × List Char)
  | [] => none
  | '"' :: rest => some ([], rest)
  | '\\' :: 'u' :: a :: b :: c :: d :: rest =>
    match hex4? a b c d with
    | none => none
    | some high =>
      if 0xD800 ≤ high && high ≤ 0xDBFF then
        match rest with
        | '\\' :: 'u' :: e :: f :: g :: h :: rest =>
          match hex4? e f g h with
          | none => none
          | some low =>
            if 0xDC00 ≤ low && low ≤ 0xDFFF then
              consChar (joinSurrogates high low) (readString rest)
            else none
        | _ => none
      else if 0xDC00 ≤ high && high ≤ 0xDFFF then none
      else consChar (Char.ofNat high) (readString rest)
  | '\\' :: c :: rest =>
    match unescape? c with
    | some c => consChar c (readString rest)
    | none => none
  | c :: rest =>
    if c.toNat < 0x20 || c = '\\' then none else consChar c (readString rest)

/-- The number with these digits. -/
def natOfDigits (digits : List Char) : Nat :=
  digits.foldl (fun n c => n * 10 + (c.toNat - 48)) 0

/-- Splits the digits off the front; there must be one. -/
def readDigits (s : List Char) : Option (List Char × List Char) :=
  match s.takeWhile isDigit with
  | [] => none
  | digits => some (digits, s.dropWhile isDigit)

/-- The whole part of a number has no zero in front of another digit. -/
def readWhole (s : List Char) : Option (List Char × List Char) :=
  match readDigits s with
  | some ('0' :: _ :: _, _) => none
  | found => found

/-- The digits behind a point, if there is one. -/
def readFraction : List Char → Option (Option (List Char) × List Char)
  | '.' :: rest => (readDigits rest).map fun (digits, rest) => (some digits, rest)
  | s => some (none, s)

/-- The exponent, if there is one. -/
def readExponent : List Char → Option (Option Int × List Char)
  | c :: rest =>
    if c = 'e' || c = 'E' then
      match rest with
      | '-' :: rest =>
        (readDigits rest).map fun (digits, rest) => (some (-(natOfDigits digits : Int)), rest)
      | '+' :: rest =>
        (readDigits rest).map fun (digits, rest) => (some (natOfDigits digits : Int), rest)
      | rest =>
        (readDigits rest).map fun (digits, rest) => (some (natOfDigits digits : Int), rest)
    else some (none, c :: rest)
  | [] => some (none, [])

/-- The number with these parts. A zero with a minus is no integer, since integers have no such
zero. -/
def numberOf (isNegative : Bool) (whole : List Char) (fraction : Option (List Char))
    (exponent : Option Int) : Json :=
  match fraction, exponent with
  | none, none =>
    let value := natOfDigits whole
    if !isNegative then .int value
    else if value = 0 then .real true 0 0
    else .int (-value)
  | fraction, exponent =>
    let digits := fraction.getD []
    .real isNegative (natOfDigits (whole ++ digits)) (exponent.getD 0 - digits.length)

def readNumber (s : List Char) : Option (Json × List Char) :=
  let (isNegative, s) := match s with
    | '-' :: rest => (true, rest)
    | s => (false, s)
  match readWhole s with
  | none => none
  | some (whole, s) =>
    match readFraction s with
    | none => none
    | some (fraction, s) =>
      (readExponent s).map fun (exponent, s) => (numberOf isNegative whole fraction exponent, s)

/-- Reads the fixed word `word` as the value `j`. -/
def readWord (word : String) (j : Json) (s : List Char) : Option (Json × List Char) :=
  if word.toList.isPrefixOf s then some (j, s.drop word.length) else none

mutual

/-- Reads one value, in at most `fuel` steps. -/
def readValue : Nat → List Char → Option (Json × List Char)
  | 0, _ => none
  | fuel + 1, s =>
    match skipSpace s with
    | '"' :: rest => (readString rest).map fun (text, rest) => (.str (String.ofList text), rest)
    | '[' :: rest =>
      match skipSpace rest with
      | ']' :: rest => some (.arr [], rest)
      | rest => (readItems fuel rest).map fun (items, rest) => (.arr items, rest)
    | '\x7b' :: rest =>
      match skipSpace rest with
      | '\x7d' :: rest => some (.obj [], rest)
      | rest => (readMembers fuel rest).map fun (members, rest) => (.obj members, rest)
    | 't' :: rest => readWord "true" (.bool true) ('t' :: rest)
    | 'f' :: rest => readWord "false" (.bool false) ('f' :: rest)
    | 'n' :: rest => readWord "null" .null ('n' :: rest)
    | rest => readNumber rest

/-- Reads the items of an array and its closing bracket. -/
def readItems : Nat → List Char → Option (List Json × List Char)
  | 0, _ => none
  | fuel + 1, s =>
    match readValue fuel s with
    | none => none
    | some (item, rest) =>
      match skipSpace rest with
      | ',' :: rest => (readItems fuel rest).map fun (items, rest) => (item :: items, rest)
      | ']' :: rest => some ([item], rest)
      | _ => none

/-- Reads the members of an object and its closing brace. -/
def readMembers : Nat → List Char → Option (List (String × Json) × List Char)
  | 0, _ => none
  | fuel + 1, s =>
    match skipSpace s with
    | '"' :: rest =>
      match readString rest with
      | none => none
      | some (key, rest) =>
        match skipSpace rest with
        | ':' :: rest =>
          match readValue fuel rest with
          | none => none
          | some (value, rest) =>
            match skipSpace rest with
            | ',' :: rest =>
              (readMembers fuel rest).map fun (members, rest) =>
                ((String.ofList key, value) :: members, rest)
            | '\x7d' :: rest => some ([(String.ofList key, value)], rest)
            | _ => none
        | _ => none
    | _ => none

end

/-- The value that a text writes. -/
def parse? (s : String) : Option Json :=
  match readValue (s.length + 1) s.toList with
  | some (j, rest) => if skipSpace rest = [] then some j else none
  | none => none

end ReplicaSync.Json
