import ReplicaSync.Pattern.Flags
import ReplicaSync.Text.Hexadecimal

/-!
# Behind a backslash

A backslash takes its meaning from a sign, and gives one to a letter: a control, a code point,
a class, or a place. There are no references back to groups.
-/

namespace ReplicaSync.Pattern

/-- What a backslash stands for, with the character behind it. -/
inductive Escape where
  | char (c : Char)
  /-- A code point of two digits, which is a byte of a text in ASCII. -/
  | byte (c : Char)
  | oneOf (set : CharSet)
  /-- What is not in the set. -/
  | noneOf (set : CharSet)
  | at (place : Place)

namespace Escape

/-- The character with this code point, if there is one. -/
def charAt? (code : Nat) : Option Char :=
  if code.isValidChar then some (Char.ofNat code) else none

/-- A mark of ASCII that stands for itself behind a backslash. -/
def isMark (c : Char) : Bool := c.toNat < 0x80 && !c.isAlphanum && c ≠ '<' && c ≠ '>'

/-- What a single character stands for. -/
def ofChar? (c : Char) : Option Escape :=
  if isMark c then some (.char c)
  else if c = 'a' then some (.char (Char.ofNat 0x7))
  else if c = 'f' then some (.char (Char.ofNat 0xC))
  else if c = 'n' then some (.char '\n')
  else if c = 'r' then some (.char '\r')
  else if c = 't' then some (.char '\t')
  else if c = 'v' then some (.char (Char.ofNat 0xB))
  else if c = 'd' then some (.oneOf .digits)
  else if c = 's' then some (.oneOf .spaces)
  else if c = 'w' then some (.oneOf .wordCharacters)
  else if c = 'D' then some (.noneOf .digits)
  else if c = 'S' then some (.noneOf .spaces)
  else if c = 'W' then some (.noneOf .wordCharacters)
  else if c = 'A' then some (.at .textStart)
  else if c = 'z' then some (.at .textEnd)
  else if c = 'b' then some (.at (.word .edge))
  else if c = 'B' then some (.at (.word .noEdge))
  else if c = '<' then some (.at (.word .start))
  else if c = '>' then some (.at (.word .stop))
  else none

/-- Reads so many digits. -/
def readDigits (flags : Flags) : Nat → List Char → Option (List Char × List Char)
  | 0, text => some ([], flags.skip text)
  | count + 1, text =>
    match flags.skip text with
    | [] => none
    | digit :: rest =>
      (readDigits flags count rest).map fun (digits, rest) => (digit :: digits, rest)

/-- Reads the character whose code point has so many digits. -/
def readCode (flags : Flags) (count : Nat) (text : List Char) : Option (Char × List Char) := do
  let (digits, rest) ← readDigits flags count text
  return (← charAt? (← Text.hexNumber? digits), rest)

/-- Reads what is behind a backslash. -/
def read (flags : Flags) : List Char → Option (Escape × List Char)
  | [] => none
  | 'x' :: rest => (readCode flags 2 rest).map fun (c, rest) => (.byte c, rest)
  | 'u' :: rest => (readCode flags 4 rest).map fun (c, rest) => (.char c, rest)
  | 'U' :: rest => (readCode flags 8 rest).map fun (c, rest) => (.char c, rest)
  | c :: rest => (ofChar? c).map fun escape => (escape, rest)

/-- The set that it names as a class, which is always one of ASCII. -/
def set? (flags : Flags) : Escape → Option CharSet
  | .oneOf set => if flags.isUnicode then none else some set
  | _ => none

end Escape

end ReplicaSync.Pattern
