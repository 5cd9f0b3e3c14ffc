import ReplicaSync.Pattern.Basic
import ReplicaSync.Text.Blank

/-!
# Flags of a pattern

Flags say how the rest of a group is to be read: whether case counts, where lines end, what
a point and a class stand for, and whether white space and comments are passed over. There are no
tables of Unicode here, so what would need one cannot be read.
-/

namespace ReplicaSync.Pattern

/-- How a part of a pattern is to be read. -/
structure Flags where
  /-- Letters stand for both of their cases. -/
  anyCase : Bool
  /-- The ends of lines count as ends of the text do. -/
  inLines : Bool
  /-- A point stands for the end of a line too. -/
  acrossLines : Bool
  /-- Repetitions are lazy unless marked. -/
  isLazy : Bool
  /-- Classes and words are those of Unicode, and not of ASCII. -/
  isUnicode : Bool
  /-- A return ends a line as well. -/
  isCrlf : Bool
  /-- White space and comments are passed over. -/
  isSpaced : Bool
  deriving DecidableEq, Repr

namespace Flags

/-- The flags at the start of a pattern. -/
def initial : Flags := ⟨false, false, false, false, true, false, false⟩

/-- Sets the flag with this letter. -/
def set? (flags : Flags) (letter : Char) (value : Bool) : Option Flags :=
  if letter = 'i' then some { flags with anyCase := value }
  else if letter = 'm' then some { flags with inLines := value }
  else if letter = 's' then some { flags with acrossLines := value }
  else if letter = 'U' then some { flags with isLazy := value }
  else if letter = 'u' then some { flags with isUnicode := value }
  else if letter = 'R' then some { flags with isCrlf := value }
  else if letter = 'x' then some { flags with isSpaced := value }
  else none

/-- Reads flags up to the colon or the bracket behind them. Those behind a minus are put out. None
may stand twice, nor the minus, which may not be the last. Also returns what was read. -/
def readFrom (flags : Flags) (read : List Char) :
    List Char → Option (Flags × List Char × List Char)
  | [] => none
  | c :: rest =>
    if c = ':' || c = ')' then
      if read.head? = some '-' then none else some (flags, read, c :: rest)
    else if read.contains c then none
    else if c = '-' then readFrom flags (c :: read) rest
    else match flags.set? c (!read.contains '-') with
      | some flags => readFrom flags (c :: read) rest
      | none => none

/-- Passes over white space and comments. A comment ends with its line. -/
def dropSpace (inComment : Bool) : List Char → List Char
  | [] => []
  | c :: rest =>
    if inComment then dropSpace (c ≠ '\n') rest
    else if Text.isBlank c then dropSpace false rest
    else if c = '#' then dropSpace true rest
    else c :: rest

/-- What is left to be read. -/
def skip (flags : Flags) (text : List Char) : List Char :=
  if flags.isSpaced then dropSpace false text else text

/-- The next character behind white space, and behind a sign that opens a comment. -/
def peek? (flags : Flags) (text : List Char) : Option Char :=
  if flags.isSpaced then
    match text.dropWhile Text.isBlank with
    | '#' :: rest => (rest.dropWhile Text.isBlank).head?
    | rest => rest.head?
  else text.head?

/-! ### What the signs stand for -/

/-- Letters of Unicode stand for both of their cases, which only tables could tell. -/
def asksTables (flags : Flags) : Bool := flags.anyCase && flags.isUnicode

/-- A set with both cases of its letters, if case does not count. In Unicode the only sets are then
the one without characters and the one of all, which have both cases as they are. -/
def fold (flags : Flags) (set : CharSet) : CharSet :=
  if flags.anyCase && !flags.isUnicode then set.anyCase else set

/-- The complement of a set; in ASCII it would hold parts of characters. -/
def complement? (flags : Flags) (set : CharSet) : Option CharSet :=
  if flags.isUnicode then some set.complement else none

/-- What a point stands for. -/
def point? (flags : Flags) : Option Pattern :=
  if !flags.isUnicode then none
  else if flags.acrossLines then some (.ofSet true .all)
  else
    let newline := CharSet.one '\n'
    let ends := if flags.isCrlf then newline.union (.one '\r') else newline
    some (.ofSet true ends.complement)

/-- The place for which the sign of a beginning stands. -/
def startPlace (flags : Flags) : Place :=
  if flags.inLines then .lineStart flags.isCrlf else .textStart

/-- The place for which the sign of an end stands. -/
def endPlace (flags : Flags) : Place :=
  if flags.inLines then .lineEnd flags.isCrlf else .textEnd

end Flags

end ReplicaSync.Pattern
