import ReplicaSync.Pattern.Brackets
import ReplicaSync.Pattern.Search
import ReplicaSync.Text.Alphanumeric

/-!
# Reading patterns

A pattern has branches, and a branch has items: characters, points, places, classes and groups, each
with a sign behind it if it is repeated. Counted repetitions and properties of characters are
refused, and so is a pattern that is nested too deep. Each step of a reader takes at least one
character, so the length of the text bounds the number of steps.
-/

namespace ReplicaSync

/-- Why a pattern is refused. -/
inductive PatternFault where
  | unreadable
  /-- It asks for the edge of a word, and not of a word of ASCII. -/
  | unicodeWord
  deriving DecidableEq, Repr

def PatternFault.message : PatternFault → String
  | .unreadable => "error building NFA"
  | .unicodeWord =>
    "unsupported regex feature for DFAs: cannot build DFAs for regexes with Unicode word " ++
      "boundaries; switch to ASCII word boundaries, or heuristically enable Unicode word " ++
      "boundaries or use a different regex engine"

namespace Pattern

/-! ### Items -/

/-- An item of a branch. -/
structure Item where
  pattern : Pattern
  height : Nat
  /-- Flags stand between items and cannot be repeated. -/
  isFlags : Bool

/-- A character outside brackets. -/
def ofChar? (flags : Flags) (c : Char) : Option Pattern :=
  if flags.asksTables then none
  else some (if flags.anyCase then ofSet false (flags.fold (.one c)) else .literal [c])

/-- What a backslash stands for outside brackets. -/
def ofEscape? (flags : Flags) : Escape → Option Pattern
  | .char c => ofChar? flags c
  | .byte c => if flags.isUnicode || c.toNat < 0x80 then ofChar? flags c else none
  | .at place => some (.at place)
  | escape => (escape.set? flags).map (ofSet false)

/-- Reads an item that is no group. -/
def readItem (flags : Flags) : List Char → Option (Item × List Char)
  | [] => none
  | '.' :: rest => flags.point?.map fun point => (⟨point, 0, false⟩, rest)
  | '^' :: rest => some (⟨.at flags.startPlace, 0, false⟩, rest)
  | '$' :: rest => some (⟨.at flags.endPlace, 0, false⟩, rest)
  | '\\' :: rest => do
    let (escape, rest) ← Escape.read flags rest
    return (⟨← ofEscape? flags escape, 0, false⟩, rest)
  | '[' :: rest =>
    (BracketClass.read flags rest).map fun (cls, rest) =>
      (⟨ofSet flags.isUnicode cls.set, cls.height, false⟩, rest)
  | c :: rest =>
    if c = '\x7b' then none
    else (ofChar? flags c).map fun pattern => (⟨pattern, 0, false⟩, rest)

/-- The repetition that a sign stands for. -/
def repetition? (c : Char) : Option Repetition :=
  if c = '*' then some .many
  else if c = '+' then some .oneOrMore
  else if c = '?' then some .optional
  else none

/-- The item repeated. A question mark behind the sign makes the other choice of what is
preferred. -/
def Item.repeat? (flags : Flags) (times : Repetition) (isMarked : Bool) (item : Item) :
    Option Item :=
  if item.isFlags then none
  else some ⟨repeats times (isMarked == flags.isLazy) item.pattern, item.height + 1, false⟩

/-- The items one after the other. -/
def Item.sequence : List Item → Item
  | [] => ⟨.empty, 0, false⟩
  | [item] => item
  | items =>
    ⟨Pattern.sequence (items.map pattern), (items.map height).foldl max 0 + 1, false⟩

/-- One of the branches. -/
def Item.choice : List Item → Item
  | [branch] => branch
  | branches =>
    ⟨Pattern.choice (branches.map pattern), (branches.map height).foldl max 0 + 1, false⟩

/-! ### Groups -/

/-- A group that is open. -/
structure OpenGroup where
  number : Option Nat
  /-- The flags that were in force when it was opened. -/
  outside : Flags
  /-- The branches that are complete, the last one first. -/
  branches : List Item
  /-- The items of the last branch, the last one first. -/
  items : List Item

namespace OpenGroup

def start (number : Option Nat) (outside : Flags) : OpenGroup := ⟨number, outside, [], []⟩

def add (group : OpenGroup) (item : Item) : OpenGroup := { group with items := item :: group.items }

/-- The next branch begins. -/
def branch (group : OpenGroup) : OpenGroup :=
  { group with branches := Item.sequence group.items.reverse :: group.branches, items := [] }

/-- What the group holds, if it ends here. -/
def content (group : OpenGroup) : Item := Item.choice group.branch.branches.reverse

/-- The group as an item, if it ends here. -/
def close (group : OpenGroup) : Item :=
  let content := group.content
  let pattern := match group.number with
    | some number => .group number content.pattern
    | none => content.pattern
  ⟨pattern, content.height + 1, false⟩

/-- Repeats the last item; there has to be one. -/
def repeat? (group : OpenGroup) (flags : Flags) (times : Repetition) (isMarked : Bool) :
    Option OpenGroup :=
  match group.items with
  | [] => none
  | item :: items =>
    (item.repeat? flags times isMarked).map fun item => { group with items := item :: items }

end OpenGroup

/-- A character of the name of a group. -/
def isNameCharacter (isFirst : Bool) (c : Char) : Bool :=
  if isFirst then c = '_' || Text.isAlphabetic c
  else c = '_' || c = '.' || c = '[' || c = ']' || Text.isAlphanumeric c

/-- Reads the name of a group up to the bracket behind it. -/
def readName (text : List Char) : Option (String × List Char) :=
  let name := text.takeWhile (· ≠ '>')
  match text.drop name.length with
  | [] => none
  | _ :: rest =>
    let isName := name ≠ [] && (name.take 1).all (isNameCharacter true) &&
      (name.drop 1).all (isNameCharacter false)
    if isName then some (String.ofList name, rest) else none

/-! ### Patterns -/

/-- A pattern that is being read. -/
structure Reading where
  flags : Flags
  group : OpenGroup
  /-- The groups around it, the innermost first. -/
  outer : List OpenGroup
  /-- The groups opened so far that have numbers, by their names if they have one. -/
  names : List (Option String)
  /-- It asks for the edge of a word of Unicode. -/
  asksUnicodeWord : Bool

namespace Reading

def start : Reading := ⟨.initial, .start none .initial, [], [], false⟩

def add (reading : Reading) (item : Item) : Reading :=
  let asksWord := match item.pattern with
    | .at (.word _) => reading.flags.isUnicode
    | _ => false
  { reading with
    group := reading.group.add item, asksUnicodeWord := reading.asksUnicodeWord || asksWord }

/-- Opens a group with a number. -/
def openNumbered (reading : Reading) (name : Option String) : Reading :=
  { reading with
    group := .start (some reading.names.length) reading.flags
    outer := reading.group :: reading.outer
    names := name :: reading.names }

/-- Opens a group without a number, in which these flags are in force. -/
def openPlain (reading : Reading) (flags : Flags) : Reading :=
  { reading with
    flags := flags, group := .start none reading.flags, outer := reading.group :: reading.outer }

/-- Opens a group with a name, which no other group has. -/
def openNamed (reading : Reading) (text : List Char) : Option (Reading × List Char) :=
  (readName text).bind fun (name, rest) =>
    if reading.names.contains (some name) then none
    else some (reading.openNumbered (some name), rest)

/-- Reads what is behind an opening bracket: a question mark gives a name to the group, or sets
flags, in the group or from here on. -/
def openGroup (reading : Reading) (text : List Char) : Option (Reading × List Char) :=
  match reading.flags.skip text with
  | '?' :: 'P' :: '<' :: rest => reading.openNamed rest
  | '?' :: '<' :: rest => reading.openNamed rest
  | '?' :: rest =>
    match reading.flags.readFrom [] rest with
    | some (flags, _, ':' :: rest) => some (reading.openPlain flags, rest)
    | some (flags, read, _ :: rest) =>
      let group := reading.group.add ⟨.empty, 0, true⟩
      if read = [] then none else some ({ reading with flags := flags, group := group }, rest)
    | _ => none
  | rest => some (reading.openNumbered none, rest)

/-- Closes the innermost group. -/
def closeGroup (reading : Reading) : Option Reading :=
  match reading.outer with
  | [] => none
  | around :: outer =>
    some { reading with
      flags := reading.group.outside
      group := around.add reading.group.close
      outer := outer }

/-- How deep a pattern may be nested. -/
def greatestHeight : Nat := 250

/-- The pattern, if it ends here. -/
def finish (reading : Reading) : Except PatternFault Pattern :=
  let content := reading.group.content
  if !reading.outer.isEmpty || greatestHeight < content.height then .error .unreadable
  else if reading.asksUnicodeWord then .error .unicodeWord
  else .ok content.pattern

end Reading

/-- Reads a repetition or another item. -/
def readNext (reading : Reading) (c : Char) (rest : List Char) : Option (Reading × List Char) :=
  match repetition? c with
  | some times =>
    let isMarked := rest.head? = some '?'
    (reading.group.repeat? reading.flags times isMarked).map fun group =>
      ({ reading with group := group }, if isMarked then rest.drop 1 else rest)
  | none => (readItem reading.flags (c :: rest)).map fun (item, rest) => (reading.add item, rest)

/-- Reads one part of a pattern behind white space. -/
def readPart (reading : Reading) (c : Char) (rest : List Char) : Option (Reading × List Char) :=
  if c = '(' then reading.openGroup rest
  else if c = ')' then reading.closeGroup.map fun reading => (reading, rest)
  else if c = '|' then some ({ reading with group := reading.group.branch }, rest)
  else readNext reading c rest

/-- Reads the rest of a pattern, in at most so many steps. -/
def readParts : Nat → Reading → List Char → Except PatternFault Pattern
  | 0, _, _ => .error .unreadable
  | steps + 1, reading, text =>
    match reading.flags.skip text with
    | [] => reading.finish
    | c :: rest =>
      match readPart reading c rest with
      | some (reading, rest) => readParts steps reading rest
      | none => .error .unreadable

/-- Reads a pattern. -/
def ofText (text : List Char) : Except PatternFault Pattern :=
  readParts (text.length + 1) .start text

/-! ### Examples -/

example : (ofText "(ll|l)".toList).toOption.map (·.endsText "pull") = some true := by decide +kernel

example : (ofText "l|ll".toList).toOption.map (·.endsText "pull") = some false := by decide +kernel

example : (ofText "u??ll".toList).toOption.map (·.endsText "pull") = some true := by decide +kernel

example : (ofText "^ull$".toList).toOption.map (·.endsText "pull") = some false := by decide +kernel

example : (ofText "l**?".toList).toOption.map (·.endsText "pull") = some false := by decide +kernel

example : (ofText "l((?-u:\\B)|l)*".toList).toOption.map (·.endsText "pull") = some false := by
  decide +kernel

example : (ofText "(?i)[[^&&]]+".toList).toOption.map (·.endsText "pull") = some true := by
  decide +kernel

example : (ofText "(?i)[p-u]".toList).toOption = none := by decide +kernel

example : (ofText "[^l".toList).toOption = none := by decide +kernel

end Pattern

end ReplicaSync
