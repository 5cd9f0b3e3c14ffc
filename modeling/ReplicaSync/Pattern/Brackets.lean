import ReplicaSync.Pattern.Escape

/-!
# Classes in brackets

A class has characters, ranges of them, named classes and other classes as members. It may be
negated, and classes are joined by `&&`, `--` and `~~` from the left to the right. The height of
a class tells how deep it is nested.
-/

namespace ReplicaSync.Pattern

/-! ### Members -/

/-- A member of a class. -/
inductive Member where
  | single (c : Char)
  | several (set : CharSet)

namespace Member

/-- The member that is a character; a class of ASCII has no others. -/
def ofChar? (flags : Flags) (c : Char) : Option Member :=
  if flags.isUnicode || c.toNat < 0x80 then some (.single c) else none

/-- The member behind a backslash. -/
def ofEscape? (flags : Flags) : Escape → Option Member
  | .char c | .byte c => ofChar? flags c
  | escape => (escape.set? flags).map .several

/-- Reads a member that stands alone or at an end of a range. -/
def read (flags : Flags) : List Char → Option (Member × List Char)
  | [] => none
  | '\\' :: rest => do
    let (escape, rest) ← Escape.read flags rest
    return (← ofEscape? flags escape, rest)
  | c :: rest => (ofChar? flags c).map fun member => (member, rest)

def toSet : Member → CharSet
  | .single c => .one c
  | .several set => set

/-- The range between two members that are characters. -/
def to? : Member → Member → Option CharSet
  | .single first, .single last =>
    if first.toNat ≤ last.toNat then some (.range first last) else none
  | _, _ => none

/-- Reads a member or a range. A dash in front of the closing bracket, or of another dash, makes no
range. -/
def readRange (flags : Flags) (text : List Char) : Option (CharSet × List Char) := do
  let (first, rest) ← read flags text
  match flags.skip rest with
  | '-' :: behind =>
    let next := flags.peek? behind
    if next = some ']' || next = some '-' then return (first.toSet, '-' :: behind)
    else
      let (last, rest) ← read flags (flags.skip behind)
      return (← first.to? last, rest)
  | rest => return (first.toSet, rest)

end Member

/-- Reads a named class behind its opening bracket: a name between colons. -/
def readNamed (flags : Flags) (text : List Char) : Option (Option CharSet × List Char) :=
  let marked := text.drop 1
  let isNegated := marked.head? = some '^'
  let body := if isNegated then marked.drop 1 else marked
  let name := body.takeWhile (· ≠ ':')
  match text.head?, body.drop name.length with
  | some ':', ':' :: ']' :: rest =>
    (CharSet.named.lookup (String.ofList name)).map fun set =>
      let set := flags.fold set
      (if isNegated then flags.complement? set else some set, rest)
  | _, _ => none

/-- The operation whose sign comes next. -/
def operation? : List Char → Option (CharSet → CharSet → CharSet)
  | '&' :: '&' :: _ => some .meet
  | '-' :: '-' :: _ => some .without
  | '~' :: '~' :: _ => some .either
  | _ => none

/-! ### Classes -/

/-- A class, and how deep it is nested. -/
structure BracketClass where
  set : CharSet
  height : Nat

/-- A class that is open: the members read so far, and what they are joined to. -/
structure OpenClass where
  isNegated : Bool
  /-- Nothing but dashes was read so far. -/
  isFresh : Bool
  left : Option ((CharSet → CharSet → CharSet) × BracketClass)
  members : CharSet
  count : Nat
  /-- The height of the highest member. -/
  height : Nat

namespace OpenClass

/-- One more member. -/
def add (cls : OpenClass) (member : CharSet) (height : Nat) : OpenClass :=
  { cls with
    isFresh := false, members := member.union cls.members, count := cls.count + 1,
    height := max cls.height height }

/-- One more member that is written out as characters or with a name. -/
def write? (flags : Flags) (cls : OpenClass) (member : CharSet) : Option OpenClass :=
  if flags.asksTables then none else some (cls.add member 0)

/-- A dash at the start stands for itself, and it is still the start behind it. -/
def writeDash? (flags : Flags) (cls : OpenClass) : Option OpenClass :=
  (cls.write? flags (.one '-')).map fun cls => { cls with isFresh := true }

/-- What the members are when they are joined to what came before. -/
def joined (flags : Flags) (cls : OpenClass) : BracketClass :=
  let height := if 2 ≤ cls.count then cls.height + 1 else cls.height
  match cls.left with
  | none => ⟨cls.members, height⟩
  | some (operation, left) =>
    let set := operation (flags.fold left.set) (flags.fold cls.members)
    ⟨set, max left.height height + 1⟩

/-- The members read so far are the left side of an operation. -/
def operate (flags : Flags) (cls : OpenClass) (operation : CharSet → CharSet → CharSet) :
    OpenClass :=
  ⟨cls.isNegated, false, some (operation, cls.joined flags), .none, 0, 0⟩

/-- The class, if it ends here. -/
def close? (flags : Flags) (cls : OpenClass) : Option BracketClass :=
  let joined := cls.joined flags
  let set := flags.fold joined.set
  (if cls.isNegated then flags.complement? set else some set).map fun set =>
    ⟨set, joined.height + 1⟩

/-- Opens a class behind its bracket. -/
def start (flags : Flags) (text : List Char) : OpenClass × List Char :=
  match flags.skip text with
  | '^' :: rest => (⟨true, true, none, .none, 0, 0⟩, rest)
  | rest => (⟨false, true, none, .none, 0, 0⟩, rest)

end OpenClass

/-- Reads the rest of a class inside the classes `outer`, the innermost first, in at most so many
steps. A closing bracket that comes first stands for itself. -/
def readClass (flags : Flags) :
    Nat → OpenClass → List OpenClass → List Char → Option (BracketClass × List Char)
  | 0, _, _, _ => none
  | steps + 1, cls, outer, text =>
    match flags.skip text with
    | [] => none
    | ']' :: rest =>
      if cls.isFresh && cls.count = 0 then do
        readClass flags steps (← cls.write? flags (.one ']')) outer rest
      else do
        let closed ← cls.close? flags
        match outer with
        | [] => return (closed, rest)
        | around :: outer => readClass flags steps (around.add closed.set closed.height) outer rest
    | '[' :: rest =>
      match readNamed flags rest with
      | some (set?, rest) => do
        readClass flags steps (← cls.write? flags (← set?)) outer rest
      | none =>
        let (inner, rest) := OpenClass.start flags rest
        readClass flags steps inner (cls :: outer) rest
    | c :: rest =>
      if c = '-' && cls.isFresh then do
        readClass flags steps (← cls.writeDash? flags) outer rest
      else match operation? (c :: rest) with
        | some operation => readClass flags steps (cls.operate flags operation) outer (rest.drop 1)
        | none => do
          let (set, rest) ← Member.readRange flags (c :: rest)
          readClass flags steps (← cls.write? flags set) outer rest

/-- Reads a class behind its opening bracket. -/
def BracketClass.read (flags : Flags) (text : List Char) : Option (BracketClass × List Char) :=
  let (cls, rest) := OpenClass.start flags text
  readClass flags (rest.length + 1) cls [] rest

end ReplicaSync.Pattern
