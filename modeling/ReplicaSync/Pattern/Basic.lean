import ReplicaSync.Pattern.CharSet
import ReplicaSync.Pattern.Place

/-!
# Patterns

A pattern describes texts. Its branches are ordered by preference, and a repetition prefers to go
on, or to stop if it is lazy.

Patterns are simplified as they are put together: characters that follow one another are one
literal, branches that are one character each are a set, and branches that all begin with the same
items share them. The last rule can change what is preferred, since the shared items are matched
before a branch is chosen.
-/

namespace ReplicaSync

/-- How often something is repeated. -/
inductive Repetition where
  | optional
  | many
  | oneOrMore
  deriving DecidableEq, Repr

inductive Pattern where
  | empty
  | literal (chars : List Char)
  /-- A character of a set. Sets of Unicode and of ASCII are different items even if they have the
  same characters. -/
  | one (isUnicode : Bool) (set : CharSet)
  | at (place : Place)
  | repeated (times : Repetition) (isGreedy : Bool) (body : Pattern)
  /-- A group; two groups of a pattern have different numbers. -/
  | group (number : Nat) (body : Pattern)
  | both (first rest : Pattern)
  | either (first rest : Pattern)
  deriving DecidableEq, Repr

namespace Pattern

/-! ### Items -/

/-- What a pattern consists of, in order. -/
def items : Pattern → List Pattern
  | .empty => []
  | .both first rest => first.items ++ rest.items
  | pattern => [pattern]

/-- Texts that follow one another become one. -/
def joinLiterals : List Pattern → List Pattern
  | [] => []
  | .literal chars :: rest =>
    match joinLiterals rest with
    | .literal more :: rest => .literal (chars ++ more) :: rest
    | rest => .literal chars :: rest
  | item :: rest => item :: joinLiterals rest

/-- The items one after the other. -/
def ofItems : List Pattern → Pattern
  | [] => .empty
  | [item] => item
  | item :: rest => .both item (ofItems rest)

/-- The parts one after the other. -/
def sequence (parts : List Pattern) : Pattern := ofItems (joinLiterals (parts.flatMap items))

/-- A character of the set; there is only one set without characters. -/
def ofSet (isUnicode : Bool) (set : CharSet) : Pattern :=
  match set.single? with
  | some c => .literal [c]
  | none => .one (isUnicode && set ≠ .none) set

/-! ### Branches -/

/-- The branches of a pattern, the preferred ones first. -/
def branches : Pattern → List Pattern
  | .either first rest => first.branches ++ rest.branches
  | pattern => [pattern]

/-- The set of a pattern that is one character. -/
def character? : Pattern → Option CharSet
  | .literal [c] => some (.one c)
  | _ => none

/-- The set of a pattern that is a set. -/
def set? : Pattern → Option CharSet
  | .one _ set => some set
  | _ => none

/-- The set that the branches stand for, if all are characters or all are sets. -/
def commonSet? (branches : List Pattern) : Option CharSet :=
  match branches.mapM character? with
  | some sets => some (sets.foldl .union .none)
  | none => (branches.mapM set?).map fun sets => sets.foldl .union .none

/-- One of the branches. -/
def ofBranches : List Pattern → Pattern
  | [] => .one false .none
  | [branch] => branch
  | branch :: rest => .either branch (ofBranches rest)

/-- One of the branches, or a character of a set. -/
def oneOf (parts : List Pattern) : Pattern :=
  let parts := parts.flatMap branches
  match commonSet? parts with
  | some set => ofSet true set
  | none => ofBranches parts

/-- The items with which both lists begin. -/
def sharedItems : List Pattern → List Pattern → List Pattern
  | a :: as, b :: bs => if a = b then a :: sharedItems as bs else []
  | _, _ => []

/-- The items with which all branches begin, if each has two items at least. -/
def sharedStart (parts : List (List Pattern)) : List Pattern :=
  match parts with
  | [] => []
  | first :: rest => if parts.all (2 ≤ ·.length) then rest.foldl sharedItems first else []

/-- One of the parts, the preferred ones first. -/
def choice (parts : List Pattern) : Pattern :=
  let parts := parts.flatMap branches
  match commonSet? parts with
  | some set => ofSet true set
  | none =>
    let shared := sharedStart (parts.map items)
    if shared = [] then ofBranches parts
    else
      let rests := parts.map fun part => sequence (part.items.drop shared.length)
      sequence (shared ++ [oneOf rests])

/-! ### Repetitions -/

/-- The pattern matches nothing but the empty text. -/
def isEmpty : Pattern → Bool
  | .empty | .at _ => true
  | .literal _ | .one _ _ => false
  | .repeated _ _ body | .group _ body => body.isEmpty
  | .both first rest | .either first rest => first.isEmpty && rest.isEmpty

/-- Repeats a pattern. To repeat the empty text is of no use, so it is done once at most. -/
def repeats (times : Repetition) (isGreedy : Bool) (body : Pattern) : Pattern :=
  if body.isEmpty then
    match times with
    | .oneOrMore => body
    | _ => .repeated .optional isGreedy body
  else .repeated times isGreedy body

/-- The least length of a match. A set without characters has none, and hides it. -/
def leastLength? : Pattern → Option Nat
  | .empty | .at _ => some 0
  | .literal chars => some chars.length
  | .one _ set => if set = .none then none else some 1
  | .repeated .oneOrMore _ body | .group _ body => body.leastLength?
  | .repeated _ _ body => body.leastLength?.map fun _ => 0
  | .both first rest => do return (← first.leastLength?) + (← rest.leastLength?)
  | .either first rest => do return min (← first.leastLength?) (← rest.leastLength?)

/-- Every match has a character. -/
def takesCharacter (pattern : Pattern) : Bool := pattern.leastLength?.any (0 < ·)

/-! ### Examples -/

example : sequence [.literal ['a'], .empty, .literal ['b']] = .literal ['a', 'b'] := by decide

example : choice [.literal ['a'], .literal ['b']] = .one true (.range 'a' 'b') := by decide

example (p : Pattern) : ofItems (joinLiterals [.group 0 p]) = .group 0 p := rfl

end Pattern

end ReplicaSync
