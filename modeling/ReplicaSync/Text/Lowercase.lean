import ReplicaSync.Text.Cased

/-!
# Lower-casing of text

Every letter has its own lower-case form, with two exceptions: the dotted capital I becomes two
characters, and a capital sigma takes its final form at the end of a word. Names are compared
after lower-casing, so a name is recognised in any case.
-/

namespace ReplicaSync.Text

/-- The capital sigma, the only letter whose lower-case form depends on its neighbours. -/
def capitalSigma : Char := Char.ofNat 0x3A3

/-- The lower-case form of a character outside any context. -/
def lowerChar (c : Char) : List Char :=
  if c.toNat = 0x130 then [Char.ofNat 0x69, Char.ofNat 0x307]
  else match caseRuns.find? (·.covers c.toNat) with
    | some run => [Char.ofNat (Int.toNat (c.toNat + run.shift))]
    | none => [c]

/-- Past the characters that case rules look through, the next one is a letter with case. -/
def meetsCased (s : List Char) : Bool :=
  match s.dropWhile isCaseIgnorable with
  | [] => false
  | c :: _ => isCased c

/-- The form of a sigma between the reversed text before it and the text after it. -/
def lowerSigma (before after : List Char) : Char :=
  if meetsCased before && !meetsCased after then Char.ofNat 0x3C2 else Char.ofNat 0x3C3

/-- Lower-cases the rest of a text whose beginning, reversed, is `before`. -/
def lowerAfter (before : List Char) : List Char → List Char
  | [] => []
  | c :: rest =>
    (if c = capitalSigma then [lowerSigma before rest] else lowerChar c) ++
      lowerAfter (c :: before) rest

/-- The lower-case form of a text. -/
def lowercase (s : String) : String := String.ofList (lowerAfter [] s.toList)

example : lowercase "WARNING" = "warning" := by decide +kernel

end ReplicaSync.Text
