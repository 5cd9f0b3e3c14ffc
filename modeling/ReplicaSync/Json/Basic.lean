/-!
# JSON values

Events, results and log entries travel as JSON. An object keeps its members in the order in which
they were written; where a key occurs twice, the last member is found. A number written as an
integer is kept apart from one written with a fraction or an exponent, since integer fields admit
the first kind only. A number of the second kind has a sign even if it is zero.
-/

namespace ReplicaSync

/-- A JSON value. `real s d e` is the number d · 10^e with a minus in front if `s` holds, written
with a fraction or an exponent. -/
inductive Json where
  | null
  | bool (value : Bool)
  | int (value : Int)
  | real (isNegative : Bool) (digits : Nat) (exponent : Int)
  | str (text : String)
  | arr (items : List Json)
  | obj (members : List (String × Json))
  deriving Inhabited, Repr

namespace Json

/-- The last member with this key. -/
def lookup (members : List (String × Json)) (key : String) : Option Json :=
  members.foldl (fun found member => if member.1 = key then some member.2 else found) none

/-- The member of an object; `null` counts as absent. -/
def get? (j : Json) (key : String) : Option Json :=
  match j with
  | .obj members =>
    match lookup members key with
    | some .null => none
    | found => found
  | _ => none

def str? : Json → Option String
  | .str text => some text
  | _ => none

def bool? : Json → Option Bool
  | .bool value => some value
  | _ => none

def int? : Json → Option Int
  | .int value => some value
  | _ => none

def arr? : Json → Option (List Json)
  | .arr items => some items
  | _ => none

/-- A natural number of at most `bits` bits. -/
def nat? (bits : Nat) : Json → Option Nat
  | .int value => if 0 ≤ value && value < Nat.pow 2 bits then some value.toNat else none
  | _ => none

/-- A list of texts. -/
def strs? : Json → Option (List String)
  | .arr items => items.mapM str?
  | _ => none

/-- A natural number. -/
def ofNat (n : Nat) : Json := .int n

/-- A list of texts as an array. -/
def ofStrings (texts : List String) : Json := .arr (texts.map .str)

/-- The value, or `null`. -/
def ofOption (toJson : α → Json) : Option α → Json
  | some a => toJson a
  | none => .null

end Json

end ReplicaSync
