import ReplicaSync.Json.Basic

/-!
# Shapes of JSON values

The types of this library use three shapes. A choice without data is written as its name, and read
also from an object whose one member has that name and the value `null`. A record is written as an
object; it is read from an object in any order, members with other names being passed over, or from
an array of all its fields in order. A choice with data carries its name as one member of the
object, or as the first item of an array. A member that is read must not be there twice.
-/

namespace ReplicaSync.Json

/-- Reads a choice without data. -/
def choice? (named : List (String × α)) : Json → Option α
  | .str name => named.lookup name
  | .obj [(name, .null)] => named.lookup name
  | _ => none

/-- At most one member has this key. -/
def isSingle (members : List (String × Json)) (key : String) : Bool :=
  (members.filter fun member => member.1 = key).length ≤ 1

/-- The first member with one of two keys has the key `first`. -/
def leads (first second : String) (members : List (String × Json)) : Bool :=
  match members.find? fun member => member.1 = first || member.1 = second with
  | some member => member.1 = first
  | none => false

/-- The fields of a record in the order of `keys`; a field may be missing from an object only. -/
def fields? (keys : List String) : Json → Option (List (Option Json))
  | .obj members => if keys.all (isSingle members) then some (keys.map (lookup members)) else none
  | .arr items => if items.length = keys.length then some (items.map some) else none
  | _ => none

/-- The name of a choice with data, under the member `tag`, and the value that holds its data. -/
def tagged? (tag : String) : Json → Option (Json × Json)
  | .obj members =>
    if isSingle members tag then (lookup members tag).map fun name => (name, .obj members) else none
  | .arr (name :: rest) => some (name, .arr rest)
  | _ => none

/-- The choice has no data: any object will do, and the empty array. -/
def isBare : Json → Bool
  | .obj _ => true
  | .arr items => items.isEmpty
  | _ => false

/-- Reads a field that has to be there. -/
def required? (read : Json → Option α) (field : Option Json) : Option α := field.bind read

/-- Reads a field that may be missing or `null`. -/
def optional? (read : Json → Option α) : Option Json → Option (Option α)
  | none => some none
  | some .null => some none
  | some j => (read j).map some

end ReplicaSync.Json
