import ReplicaSync.Json.Basic

/-!
# The compact text of a JSON value

No blanks, members in order, characters outside ASCII as they are. The five controls with a short
escape use it, the others are written with four digits.
-/

namespace ReplicaSync.Json

/-- One character inside a string. -/
def escape (c : Char) : List Char :=
  if c = '"' then ['\\', '"']
  else if c = '\\' then ['\\', '\\']
  else if c.toNat = 0x8 then ['\\', 'b']
  else if c = '\t' then ['\\', 't']
  else if c = '\n' then ['\\', 'n']
  else if c.toNat = 0xC then ['\\', 'f']
  else if c = '\r' then ['\\', 'r']
  else if c.toNat < 0x20 then
    ['\\', 'u', '0', '0', Nat.digitChar (c.toNat / 16), Nat.digitChar (c.toNat % 16)]
  else [c]

def renderString (s : String) : List Char := '"' :: s.toList.flatMap escape ++ ['"']

def renderNat (n : Nat) : List Char := Nat.toDigits 10 n

def renderInt (n : Int) : List Char :=
  if n < 0 then '-' :: renderNat n.natAbs else renderNat n.natAbs

mutual

/-- The characters of a value. -/
def render : Json → List Char
  | .null => "null".toList
  | .bool true => "true".toList
  | .bool false => "false".toList
  | .int n => renderInt n
  | .real isNegative digits exponent =>
    (if isNegative then ['-'] else []) ++ renderNat digits ++ 'e' :: renderInt exponent
  | .str s => renderString s
  | .arr items => '[' :: renderItems items ++ [']']
  | .obj members => '\x7b' :: renderMembers members ++ ['\x7d']

/-- The items of an array, with commas between them. -/
def renderItems : List Json → List Char
  | [] => []
  | [item] => render item
  | item :: next :: rest => render item ++ ',' :: renderItems (next :: rest)

/-- The members of an object, with commas between them. -/
def renderMembers : List (String × Json) → List Char
  | [] => []
  | [(key, value)] => renderString key ++ ':' :: render value
  | (key, value) :: next :: rest =>
    renderString key ++ ':' :: render value ++ ',' :: renderMembers (next :: rest)

end

/-- The compact text. -/
def compact (j : Json) : String := String.ofList j.render

end ReplicaSync.Json
