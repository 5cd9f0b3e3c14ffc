/-!
# Parts of a text by position in bytes

A position counts the bytes of the encoded text in front of it. A text can be cut only between two
characters.
-/

namespace ReplicaSync.Text

/-- The number of bytes of a text. -/
def byteLength : List Char → Nat
  | [] => 0
  | c :: rest => c.utf8Size + byteLength rest

/-- The text without so many bytes in front, unless the cut is inside a character. -/
def dropBytes? : Nat → List Char → Option (List Char)
  | 0, text => some text
  | _ + 1, [] => none
  | count + 1, c :: rest =>
    if c.utf8Size ≤ count + 1 then dropBytes? (count + 1 - c.utf8Size) rest else none

/-- The first bytes of a text, unless the cut is inside a character. -/
def takeBytes? : Nat → List Char → Option (List Char)
  | 0, _ => some []
  | _ + 1, [] => none
  | count + 1, c :: rest =>
    if c.utf8Size ≤ count + 1 then (takeBytes? (count + 1 - c.utf8Size) rest).map (c :: ·)
    else none

/-- The text between two positions, unless one of them is inside a character. -/
def slice? (text : List Char) (start stop : Nat) : Option (List Char) :=
  (dropBytes? start text).bind (takeBytes? (stop - start))

end ReplicaSync.Text
