/-!
# Places in a text

A pattern can ask where in the text it is: at an end of the text or of a line, or at the edge of a
word. The characters on both sides of a place decide about it.
-/

namespace ReplicaSync

/-- A place with regard to the words around it. -/
inductive WordPlace where
  /-- The edge of a word. -/
  | edge
  /-- No edge of a word. -/
  | noEdge
  | start
  | stop
  deriving DecidableEq, Repr

/-- A kind of place in a text. -/
inductive Place where
  | textStart
  | textEnd
  /-- A line begins. With `isCrlf`, a return also ends a line, alone or in front of a newline. -/
  | lineStart (isCrlf : Bool)
  | lineEnd (isCrlf : Bool)
  | word (place : WordPlace)
  deriving DecidableEq, Repr

namespace Place

/-- A letter, a digit or the low line, of ASCII. -/
def isWordCharacter (c : Char) : Bool := c.isAlphanum || c = '_'

/-- A place is of this kind, between the character behind it and the one ahead. There is none
behind the start of the text, and none ahead of its end. -/
def holds (behind ahead : Option Char) : Place → Bool
  | .textStart => behind.isNone
  | .textEnd => ahead.isNone
  | .lineStart isCrlf =>
    behind.all fun c => c = '\n' || isCrlf && c = '\r' && ahead ≠ some '\n'
  | .lineEnd isCrlf =>
    ahead.all fun c =>
      c = '\n' && !(isCrlf && behind = some '\r') || isCrlf && c = '\r'
  | .word place =>
    let wasWord := behind.any isWordCharacter
    let isWord := ahead.any isWordCharacter
    match place with
    | .edge => wasWord != isWord
    | .noEdge => wasWord == isWord
    | .start => !wasWord && isWord
    | .stop => wasWord && !isWord

end Place

end ReplicaSync
