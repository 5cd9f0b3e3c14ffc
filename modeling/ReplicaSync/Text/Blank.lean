import ReplicaSync.Text.Ranges

/-!
# White space

The characters with the property White_Space. It decides when a host name counts as empty, which
characters a channel name may not contain, and what the reader of a timestamp passes over.
-/

namespace ReplicaSync.Text

/-- The ranges of White_Space. -/
def blankRanges : Ranges :=
  [(0x9, 0xD), (0x20, 0x20), (0x85, 0x85), (0xA0, 0xA0), (0x1680, 0x1680), (0x2000, 0x200A),
   (0x2028, 0x2029), (0x202F, 0x202F), (0x205F, 0x205F), (0x3000, 0x3000)]

/-- The character is white space. -/
def isBlank (c : Char) : Bool := blankRanges.contains c

/-- The text without the white space in front. -/
def trimStart (s : List Char) : List Char := s.dropWhile isBlank

/-- The text without the white space at its ends. -/
def trim (s : List Char) : List Char := (trimStart (trimStart s).reverse).reverse

/-- The text is empty or white space throughout. -/
def isBlankText (s : String) : Bool := s.toList.all isBlank

theorem isBlank_newline : isBlank '\n' = true := by decide

theorem isBlank_space : isBlank ' ' = true := by decide

end ReplicaSync.Text
