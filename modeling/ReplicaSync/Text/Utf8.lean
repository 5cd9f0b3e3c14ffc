/-!
# Text in bytes

Paths and the lines of a connection are byte strings. A byte string is read as text character by
character; where no character can be read, the longest beginning that could still have become one
is set aside. A strict reader refuses the string, a lenient one puts U+FFFD in its place.
-/

namespace ReplicaSync.Text.Utf8

/-- The bytes of a text. -/
def encode (s : List Char) : List UInt8 := s.flatMap String.utf8EncodeChar

/-- Reads `count` continuation bytes onto the bits in `bits`, the first of them between `low` and
`high`; the second component is what follows the bytes that fitted. -/
def readTail : Nat → UInt8 → UInt8 → Nat → List UInt8 → Option Char × List UInt8
  | 0, _, _, bits, rest => (some (Char.ofNat bits), rest)
  | _ + 1, _, _, _, [] => (none, [])
  | count + 1, low, high, bits, b :: rest =>
    if low ≤ b && b ≤ high then
      readTail count 0x80 0xBF (bits * 64 + b.toNat % 64) rest
    else (none, b :: rest)

/-- Reads one character that begins with the byte `lead`. -/
def readChar (lead : UInt8) (rest : List UInt8) : Option Char × List UInt8 :=
  if lead < 0x80 then (some (Char.ofNat lead.toNat), rest)
  else if lead < 0xC2 then (none, rest)
  else if lead < 0xE0 then readTail 1 0x80 0xBF (lead.toNat % 32) rest
  else if lead = 0xE0 then readTail 2 0xA0 0xBF (lead.toNat % 16) rest
  else if lead = 0xED then readTail 2 0x80 0x9F (lead.toNat % 16) rest
  else if lead < 0xF0 then readTail 2 0x80 0xBF (lead.toNat % 16) rest
  else if lead = 0xF0 then readTail 3 0x90 0xBF (lead.toNat % 8) rest
  else if lead < 0xF4 then readTail 3 0x80 0xBF (lead.toNat % 8) rest
  else if lead = 0xF4 then readTail 3 0x80 0x8F (lead.toNat % 8) rest
  else (none, rest)

theorem readTail_length (count : Nat) (low high : UInt8) (bits : Nat) (rest : List UInt8) :
    (readTail count low high bits rest).2.length ≤ rest.length := by
  induction count generalizing low high bits rest with
  | zero => exact Nat.le_refl _
  | succ count ih =>
    cases rest with
    | nil => exact Nat.le_refl _
    | cons b rest =>
      simp only [readTail]
      split
      · exact Nat.le_trans (ih ..) (Nat.le_succ _)
      · exact Nat.le_refl _

theorem readChar_length (lead : UInt8) (rest : List UInt8) :
    (readChar lead rest).2.length ≤ rest.length := by
  simp only [readChar]
  repeat' split
  all_goals simp only [Nat.le_refl, readTail_length]

/-- The pieces of a byte string: characters, and `none` for each part that is none. -/
def pieces : List UInt8 → List (Option Char)
  | [] => []
  | lead :: rest => (readChar lead rest).1 :: pieces (readChar lead rest).2
termination_by bytes => bytes.length
decreasing_by
  have h := readChar_length lead rest
  simp only [List.length_cons]
  omega

/-- The text, with U+FFFD for each part that is no character. -/
def decodeLossy (bytes : List UInt8) : String :=
  String.ofList ((pieces bytes).map (·.getD (Char.ofNat 0xFFFD)))

/-- The text, if every part is a character. -/
def decode? (bytes : List UInt8) : Option String :=
  ((pieces bytes).mapM id).map String.ofList

end ReplicaSync.Text.Utf8
