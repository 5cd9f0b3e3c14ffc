import ReplicaSync.Failure

/-!
# Repository identities

An identity is a non-empty byte string. Its hexadecimal form with small letters is the name of the
notification channel that all replicas of the repository share, so two replicas meet exactly if
their identities agree. Reading accepts digits of either case.
-/

namespace ReplicaSync

/-! ### Digits -/

namespace Hex

/-- The value of a digit, given as a byte. -/
def digit? (b : UInt8) : Option UInt8 :=
  if 0x30 ≤ b && b ≤ 0x39 then some (b - 0x30)
  else if 0x61 ≤ b && b ≤ 0x66 then some (b - 0x57)
  else if 0x41 ≤ b && b ≤ 0x46 then some (b - 0x37)
  else none

/-- The two digits of a byte, high half first. -/
def encodeByte (b : UInt8) : List Char :=
  [Nat.digitChar (b.toNat / 16), Nat.digitChar (b.toNat % 16)]

/-- The digits of a byte string. -/
def encode (bytes : List UInt8) : String := String.ofList (bytes.flatMap encodeByte)

/-- Reads digits two by two from a position of the text on. On failure: the byte that is no digit
and its position. A digit without a partner ends the reading. -/
def decodeFrom (position : Nat) : List UInt8 → Except (UInt8 × Nat) (List UInt8)
  | high :: low :: rest =>
    match digit? high, digit? low with
    | some h, some l => (decodeFrom (position + 2) rest).map ((h * 16 + l) :: ·)
    | none, _ => .error (high, position)
    | some _, none => .error (low, position + 1)
  | _ => .ok []

end Hex

/-! ### Identities -/

/-- The identifier of a repository. -/
structure Identity where
  bytes : List UInt8
  nonempty : bytes ≠ []
  deriving DecidableEq

namespace Identity

/-- Takes over a byte string. -/
def ofBytes (bytes : List UInt8) : Except IdentityFault Identity :=
  if h : bytes = [] then .error .empty else .ok ⟨bytes, h⟩

/-- Reads the hexadecimal form. An odd length is reported before a wrong digit. -/
def ofHex (text : String) : Except IdentityFault Identity :=
  let bytes := text.toUTF8.toList
  if bytes.length % 2 = 1 then .error (.oddLength text)
  else match Hex.decodeFrom 0 bytes with
    | .ok bytes => ofBytes bytes
    | .error (byte, position) => .error (.badDigit text byte position)

/-- The hexadecimal form with small letters. -/
def toHex (id : Identity) : String := Hex.encode id.bytes

/-- The form shown to a developer. -/
def shown (id : Identity) : String := s!"RepositoryIdentity({Text.quoted id.toHex})"

theorem ofBytes_bytes (id : Identity) : ofBytes id.bytes = .ok id := by
  simp [ofBytes, id.nonempty]

end Identity

end ReplicaSync
