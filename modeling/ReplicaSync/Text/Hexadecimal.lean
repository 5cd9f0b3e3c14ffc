/-!
# Digits in base sixteen

Numbers are written with small letters, and digits are read in either case.
-/

namespace ReplicaSync.Text

/-- The digits of a number in base sixteen, with small letters. -/
def hexDigits (n : Nat) : List Char := Nat.toDigits 16 n

/-- The value of a digit in base sixteen. -/
def hexValue? (c : Char) : Option Nat :=
  if '0' ≤ c && c ≤ '9' then some (c.toNat - 48)
  else if 'a' ≤ c && c ≤ 'f' then some (c.toNat - 87)
  else if 'A' ≤ c && c ≤ 'F' then some (c.toNat - 55)
  else none

/-- The value of digits in base sixteen, the highest first. -/
def hexNumber? (digits : List Char) : Option Nat :=
  digits.foldlM (fun value c => (hexValue? c).map (value * 16 + ·)) 0

example : hexNumber? (hexDigits 0x1F3FB) = some 0x1F3FB := by decide +kernel

end ReplicaSync.Text
