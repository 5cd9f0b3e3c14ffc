import ReplicaSync.Text.Ranges

/-!
# Sets of characters in patterns

The sets that a pattern can name are built from ranges by union, difference and complement. A set
is kept as ascending ranges with gaps between them, so that one set has one form.
-/

namespace ReplicaSync

/-- A set of characters: ascending ranges of code points with gaps between them. -/
structure CharSet where
  ranges : Text.Ranges
  deriving DecidableEq, Repr

namespace CharSet

/-- The character is in the set. -/
def contains (set : CharSet) (c : Char) : Bool := set.ranges.contains c

/-! ### One range more or less -/

/-- Puts a range where it belongs. Ranges that it touches become one with it. -/
def insertRange : Nat → Nat → Text.Ranges → Text.Ranges
  | low, high, [] => [(low, high)]
  | low, high, (first, last) :: rest =>
    if high + 1 < first then (low, high) :: (first, last) :: rest
    else if last + 1 < low then (first, last) :: insertRange low high rest
    else insertRange (min low first) (max high last) rest

/-- What is left of a range when another one is taken out of it. -/
def cutRange (low high : Nat) (range : Nat × Nat) : Text.Ranges :=
  (if range.1 < low then [(range.1, min range.2 (low - 1))] else []) ++
    (if high < range.2 then [(max range.1 (high + 1), range.2)] else [])

/-- Takes a range out. -/
def removeRange (low high : Nat) (ranges : Text.Ranges) : Text.Ranges :=
  ranges.flatMap (cutRange low high)

/-! ### Sets -/

/-- The set with no character in it. -/
def none : CharSet := ⟨[]⟩

/-- The set of all characters. -/
def all : CharSet := ⟨[(0, 0x10FFFF)]⟩

/-- The characters from `first` to `last`. -/
def range (first last : Char) : CharSet := ⟨[(first.toNat, last.toNat)]⟩

/-- The set with one character in it. -/
def one (c : Char) : CharSet := range c c

/-- The character of a set that has only one. -/
def single? (set : CharSet) : Option Char :=
  match set.ranges with
  | [(low, high)] => if low = high then some (Char.ofNat low) else Option.none
  | _ => Option.none

/-- What is in one of the sets or in both. -/
def union (a b : CharSet) : CharSet :=
  ⟨a.ranges.foldl (fun ranges range => insertRange range.1 range.2 ranges) b.ranges⟩

/-- What is in the first set and not in the second. -/
def without (a b : CharSet) : CharSet :=
  ⟨b.ranges.foldl (fun ranges range => removeRange range.1 range.2 ranges) a.ranges⟩

/-- What is not in the set. -/
def complement (set : CharSet) : CharSet := all.without set

/-- What is in both sets. -/
def meet (a b : CharSet) : CharSet := a.without (a.without b)

/-- What is in one of the sets and not in the other. -/
def either (a b : CharSet) : CharSet := (a.without b).union (b.without a)

/-! ### Sets with names -/

def digits : CharSet := ⟨[(0x30, 0x39)]⟩

def capitals : CharSet := ⟨[(0x41, 0x5A)]⟩

def smallLetters : CharSet := ⟨[(0x61, 0x7A)]⟩

def spaces : CharSet := ⟨[(0x9, 0xD), (0x20, 0x20)]⟩

/-- Letters, digits and the low line, of ASCII. -/
def wordCharacters : CharSet := ⟨[(0x30, 0x39), (0x41, 0x5A), (0x5F, 0x5F), (0x61, 0x7A)]⟩

/-- The classes of ASCII that have a name. -/
def named : List (String × CharSet) :=
  [("alnum", ⟨[(0x30, 0x39), (0x41, 0x5A), (0x61, 0x7A)]⟩),
   ("alpha", ⟨[(0x41, 0x5A), (0x61, 0x7A)]⟩),
   ("ascii", ⟨[(0x0, 0x7F)]⟩),
   ("blank", ⟨[(0x9, 0x9), (0x20, 0x20)]⟩),
   ("cntrl", ⟨[(0x0, 0x1F), (0x7F, 0x7F)]⟩),
   ("digit", digits),
   ("graph", ⟨[(0x21, 0x7E)]⟩),
   ("lower", smallLetters),
   ("print", ⟨[(0x20, 0x7E)]⟩),
   ("punct", ⟨[(0x21, 0x2F), (0x3A, 0x40), (0x5B, 0x60), (0x7B, 0x7E)]⟩),
   ("space", spaces),
   ("upper", capitals),
   ("word", wordCharacters),
   ("xdigit", ⟨[(0x30, 0x39), (0x41, 0x46), (0x61, 0x66)]⟩)]

/-- The set with the letters of ASCII in either case, if it has them in one. -/
def anyCase (set : CharSet) : CharSet :=
  let raised := (set.meet smallLetters).ranges.map fun (low, high) => (low - 0x20, high - 0x20)
  let lowered := (set.meet capitals).ranges.map fun (low, high) => (low + 0x20, high + 0x20)
  (union ⟨raised⟩ set).union ⟨lowered⟩

example : (range 'O' 'b').anyCase = ⟨[(0x41, 0x42), (0x4F, 0x62), (0x6F, 0x7A)]⟩ := by decide

example : (range 'a' 'm').union (range 'n' 'z') = smallLetters := by decide

end CharSet

end ReplicaSync
