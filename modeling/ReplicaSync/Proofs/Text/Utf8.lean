import ReplicaSync.Text.Utf8

/-!
# Text and its bytes

A byte string is read as a text exactly if it is the bytes of that text, and a byte below 0x80
occurs among them only where its character occurs in the text. Main statements: `decode?_encode`,
`decode?_eq_some_iff` and `mem_encode_iff`.
-/

namespace ReplicaSync.Text.Utf8

/-! ### Bytes as numbers -/

theorem toNat_byte {n : Nat} (h : n < 256) : (UInt8.ofNat n).toNat = n := by
  simp [Nat.mod_eq_of_lt h]

/-- A continuation byte in its range is read onto the bits. -/
theorem readTail_byte {count n : Nat} {low high : UInt8} (hlow : low.toNat ≤ n)
    (hhigh : n ≤ high.toNat) (bits : Nat) (rest : List UInt8) :
    readTail (count + 1) low high bits (UInt8.ofNat n :: rest) =
      readTail count 0x80 0xBF (bits * 64 + n % 64) rest := by
  have hbyte : n < 256 := Nat.lt_of_le_of_lt hhigh high.toNat_lt
  have hrange : low ≤ UInt8.ofNat n ∧ UInt8.ofNat n ≤ high := by
    rw [UInt8.le_iff_toNat_le, UInt8.le_iff_toNat_le, toNat_byte hbyte]
    exact ⟨hlow, hhigh⟩
  simp only [readTail, hrange.1, hrange.2, decide_true, Bool.and_self, if_true, toNat_byte hbyte]

/-- Behind the second byte of a character the range is always the whole one. -/
theorem readTail_six (count value bits : Nat) (rest : List UInt8) :
    readTail (count + 1) 0x80 0xBF bits (UInt8.ofNat (value % 64 + 128) :: rest) =
      readTail count 0x80 0xBF (bits * 64 + value % 64) rest := by
  have hlow : (0x80 : UInt8).toNat ≤ value % 64 + 128 := Nat.le_add_left _ _
  have hhigh : value % 64 + 128 ≤ (0xBF : UInt8).toNat := by
    show value % 64 + 128 ≤ 191
    omega
  rw [readTail_byte hlow hhigh]
  congr 2
  omega

theorem readChar_byte {n : Nat} (h : n < 256) (rest : List UInt8) :
    readChar (UInt8.ofNat n) rest =
      if n < 0x80 then (some (Char.ofNat n), rest)
      else if n < 0xC2 then (none, rest)
      else if n < 0xE0 then readTail 1 0x80 0xBF (n % 32) rest
      else if n = 0xE0 then readTail 2 0xA0 0xBF (n % 16) rest
      else if n = 0xED then readTail 2 0x80 0x9F (n % 16) rest
      else if n < 0xF0 then readTail 2 0x80 0xBF (n % 16) rest
      else if n = 0xF0 then readTail 3 0x90 0xBF (n % 8) rest
      else if n < 0xF4 then readTail 3 0x80 0xBF (n % 8) rest
      else if n = 0xF4 then readTail 3 0x80 0x8F (n % 8) rest
      else (none, rest) := by
  unfold readChar
  simp only [UInt8.lt_iff_toNat_lt, ← UInt8.toNat_inj, toNat_byte h, UInt8.toNat_ofNat]

/-! ### One character -/

section Characters

variable {value : Nat} (rest : List UInt8)

theorem readChar_two (hlow : 0x80 ≤ value) (hhigh : value ≤ 0x7FF) :
    readChar (UInt8.ofNat (value / 64 % 32 + 192)) (UInt8.ofNat (value % 64 + 128) :: rest) =
      (some (Char.ofNat value), rest) := by
  have hbits : (value / 64 % 32 + 192) % 32 * 64 + value % 64 = value := by omega
  rw [readChar_byte (by omega), if_neg (by omega), if_neg (by omega), if_pos (by omega),
    readTail_six, readTail, hbits]

theorem readChar_three (hlow : 0x800 ≤ value) (hhigh : value ≤ 0xFFFF)
    (hvalid : value < 0xD800 ∨ 0xDFFF < value) :
    readChar (UInt8.ofNat (value / 4096 % 16 + 224))
      (UInt8.ofNat (value / 64 % 64 + 128) :: UInt8.ofNat (value % 64 + 128) :: rest) =
      (some (Char.ofNat value), rest) := by
  have hbits : ((value / 4096 % 16 + 224) % 16 * 64 + value / 64 % 64) * 64 + value % 64 =
      value := by omega
  have hsecond : (value / 64 % 64 + 128) % 64 = value / 64 % 64 := by omega
  rw [readChar_byte (by omega), if_neg (by omega), if_neg (by omega), if_neg (by omega)]
  -- the first byte narrows the range of the second at both ends of the surrogates
  split
  · rw [readTail_byte (by simp; omega) (by simp; omega), readTail_six, readTail, hsecond, hbits]
  split
  · rw [readTail_byte (by simp) (by simp; omega), readTail_six, readTail, hsecond, hbits]
  · rw [if_pos (by omega), readTail_six, readTail_six, readTail, hbits]

theorem readChar_four (hlow : 0x10000 ≤ value) (hhigh : value < 0x110000) :
    readChar (UInt8.ofNat (value / 262144 % 8 + 240))
      (UInt8.ofNat (value / 4096 % 64 + 128) :: UInt8.ofNat (value / 64 % 64 + 128) ::
        UInt8.ofNat (value % 64 + 128) :: rest) =
      (some (Char.ofNat value), rest) := by
  have hbits : (((value / 262144 % 8 + 240) % 8 * 64 + value / 4096 % 64) * 64 +
      value / 64 % 64) * 64 + value % 64 = value := by omega
  have hsecond : (value / 4096 % 64 + 128) % 64 = value / 4096 % 64 := by omega
  rw [readChar_byte (by omega), if_neg (by omega), if_neg (by omega), if_neg (by omega),
    if_neg (by omega), if_neg (by omega), if_neg (by omega)]
  -- the first byte narrows the range of the second at both ends of the planes
  split
  · rw [readTail_byte (by simp; omega) (by simp; omega), readTail_six, readTail_six, readTail,
      hsecond, hbits]
  split
  · rw [readTail_six, readTail_six, readTail_six, readTail, hbits]
  · rw [if_pos (by omega), readTail_byte (by simp) (by simp; omega), readTail_six, readTail_six,
      readTail, hsecond, hbits]

end Characters

/-- The bytes of a character are read back, whatever follows them. -/
theorem readChar_encodeChar (c : Char) (rest : List UInt8) :
    ∃ lead tail, String.utf8EncodeChar c = lead :: tail ∧
      readChar lead (tail ++ rest) = (some c, rest) := by
  have hvalid : c.val.toNat < 0xD800 ∨ 0xDFFF < c.val.toNat ∧ c.val.toNat < 0x110000 := c.valid
  have hchar : Char.ofNat c.val.toNat = c := Char.ofNat_toNat c
  unfold String.utf8EncodeChar
  simp only
  split
  · refine ⟨_, [], rfl, ?_⟩
    rw [readChar_byte (by omega), if_pos (by omega), hchar]
    rfl
  split
  · refine ⟨_, [_], rfl, ?_⟩
    rw [List.singleton_append, readChar_two rest (by omega) (by omega), hchar]
  split
  · refine ⟨_, [_, _], rfl, ?_⟩
    rw [List.cons_append, List.singleton_append,
      readChar_three rest (by omega) (by omega) (by omega), hchar]
  · refine ⟨_, [_, _, _], rfl, ?_⟩
    rw [List.cons_append, List.cons_append, List.singleton_append,
      readChar_four rest (by omega) (by omega), hchar]

/-- Among the bytes of a character one below 0x80 is there only if it is the character. -/
theorem mem_encodeChar_iff {b : UInt8} (hb : b.toNat < 0x80) (c : Char) :
    b ∈ String.utf8EncodeChar c ↔ c.toNat = b.toNat := by
  have hlarge : ∀ n, 128 ≤ n → n < 256 → b ≠ UInt8.ofNat n := by
    rintro n hlow hhigh rfl
    rw [toNat_byte hhigh] at hb
    omega
  have htail : ∀ n, b ≠ UInt8.ofNat (n % 64 + 128) := fun n => hlarge _ (by omega) (by omega)
  have htwo : ∀ n, b ≠ UInt8.ofNat (n % 32 + 192) := fun n => hlarge _ (by omega) (by omega)
  have hthree : ∀ n, b ≠ UInt8.ofNat (n % 16 + 224) := fun n => hlarge _ (by omega) (by omega)
  have hfour : ∀ n, b ≠ UInt8.ofNat (n % 8 + 240) := fun n => hlarge _ (by omega) (by omega)
  unfold String.utf8EncodeChar Char.toNat
  simp only
  split
  · rw [List.mem_singleton, ← UInt8.toNat_inj, toNat_byte (by omega)]
    exact eq_comm
  have hne : c.val.toNat ≠ b.toNat := by omega
  split
  · simp only [List.mem_cons, List.not_mem_nil, htwo, htail, hne, or_self]
  split
  · simp only [List.mem_cons, List.not_mem_nil, hthree, htail, hne, or_self]
  · simp only [List.mem_cons, List.not_mem_nil, hfour, htail, hne, or_self]

/-! ### Back from its bytes -/

/-- A byte that a continuation begins with is in its range. -/
theorem readTail_some {count bits : Nat} {low high : UInt8} {rest left : List UInt8} {c : Char}
    (h : readTail (count + 1) low high bits rest = (some c, left)) :
    ∃ b more, rest = b :: more ∧ low.toNat ≤ b.toNat ∧ b.toNat ≤ high.toNat ∧
      readTail count 0x80 0xBF (bits * 64 + b.toNat % 64) more = (some c, left) := by
  cases rest with
  | nil => cases h
  | cons b more =>
    rw [readTail] at h
    split at h
    · rename_i hrange
      simp only [Bool.and_eq_true, decide_eq_true_eq] at hrange
      exact ⟨b, more, rfl, UInt8.le_iff_toNat_le.mp hrange.1, UInt8.le_iff_toNat_le.mp hrange.2, h⟩
    · cases h

theorem toNat_ofNat {value : Nat}
    (h : value < 0xD800 ∨ 0xDFFF < value ∧ value < 0x110000) :
    (Char.ofNat value).val.toNat = value := by
  rw [Char.ofNat, dif_pos h]
  rfl

section Lengths

variable {lead second third fourth : UInt8}

theorem encodeChar_two (hlead : 0xC2 ≤ lead.toNat) (hlead' : lead.toNat < 0xE0)
    (hsecond : 0x80 ≤ second.toNat) (hsecond' : second.toNat ≤ 0xBF) :
    String.utf8EncodeChar (Char.ofNat (lead.toNat % 32 * 64 + second.toNat % 64)) =
      [lead, second] := by
  have hvalue := @toNat_ofNat (lead.toNat % 32 * 64 + second.toNat % 64) (by omega)
  unfold String.utf8EncodeChar
  simp only [hvalue]
  rw [if_neg (by omega), if_pos (by omega)]
  simp only [List.cons.injEq, ← UInt8.toNat_inj, and_true]
  rw [toNat_byte (by omega), toNat_byte (by omega)]
  omega

theorem encodeChar_three (hlead : 0xE0 ≤ lead.toNat) (hlead' : lead.toNat < 0xF0)
    (hsecond : 0x80 ≤ second.toNat) (hsecond' : second.toNat ≤ 0xBF)
    (hthird : 0x80 ≤ third.toNat) (hthird' : third.toNat ≤ 0xBF)
    (hlow : lead.toNat = 0xE0 → 0xA0 ≤ second.toNat)
    (hhigh : lead.toNat = 0xED → second.toNat ≤ 0x9F) :
    String.utf8EncodeChar (Char.ofNat
      ((lead.toNat % 16 * 64 + second.toNat % 64) * 64 + third.toNat % 64)) =
        [lead, second, third] := by
  have hvalue := @toNat_ofNat
    ((lead.toNat % 16 * 64 + second.toNat % 64) * 64 + third.toNat % 64) (by omega)
  unfold String.utf8EncodeChar
  simp only [hvalue]
  rw [if_neg (by omega), if_neg (by omega), if_pos (by omega)]
  simp only [List.cons.injEq, ← UInt8.toNat_inj, and_true]
  rw [toNat_byte (by omega), toNat_byte (by omega), toNat_byte (by omega)]
  omega

theorem encodeChar_four (hlead : 0xF0 ≤ lead.toNat) (hlead' : lead.toNat ≤ 0xF4)
    (hsecond : 0x80 ≤ second.toNat) (hsecond' : second.toNat ≤ 0xBF)
    (hthird : 0x80 ≤ third.toNat) (hthird' : third.toNat ≤ 0xBF)
    (hfourth : 0x80 ≤ fourth.toNat) (hfourth' : fourth.toNat ≤ 0xBF)
    (hlow : lead.toNat = 0xF0 → 0x90 ≤ second.toNat)
    (hhigh : lead.toNat = 0xF4 → second.toNat ≤ 0x8F) :
    String.utf8EncodeChar (Char.ofNat
      (((lead.toNat % 8 * 64 + second.toNat % 64) * 64 + third.toNat % 64) * 64 +
        fourth.toNat % 64)) = [lead, second, third, fourth] := by
  have hvalue := @toNat_ofNat
    (((lead.toNat % 8 * 64 + second.toNat % 64) * 64 + third.toNat % 64) * 64 +
      fourth.toNat % 64) (by omega)
  unfold String.utf8EncodeChar
  simp only [hvalue]
  rw [if_neg (by omega), if_neg (by omega), if_neg (by omega)]
  simp only [List.cons.injEq, ← UInt8.toNat_inj, and_true]
  rw [toNat_byte (by omega), toNat_byte (by omega), toNat_byte (by omega), toNat_byte (by omega)]
  omega

end Lengths

theorem readTail_three {lead low high : UInt8} {rest left : List UInt8} {c : Char}
    (h : readTail 2 low high (lead.toNat % 16) rest = (some c, left))
    (hlead : 0xE0 ≤ lead.toNat) (hlead' : lead.toNat < 0xF0)
    (hlow : 0x80 ≤ low.toNat) (hhigh : high.toNat ≤ 0xBF)
    (hfirst : lead.toNat = 0xE0 → 0xA0 ≤ low.toNat)
    (hlast : lead.toNat = 0xED → high.toNat ≤ 0x9F) :
    lead :: rest = String.utf8EncodeChar c ++ left := by
  obtain ⟨second, more, rfl, hsecond, hsecond', h⟩ := readTail_some h
  obtain ⟨third, more, rfl, hthird, hthird', h⟩ := readTail_some h
  rw [readTail] at h
  cases h
  rw [encodeChar_three hlead hlead' (by omega) (by omega) hthird hthird' (by omega) (by omega)]
  rfl

theorem readTail_four {lead low high : UInt8} {rest left : List UInt8} {c : Char}
    (h : readTail 3 low high (lead.toNat % 8) rest = (some c, left))
    (hlead : 0xF0 ≤ lead.toNat) (hlead' : lead.toNat ≤ 0xF4)
    (hlow : 0x80 ≤ low.toNat) (hhigh : high.toNat ≤ 0xBF)
    (hfirst : lead.toNat = 0xF0 → 0x90 ≤ low.toNat)
    (hlast : lead.toNat = 0xF4 → high.toNat ≤ 0x8F) :
    lead :: rest = String.utf8EncodeChar c ++ left := by
  obtain ⟨second, more, rfl, hsecond, hsecond', h⟩ := readTail_some h
  obtain ⟨third, more, rfl, hthird, hthird', h⟩ := readTail_some h
  obtain ⟨fourth, more, rfl, hfourth, hfourth', h⟩ := readTail_some h
  rw [readTail] at h
  cases h
  rw [encodeChar_four hlead hlead' (by omega) (by omega) hthird hthird' hfourth hfourth'
    (by omega) (by omega)]
  rfl

/-- A character is read only from its own bytes. -/
theorem readChar_some {lead : UInt8} {rest left : List UInt8} {c : Char}
    (h : readChar lead rest = (some c, left)) :
    lead :: rest = String.utf8EncodeChar c ++ left := by
  have hbyte : UInt8.ofNat lead.toNat = lead := UInt8.ofNat_toNat
  have hlead := lead.toNat_lt
  rw [← hbyte, readChar_byte hlead] at h
  split at h
  · rename_i hascii
    cases h
    have hvalue := @toNat_ofNat lead.toNat (by omega)
    unfold String.utf8EncodeChar
    simp only [hvalue]
    rw [if_pos (by omega), hbyte]
    rfl
  split at h
  · cases h
  split at h
  · obtain ⟨second, more, rfl, hsecond, hsecond', h⟩ := readTail_some h
    rw [readTail] at h
    cases h
    rw [encodeChar_two (by omega) (by omega) hsecond hsecond']
    rfl
  split at h
  · exact readTail_three h (by omega) (by omega) (by decide) (by decide) (by simp) (by omega)
  split at h
  · exact readTail_three h (by omega) (by omega) (by decide) (by decide) (by omega) (by simp)
  split at h
  · exact readTail_three h (by omega) (by omega) (by decide) (by decide) (by omega) (by omega)
  split at h
  · exact readTail_four h (by omega) (by omega) (by decide) (by decide) (by simp) (by omega)
  split at h
  · exact readTail_four h (by omega) (by omega) (by decide) (by decide) (by omega) (by omega)
  split at h
  · exact readTail_four h (by omega) (by omega) (by decide) (by decide) (by omega) (by simp)
  · cases h

/-! ### Texts -/

theorem encode_append (a b : List Char) : encode (a ++ b) = encode a ++ encode b :=
  List.flatMap_append

theorem pieces_encode (s : List Char) : pieces (encode s) = s.map some := by
  induction s with
  | nil => simp [encode, pieces]
  | cons c s ih =>
    obtain ⟨lead, tail, hbytes, hread⟩ := readChar_encodeChar c (encode s)
    have hsplit : encode (c :: s) = lead :: (tail ++ encode s) := by
      rw [encode, List.flatMap_cons, hbytes]
      rfl
    rw [hsplit, pieces, hread, ih, List.map_cons]

theorem encode_of_pieces {bytes : List UInt8} {s : List Char} (h : pieces bytes = s.map some) :
    bytes = encode s := by
  induction s generalizing bytes with
  | nil =>
    cases bytes with
    | nil => rfl
    | cons lead rest =>
      rw [pieces] at h
      cases h
  | cons c s ih =>
    cases bytes with
    | nil =>
      rw [pieces] at h
      cases h
    | cons lead rest =>
      rw [pieces, List.map_cons, List.cons.injEq] at h
      have hread : readChar lead rest = (some c, (readChar lead rest).2) := Prod.ext h.1 rfl
      rw [readChar_some hread, ih h.2, encode, encode, List.flatMap_cons]

theorem mapM_id_eq_some_iff {parts : List (Option Char)} {s : List Char} :
    parts.mapM id = some s ↔ parts = s.map some := by
  induction parts generalizing s with
  | nil => cases s <;> simp
  | cons part parts ih =>
    cases part with
    | none => cases s <;> simp
    | some c =>
      cases s with
      | nil => simp [Option.bind_eq_some_iff]
      | cons d s =>
        simp only [List.mapM_cons, id_eq, Option.bind_eq_bind, Option.bind_some,
          Option.bind_eq_some_iff, Option.pure_def, Option.some.injEq, List.cons.injEq, ih,
          List.map_cons]
        constructor
        · rintro ⟨_, hparts, rfl, rfl⟩
          exact ⟨rfl, hparts⟩
        · rintro ⟨rfl, hparts⟩
          exact ⟨s, hparts, rfl, rfl⟩

/-- A text is read back from its bytes. -/
theorem decode?_encode (s : List Char) : decode? (encode s) = some (String.ofList s) := by
  rw [decode?, pieces_encode, mapM_id_eq_some_iff.mpr rfl]
  rfl

/-- A byte string is read as a text exactly if it is the bytes of the text. -/
theorem decode?_eq_some_iff {bytes : List UInt8} {text : String} :
    decode? bytes = some text ↔ bytes = encode text.toList := by
  constructor
  · intro h
    obtain ⟨s, hpieces, rfl⟩ := Option.map_eq_some_iff.mp h
    rw [String.toList_ofList]
    exact encode_of_pieces (mapM_id_eq_some_iff.mp hpieces)
  · rintro rfl
    rw [decode?_encode, String.ofList_toList]

theorem encode_injective : Function.Injective encode := by
  intro a b h
  have hread : some (String.ofList a) = some (String.ofList b) := by
    rw [← decode?_encode, h, decode?_encode]
  exact String.ofList_injective (Option.some.inj hread)

/-- A byte below 0x80 occurs among the bytes of a text only as its character. -/
theorem mem_encode_iff {b : UInt8} (hb : b.toNat < 0x80) (s : List Char) :
    b ∈ encode s ↔ Char.ofNat b.toNat ∈ s := by
  have hvalid : b.toNat.isValidChar := .inl (by omega)
  have hchar : ∀ c : Char, c.toNat = b.toNat ↔ c = Char.ofNat b.toNat := by
    intro c
    constructor
    · intro heq
      rw [← heq]
      exact (Char.ofNat_toNat c).symm
    · rintro rfl
      rw [Char.ofNat, dif_pos hvalid]
      rfl
  simp [encode, List.mem_flatMap, mem_encodeChar_iff hb, hchar]

/-! ### Strings -/

theorem toList_loop (bytes : ByteArray) (i : Nat) (front : List UInt8) :
    ByteArray.toList.loop bytes i front = front.reverse ++ bytes.data.toList.drop i := by
  fun_induction ByteArray.toList.loop bytes i front with
  | case1 i front hlt ih =>
    have hlt' : i < bytes.data.toList.length := hlt
    have hget : bytes.get! i = bytes.data.toList[i] := by
      simp only [ByteArray.get!, Array.getElem_toList]
      exact getElem!_pos bytes.data i hlt
    rw [ih, List.drop_eq_getElem_cons hlt', hget]
    simp
  | case2 i front hge =>
    have hdone : bytes.data.toList.drop i = [] := List.drop_eq_nil_of_le (Nat.le_of_not_lt hge)
    rw [hdone, List.append_nil]

/-- The bytes of a string are those of its characters. -/
theorem toUTF8_toList (s : String) : s.toUTF8.toList = encode s.toList := by
  have hbytes : s.toUTF8.data.toList = encode s.toList := by
    rw [String.toUTF8, ← String.utf8Encode_toList, List.utf8Encode, List.toList_data_toByteArray]
    rfl
  rw [ByteArray.toList, toList_loop, hbytes]
  rfl

/-! ### ASCII -/

/-- A byte below 0x80 is the whole of its character. -/
theorem encodeChar_ascii {b : UInt8} (hb : b.toNat < 0x80) :
    String.utf8EncodeChar (Char.ofNat b.toNat) = [b] := by
  have hval : (Char.ofNat b.toNat).val.toNat = b.toNat := toNat_ofNat (.inl (by omega))
  have hsmall : b.toNat ≤ 127 := Nat.le_of_lt_succ hb
  simp only [String.utf8EncodeChar, hval, hsmall, if_true, UInt8.ofNat_toNat]

theorem encode_ascii {bytes : List UInt8} (h : ∀ b ∈ bytes, b.toNat < 0x80) :
    encode (bytes.map fun b => Char.ofNat b.toNat) = bytes := by
  induction bytes with
  | nil => rfl
  | cons b rest ih =>
    obtain ⟨hb, hrest⟩ := List.forall_mem_cons.mp h
    rw [List.map_cons, encode, List.flatMap_cons, encodeChar_ascii hb]
    exact congrArg (b :: ·) (ih hrest)

/-- A text whose bytes are all below 0x80 has one byte for each character. -/
theorem eq_map_of_ascii {s : List Char} (h : ∀ b ∈ encode s, b.toNat < 0x80) :
    s = (encode s).map fun b => Char.ofNat b.toNat :=
  encode_injective (encode_ascii h).symm

end ReplicaSync.Text.Utf8
