import ReplicaSync.Json.Printer
import ReplicaSync.Json.Reader

/-!
# Reading back what was printed

The compact text of every value is read as that value. A number is read as far as its digits go, so
what is claimed of it is claimed for a text that goes on with no further digit; behind a value that
is a comma, a closing bracket or nothing. The steps that reading takes are no more than the
characters of the text. Main statement: `parse?_compact`.
-/

namespace ReplicaSync.Json

/-! ### Digits -/

theorem isDigit_of_mem {n : Nat} {c : Char} (h : c ∈ renderNat n) : isDigit c = true :=
  Nat.isDigit_of_mem_toDigits (by decide) (by decide) h

theorem natOfDigits_renderNat (n : Nat) : natOfDigits (renderNat n) = n := by
  have hvalue : Nat.ofDigitChars 10 (renderNat n) 0 = n := Nat.ofDigitChars_ten_toDigits
  have hzero : '0'.toNat = 48 := rfl
  rw [Nat.ofDigitChars_eq_foldl] at hvalue
  simpa only [natOfDigits, Nat.mul_comm, hzero] using hvalue

theorem eq_zero_of_renderNat {n : Nat} {rest : List Char} (h : renderNat n = '0' :: rest) :
    n = 0 := by
  induction n using Nat.strongRecOn generalizing rest with
  | ind n ih =>
    unfold renderNat at h ih
    rw [Nat.toDigits_eq_if (by decide)] at h
    split at h
    · exact Nat.digitChar_eq_zero.mp (List.cons.inj h).1
    · have hne : Nat.toDigits 10 (n / 10) ≠ [] := Nat.toDigits_ne_nil
      obtain ⟨first, more, hdigits⟩ := List.exists_cons_of_ne_nil hne
      rw [hdigits] at h
      have hzero : Nat.toDigits 10 (n / 10) = '0' :: more := by
        rw [hdigits, (List.cons.inj h).1]
      have hquotient := ih (n / 10) (by omega) hzero
      omega

/-- A number has no zero in front of another digit. -/
theorem renderNat_ne_zero_cons (n : Nat) (c : Char) (rest : List Char) :
    renderNat n ≠ '0' :: c :: rest := by
  intro h
  have hzero := eq_zero_of_renderNat h
  rw [hzero, renderNat, Nat.toDigits_zero] at h
  cases h

/-! ### Numbers -/

/-- No digit stands in front. -/
def NoDigit (rest : List Char) : Prop := ∀ c ∈ rest.head?, isDigit c = false

/-- A number that ends here does not go on. -/
def Stops (rest : List Char) : Prop :=
  ∀ c ∈ rest.head?, isDigit c = false ∧ c ≠ '.' ∧ c ≠ 'e' ∧ c ≠ 'E'

theorem Stops.noDigit {rest : List Char} (h : Stops rest) : NoDigit rest :=
  fun c hmem => (h c hmem).1

theorem stops_nil : Stops [] := by
  intro c hmem
  cases hmem

theorem readDigits_renderNat (n : Nat) {rest : List Char} (h : NoDigit rest) :
    readDigits (renderNat n ++ rest) = some (renderNat n, rest) := by
  have hall : ∀ c ∈ renderNat n, isDigit c = true := fun c => isDigit_of_mem
  have hnone : rest.takeWhile isDigit = [] ∧ rest.dropWhile isDigit = rest := by
    cases rest with
    | nil => exact ⟨rfl, rfl⟩
    | cons c rest =>
      have hc : ¬ isDigit c = true := by
        rw [h c rfl]
        exact Bool.false_ne_true
      exact ⟨List.takeWhile_cons_of_neg hc, List.dropWhile_cons_of_neg hc⟩
  have htake : (renderNat n ++ rest).takeWhile isDigit = renderNat n := by
    rw [List.takeWhile_append_of_pos hall, hnone.1, List.append_nil]
  have hdrop : (renderNat n ++ rest).dropWhile isDigit = rest := by
    rw [List.dropWhile_append_of_pos hall, hnone.2]
  have hne : renderNat n ≠ [] := Nat.toDigits_ne_nil
  obtain ⟨first, more, hdigits⟩ := List.exists_cons_of_ne_nil hne
  rw [readDigits, htake, hdrop, hdigits]

theorem readWhole_renderNat (n : Nat) {rest : List Char} (h : NoDigit rest) :
    readWhole (renderNat n ++ rest) = some (renderNat n, rest) := by
  rw [readWhole, readDigits_renderNat n h]
  split
  · rename_i hdigits
    exact (renderNat_ne_zero_cons n _ _ (congrArg Prod.fst (Option.some.inj hdigits))).elim
  · rfl

theorem readFraction_stops {rest : List Char} (h : ∀ c ∈ rest.head?, c ≠ '.') :
    readFraction rest = some (none, rest) := by
  unfold readFraction
  split
  · exact (h '.' rfl rfl).elim
  · rfl

theorem readExponent_stops {rest : List Char} (h : Stops rest) :
    readExponent rest = some (none, rest) := by
  cases rest with
  | nil => rfl
  | cons c rest =>
    obtain ⟨-, -, hsmall, hlarge⟩ := h c rfl
    simp [readExponent, hsmall, hlarge]

/-- The first character of a number, with what follows it. -/
theorem renderNat_cons (n : Nat) :
    ∃ first more, renderNat n = first :: more ∧ isDigit first = true := by
  have hne : renderNat n ≠ [] := Nat.toDigits_ne_nil
  obtain ⟨first, more, hdigits⟩ := List.exists_cons_of_ne_nil hne
  exact ⟨first, more, hdigits, isDigit_of_mem (hdigits ▸ List.mem_cons_self)⟩

theorem readExponent_renderInt (exponent : Int) {rest : List Char} (h : Stops rest) :
    readExponent ('e' :: (renderInt exponent ++ rest)) = some (some exponent, rest) := by
  have hread := readDigits_renderNat exponent.natAbs h.noDigit
  unfold renderInt
  by_cases hnegative : exponent < 0
  · have hvalue : -(natOfDigits (renderNat exponent.natAbs) : Int) = exponent := by
      rw [natOfDigits_renderNat]
      omega
    simp [readExponent, hnegative, hread, hvalue]
  · have hvalue : (natOfDigits (renderNat exponent.natAbs) : Int) = exponent := by
      rw [natOfDigits_renderNat]
      omega
    obtain ⟨first, more, hdigits, hfirst⟩ := renderNat_cons exponent.natAbs
    have hminus : first ≠ '-' := by
      rintro rfl
      cases hfirst
    have hplus : first ≠ '+' := by
      rintro rfl
      cases hfirst
    rw [hdigits, List.cons_append] at hread
    rw [hdigits] at hvalue
    rw [if_neg hnegative, hdigits, List.cons_append]
    simp [readExponent, hminus, hplus, hread, hvalue]

theorem readNumber_render (isNegative : Bool) (digits : Nat) {rest after : List Char}
    {exponent : Option Int} (hdigit : NoDigit rest) (hpoint : ∀ c ∈ rest.head?, c ≠ '.')
    (hexponent : readExponent rest = some (exponent, after)) :
    readNumber ((if isNegative then ['-'] else []) ++ (renderNat digits ++ rest)) =
      some (numberOf isNegative (renderNat digits) none exponent, after) := by
  have hwhole := readWhole_renderNat digits hdigit
  have hfraction := readFraction_stops hpoint
  cases isNegative with
  | true => simp [readNumber, hwhole, hfraction, hexponent]
  | false =>
    obtain ⟨first, more, hdigits, hfirst⟩ := renderNat_cons digits
    have hminus : first ≠ '-' := by
      rintro rfl
      cases hfirst
    rw [hdigits, List.cons_append] at hwhole ⊢
    simp [readNumber, hminus, hwhole, hfraction, hexponent]

theorem renderInt_eq (n : Int) :
    renderInt n = (if decide (n < 0) = true then ['-'] else []) ++ renderNat n.natAbs := by
  by_cases hnegative : n < 0 <;> simp [renderInt, hnegative]

theorem readNumber_int (n : Int) {rest : List Char} (h : Stops rest) :
    readNumber (renderInt n ++ rest) = some (.int n, rest) := by
  have hpoint : ∀ c ∈ rest.head?, c ≠ '.' := fun c hmem => (h c hmem).2.1
  have hnumber : numberOf (n < 0) (renderNat n.natAbs) none none = .int n := by
    by_cases hnegative : n < 0
    · have hne : n.natAbs ≠ 0 := by omega
      have hvalue : -(n.natAbs : Int) = n := by omega
      simp only [numberOf, natOfDigits_renderNat, hnegative, decide_true, Bool.not_true,
        Bool.false_eq_true, if_false, hne, hvalue]
    · have hvalue : (n.natAbs : Int) = n := by omega
      simp only [numberOf, natOfDigits_renderNat, hnegative, decide_false, Bool.not_false,
        if_true, hvalue]
  rw [renderInt_eq, List.append_assoc,
    readNumber_render (n < 0) n.natAbs h.noDigit hpoint (readExponent_stops h), hnumber]

theorem readNumber_real (isNegative : Bool) (digits : Nat) (exponent : Int) {rest : List Char}
    (h : Stops rest) :
    readNumber (render (.real isNegative digits exponent) ++ rest) =
      some (.real isNegative digits exponent, rest) := by
  have hdigit : NoDigit ('e' :: (renderInt exponent ++ rest)) := by
    rintro c ⟨⟩
    rfl
  have hpoint : ∀ c ∈ ('e' :: (renderInt exponent ++ rest)).head?, c ≠ '.' := by
    rintro c ⟨⟩
    decide
  have hread := readNumber_render isNegative digits hdigit hpoint
    (readExponent_renderInt exponent h)
  have hnumber : numberOf isNegative (renderNat digits) none (some exponent) =
      .real isNegative digits exponent := by
    simp [numberOf, natOfDigits_renderNat]
  rw [hnumber] at hread
  simpa only [render, List.append_assoc, List.cons_append] using hread

/-! ### Strings -/

/-- A character below the blank is written with the value of its two digits. -/
theorem hex4?_digits : ∀ n < 0x20,
    hex4? '0' '0' (Nat.digitChar (n / 16)) (Nat.digitChar (n % 16)) = some n := by
  decide

theorem readString_escape (c : Char) (rest : List Char) :
    readString (escape c ++ rest) = consChar c (readString rest) := by
  have hself : Char.ofNat c.toNat = c := Char.ofNat_toNat c
  unfold escape
  split
  · rename_i hquote
    subst hquote
    rfl
  split
  · rename_i hbackslash
    subst hbackslash
    rfl
  split
  · rename_i hbackspace
    rw [← hself, hbackspace]
    rfl
  split
  · rename_i htab
    subst htab
    rfl
  split
  · rename_i hnewline
    subst hnewline
    rfl
  split
  · rename_i hfeed
    rw [← hself, hfeed]
    rfl
  split
  · rename_i hreturn
    subst hreturn
    rfl
  split
  · rename_i hcontrol
    have hhex := hex4?_digits c.toNat hcontrol
    have hhigh : ¬ 0xD800 ≤ c.toNat := by omega
    have hlow : ¬ 0xDC00 ≤ c.toNat := by omega
    simp [readString, hhex, hhigh, hlow]
  · rename_i hbackslash _ _ _ _ _ hcontrol
    simp [readString, hbackslash, hcontrol]

theorem readString_render (s : List Char) (rest : List Char) :
    readString (s.flatMap escape ++ '"' :: rest) = some (s, rest) := by
  induction s with
  | nil => rfl
  | cons c s ih =>
    rw [List.flatMap_cons, List.append_assoc, readString_escape, ih]
    rfl

/-! ### Values -/

theorem skipSpace_cons {c : Char} (h : isSpace c = false) (rest : List Char) :
    skipSpace (c :: rest) = c :: rest := by
  have hc : ¬ isSpace c = true := by
    rw [h]
    exact Bool.false_ne_true
  exact List.dropWhile_cons_of_neg hc

/-- The first character of a number. -/
def IsNumeral (c : Char) : Prop := c = '-' ∨ isDigit c = true

/-- What a reader takes for the beginning of something else is not the beginning of a number. -/
theorem IsNumeral.ne {c : Char} (h : IsNumeral c) {other : Char} (hother : other ≠ '-')
    (hdigit : isDigit other = false) : c ≠ other := by
  rintro rfl
  rcases h with hminus | hnumber
  · exact hother hminus
  · rw [hdigit] at hnumber
    cases hnumber

theorem IsNumeral.notSpace {c : Char} (h : IsNumeral c) : isSpace c = false := by
  have hblank : c ≠ ' ' := h.ne (by decide) rfl
  have htab : c ≠ '\t' := h.ne (by decide) rfl
  have hnewline : c ≠ '\n' := h.ne (by decide) rfl
  have hreturn : c ≠ '\r' := h.ne (by decide) rfl
  simp [isSpace, hblank, htab, hnewline, hreturn]

theorem signed_cons (isNegative : Bool) (n : Nat) (rest : List Char) :
    ∃ first more, (if isNegative then ['-'] else []) ++ (renderNat n ++ rest) = first :: more ∧
      IsNumeral first := by
  cases isNegative with
  | true => exact ⟨'-', _, rfl, .inl rfl⟩
  | false =>
    obtain ⟨first, more, hdigits, hfirst⟩ := renderNat_cons n
    exact ⟨first, more ++ rest, by rw [hdigits]; rfl, .inr hfirst⟩

theorem readValue_number {c : Char} (h : IsNumeral c) (fuel : Nat) (rest : List Char) :
    readValue (fuel + 1) (c :: rest) = readNumber (c :: rest) := by
  have hquote : c ≠ '"' := h.ne (by decide) rfl
  have hbracket : c ≠ '[' := h.ne (by decide) rfl
  have hbrace : c ≠ '\x7b' := h.ne (by decide) rfl
  have ht : c ≠ 't' := h.ne (by decide) rfl
  have hf : c ≠ 'f' := h.ne (by decide) rfl
  have hn : c ≠ 'n' := h.ne (by decide) rfl
  rw [readValue, skipSpace_cons h.notSpace]
  simp [hquote, hbracket, hbrace, ht, hf, hn]

theorem renderInt_cons (n : Int) :
    ∃ first more, renderInt n = first :: more ∧ IsNumeral first := by
  have hsigned := signed_cons (n < 0) n.natAbs []
  rwa [List.append_nil, ← renderInt_eq] at hsigned

theorem render_real_cons (isNegative : Bool) (digits : Nat) (exponent : Int) :
    ∃ first more, render (.real isNegative digits exponent) = first :: more ∧
      IsNumeral first := by
  have hsigned := signed_cons isNegative digits ('e' :: renderInt exponent)
  rwa [← List.append_assoc] at hsigned

/-- A value begins with a character that is no blank and closes no array. -/
theorem render_cons (j : Json) :
    ∃ first more, render j = first :: more ∧ isSpace first = false ∧ first ≠ ']' := by
  cases j with
  | null => exact ⟨_, _, rfl, rfl, by decide⟩
  | bool value => cases value <;> exact ⟨_, _, rfl, rfl, by decide⟩
  | int n =>
    obtain ⟨first, more, htext, hfirst⟩ := renderInt_cons n
    exact ⟨first, more, htext, hfirst.notSpace, hfirst.ne (by decide) rfl⟩
  | real isNegative digits exponent =>
    obtain ⟨first, more, htext, hfirst⟩ := render_real_cons isNegative digits exponent
    exact ⟨first, more, htext, hfirst.notSpace, hfirst.ne (by decide) rfl⟩
  | str s => exact ⟨_, _, rfl, rfl, by decide⟩
  | arr items => exact ⟨_, _, rfl, rfl, by decide⟩
  | obj members => exact ⟨_, _, rfl, rfl, by decide⟩

/-- The text of items begins as that of the first of them. -/
theorem renderItems_cons (item : Json) (items : List Json) :
    ∃ first more, renderItems (item :: items) = first :: more ∧ isSpace first = false ∧
      first ≠ ']' := by
  obtain ⟨first, more, htext, hfirst⟩ := render_cons item
  cases items with
  | nil => exact ⟨first, more, htext, hfirst⟩
  | cons next items =>
    refine ⟨first, more ++ ',' :: renderItems (next :: items), ?_, hfirst⟩
    rw [renderItems, htext]
    rfl

theorem renderMembers_cons (member : String × Json) (members : List (String × Json)) :
    ∃ more, renderMembers (member :: members) = '"' :: more := by
  obtain ⟨key, value⟩ := member
  cases members with
  | nil => exact ⟨_, rfl⟩
  | cons next members => exact ⟨_, rfl⟩

/-- What stands behind a value within another one. -/
theorem stops_cons {c : Char} (h : c ∈ [',', ']', '\x7d']) (rest : List Char) :
    Stops (c :: rest) := by
  rintro d ⟨⟩
  simp only [List.mem_cons, List.not_mem_nil, or_false] at h
  rcases h with rfl | rfl | rfl
  all_goals exact ⟨rfl, by decide, by decide, by decide⟩

-- The induction is on the fuel, not on the value: a reader of items or members spends one unit on
-- each of them, and what is left is enough for what is left of the text.
mutual

theorem readValue_render (j : Json) {fuel : Nat} (rest : List Char)
    (hfuel : (render j).length ≤ fuel) (hrest : Stops rest) :
    readValue fuel (render j ++ rest) = some (j, rest) := by
  obtain ⟨first, more, htext, -⟩ := render_cons j
  cases fuel with
  | zero =>
    rw [htext] at hfuel
    cases hfuel
  | succ fuel =>
    cases j with
    | null => rfl
    | bool value => cases value <;> rfl
    | int n =>
      obtain ⟨first, more, htext, hfirst⟩ := renderInt_cons n
      have hread := readNumber_int n hrest
      rw [htext, List.cons_append] at hread
      rw [render, htext, List.cons_append, readValue_number hfirst, hread]
    | real isNegative digits exponent =>
      obtain ⟨first, more, htext, hfirst⟩ := render_real_cons isNegative digits exponent
      have hread := readNumber_real isNegative digits exponent hrest
      rw [htext, List.cons_append] at hread ⊢
      rw [readValue_number hfirst, hread]
    | str s =>
      have hread := readString_render s.toList rest
      have hquoted : render (.str s) ++ rest = '"' :: (s.toList.flatMap escape ++ '"' :: rest) := by
        simp [render, renderString]
      rw [hquoted, readValue, skipSpace_cons rfl]
      simp [hread]
    | arr items =>
      cases items with
      | nil => rfl
      | cons item items =>
        have hlength : (renderItems (item :: items)).length < fuel := by
          simp only [render, List.length_cons, List.length_append] at hfuel
          omega
        have hread := readItems_render item items rest hlength
        obtain ⟨first, more, hitems, hspace, hclose⟩ := renderItems_cons item items
        have hopened : render (.arr (item :: items)) ++ rest =
            '[' :: (renderItems (item :: items) ++ ']' :: rest) := by
          simp [render]
        rw [hitems, List.cons_append] at hread hopened
        rw [hopened, readValue, skipSpace_cons rfl]
        simp only [skipSpace_cons hspace]
        split
        · rename_i hbracket
          exact (hclose (List.cons.inj hbracket).1).elim
        · rw [hread]
          rfl
    | obj members =>
      cases members with
      | nil => rfl
      | cons member members =>
        have hlength : (renderMembers (member :: members)).length < fuel := by
          simp only [render, List.length_cons, List.length_append] at hfuel
          omega
        have hread := readMembers_render member members rest hlength
        obtain ⟨more, hmembers⟩ := renderMembers_cons member members
        have hopened : render (.obj (member :: members)) ++ rest =
            '\x7b' :: (renderMembers (member :: members) ++ '\x7d' :: rest) := by
          simp [render]
        have hquote : ∀ s, skipSpace ('"' :: s) = '"' :: s := skipSpace_cons rfl
        rw [hmembers, List.cons_append] at hread hopened
        rw [hopened, readValue, skipSpace_cons rfl]
        simp only [hquote]
        show (readMembers fuel ('"' :: (more ++ '\x7d' :: rest))).map _ = _
        rw [hread]
        rfl
termination_by fuel

theorem readItems_render (item : Json) (items : List Json) {fuel : Nat} (rest : List Char)
    (hfuel : (renderItems (item :: items)).length < fuel) :
    readItems fuel (renderItems (item :: items) ++ ']' :: rest) = some (item :: items, rest) := by
  cases fuel with
  | zero => cases hfuel
  | succ fuel =>
    cases items with
    | nil =>
      have hitem := readValue_render item (']' :: rest) (Nat.le_of_lt_succ hfuel)
        (stops_cons (by decide) rest)
      have hclose : skipSpace (']' :: rest) = ']' :: rest := skipSpace_cons rfl rest
      rw [renderItems, readItems, hitem]
      simp only [hclose]
    | cons next items =>
      simp only [renderItems, List.length_append, List.length_cons] at hfuel
      have hitem := readValue_render item (',' :: (renderItems (next :: items) ++ ']' :: rest))
        (show _ ≤ fuel by omega) (stops_cons (by decide) _)
      have hitems := readItems_render next items rest (show _ < fuel by omega)
      have htext : renderItems (item :: next :: items) ++ ']' :: rest =
          render item ++ ',' :: (renderItems (next :: items) ++ ']' :: rest) := by
        simp [renderItems]
      have hcomma : ∀ s, skipSpace (',' :: s) = ',' :: s := skipSpace_cons rfl
      rw [htext, readItems, hitem]
      simp only [hcomma, hitems, Option.map_some]
termination_by fuel

theorem readMembers_render (member : String × Json) (members : List (String × Json)) {fuel : Nat}
    (rest : List Char) (hfuel : (renderMembers (member :: members)).length < fuel) :
    readMembers fuel (renderMembers (member :: members) ++ '\x7d' :: rest) =
      some (member :: members, rest) := by
  obtain ⟨key, value⟩ := member
  cases fuel with
  | zero => cases hfuel
  | succ fuel =>
    have hquote : ∀ s, skipSpace ('"' :: s) = '"' :: s := skipSpace_cons rfl
    have hcolon : ∀ s, skipSpace (':' :: s) = ':' :: s := skipSpace_cons rfl
    cases members with
    | nil =>
      simp only [renderMembers, List.length_append, List.length_cons] at hfuel
      have hkey := readString_render key.toList (':' :: (render value ++ '\x7d' :: rest))
      have hvalue := readValue_render value ('\x7d' :: rest) (show _ ≤ fuel by omega)
        (stops_cons (by decide) rest)
      have hclose : skipSpace ('\x7d' :: rest) = '\x7d' :: rest := skipSpace_cons rfl rest
      have htext : renderMembers [(key, value)] ++ '\x7d' :: rest =
          '"' :: (key.toList.flatMap escape ++ '"' :: ':' :: (render value ++ '\x7d' :: rest)) := by
        simp [renderMembers, renderString]
      rw [htext, readMembers, hquote]
      simp only [hkey, hcolon, hvalue, hclose, String.ofList_toList]
    | cons next members =>
      simp only [renderMembers, List.length_append, List.length_cons] at hfuel
      have hkey := readString_render key.toList
        (':' :: (render value ++ ',' :: (renderMembers (next :: members) ++ '\x7d' :: rest)))
      have hvalue := readValue_render value
        (',' :: (renderMembers (next :: members) ++ '\x7d' :: rest)) (show _ ≤ fuel by omega)
        (stops_cons (by decide) _)
      have hmembers := readMembers_render next members rest (show _ < fuel by omega)
      have hcomma : ∀ s, skipSpace (',' :: s) = ',' :: s := skipSpace_cons rfl
      have htext : renderMembers ((key, value) :: next :: members) ++ '\x7d' :: rest =
          '"' :: (key.toList.flatMap escape ++ '"' :: ':' ::
            (render value ++ ',' :: (renderMembers (next :: members) ++ '\x7d' :: rest))) := by
        simp [renderMembers, renderString]
      rw [htext, readMembers, hquote]
      simp only [hkey, hcolon, hvalue, hcomma, hmembers, String.ofList_toList, Option.map_some]
termination_by fuel

end

/-- What is printed is read back. -/
theorem parse?_compact (j : Json) : parse? j.compact = some j := by
  have hread := readValue_render j [] (Nat.le_succ _) stops_nil
  rw [List.append_nil] at hread
  rw [parse?, compact, String.length_ofList, String.toList_ofList, hread]
  rfl

end ReplicaSync.Json
