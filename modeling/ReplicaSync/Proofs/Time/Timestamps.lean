import ReplicaSync.Proofs.Json.Text
import ReplicaSync.Proofs.Time.Calendar
import ReplicaSync.Time.Rfc3339

/-!
# Timestamps read back

A timestamp is read part by part: each number has as many digits as were written, and each
separator stands where the reader expects it. The canonical text of an instant is read as that
instant. So is its text with another offset from UTC, as long as the date that is shown lies in the
calendar. Main statements: `ofRfc3339?_rfc3339` and `ofRfc3339?_textAt`.
-/

namespace ReplicaSync

namespace Timestamp

open Text (trimStart isBlank)

variable {width n : Nat} {c : Char} {rest : List Char}

/-! ### Numbers with leading zeros -/

/-- No digit stands in front. -/
def NoDigit (rest : List Char) : Prop := ∀ c ∈ rest.head?, isDigit c = false

theorem noDigit_cons (h : isDigit c = false) : NoDigit (c :: rest) := by
  rintro d ⟨⟩
  exact h

theorem NoDigit.take (h : NoDigit rest) (count : Nat) : NoDigit (rest.take count) := by
  intro c hc
  cases rest with
  | nil => simp at hc
  | cons first rest =>
    cases count with
    | zero => simp at hc
    | succ count => exact h c hc

theorem isDigit_of_mem_padded (h : c ∈ padded width n) : isDigit c = true := by
  rcases List.mem_append.mp h with hzero | hdigit
  · rw [(List.mem_replicate.mp hzero).2]
    rfl
  · exact Json.isDigit_of_mem hdigit

theorem value_padded (width n : Nat) : value (padded width n) = n := by
  have hzeros : ∀ count, value (List.replicate count '0') = 0 := by
    intro count
    induction count with
    | zero => rfl
    | succ count ih => exact ih
  have hvalue : value (Nat.toDigits 10 n) = n := Json.natOfDigits_renderNat n
  rw [padded, value, List.foldl_append]
  have hstart := hzeros (width - (Nat.toDigits 10 n).length)
  unfold value at hstart hvalue
  rw [hstart, hvalue]

theorem padded_ne_nil : padded width n ≠ [] := by
  intro h
  exact Nat.toDigits_ne_nil (List.append_eq_nil_iff.mp h).2

theorem length_padded (hwidth : 0 < width) (h : n < Nat.pow 10 width) :
    (padded width n).length = width := by
  have hlength : (Nat.toDigits 10 n).length ≤ width :=
    (Nat.length_toDigits_le_iff (by decide) hwidth).mpr h
  rw [padded, List.length_append, List.length_replicate]
  omega

theorem takeWhile_padded (h : NoDigit rest) :
    (padded width n ++ rest).takeWhile isDigit = padded width n := by
  have hnone : rest.takeWhile isDigit = [] := by
    cases rest with
    | nil => rfl
    | cons c rest => exact List.takeWhile_cons_of_neg (by simp [h c rfl])
  rw [List.takeWhile_append_of_pos fun c => isDigit_of_mem_padded, hnone, List.append_nil]

theorem readNumber_padded (hwidth : 0 < width) (h : n < Nat.pow 10 width) (rest : List Char) :
    readNumber width (padded width n ++ rest) = some (n, rest) := by
  have htake : (padded width n ++ rest).take width = padded width n :=
    List.take_left' (length_padded hwidth h)
  have hdigits : (padded width n).takeWhile isDigit = padded width n := by
    have hnone : NoDigit [] := by simp [NoDigit]
    have hall : (padded width n ++ []).takeWhile isDigit = padded width n := takeWhile_padded hnone
    rwa [List.append_nil] at hall
  have hdrop : (padded width n ++ rest).drop (padded width n).length = rest := List.drop_left
  simp only [readNumber, htake, hdigits, hdrop, value_padded]
  rw [if_neg (by simp [padded_ne_nil])]

theorem readLong_padded (h : n < Nat.pow 2 63) (hrest : NoDigit rest) :
    readLong (padded width n ++ rest) = some (n, rest) := by
  have hdrop : (padded width n ++ rest).drop (padded width n).length = rest := List.drop_left
  simp only [readLong, takeWhile_padded hrest, hdrop, value_padded]
  rw [if_neg]
  simp only [Bool.or_eq_true, List.isEmpty_iff, decide_eq_true_eq, not_or, Nat.not_le]
  exact ⟨padded_ne_nil, h⟩

/-- Digits after the point count from the left. -/
theorem readFraction_padded (hwidth : 0 < width ∧ width ≤ 9) (h : n < Nat.pow 10 width)
    (hrest : NoDigit rest) : readFraction ('.' :: (padded width n ++ rest)) =
      some (n * Nat.pow 10 (9 - width), rest) := by
  have hlength := length_padded hwidth.1 h
  have hkept : (padded width n).take 9 = padded width n :=
    List.take_of_length_le (by omega)
  have hdigits : ((padded width n ++ rest).take 9).takeWhile isDigit = padded width n := by
    rw [List.take_append, hkept]
    exact takeWhile_padded (hrest.take _)
  have hdrop : (padded width n ++ rest).drop (padded width n).length = rest := List.drop_left
  have hstays : rest.dropWhile (fun c => decide ((padded width n).length = 9) && isDigit c) =
      rest := by
    cases rest with
    | nil => rfl
    | cons c rest => exact List.dropWhile_cons_of_neg (by simp [hrest c rfl])
  simp only [readFraction, hdigits, hdrop, hstays, value_padded]
  rw [if_neg (by simp [padded_ne_nil]), hlength]

theorem readFraction_none (h : ∀ c ∈ rest.head?, c ≠ '.') :
    readFraction rest = some (0, rest) := by
  unfold readFraction
  split
  · exact (h '.' rfl rfl).elim
  · rfl

/-! ### Dates -/

theorem isBlank_digit (h : isDigit c = true) : isBlank c = false := by
  simp only [isDigit, Bool.and_eq_true, decide_eq_true_eq] at h
  have hlow : 48 ≤ c.toNat := UInt32.le_iff_toNat_le.mp h.1
  have hhigh : c.toNat ≤ 57 := UInt32.le_iff_toNat_le.mp h.2
  simp only [isBlank, Text.blankRanges, Text.Ranges.contains, List.any_cons, List.any_nil,
    Bool.or_eq_false_iff, Bool.and_eq_false_iff, decide_eq_false_iff_not, and_true]
  omega

theorem trimStart_cons (h : isBlank c = false) (rest : List Char) :
    trimStart (c :: rest) = c :: rest := List.dropWhile_cons_of_neg (by simp [h])

theorem padded_cons (width n : Nat) :
    ∃ first more, padded width n = first :: more ∧ isDigit first = true := by
  have hne : padded width n ≠ [] := padded_ne_nil
  obtain ⟨first, more, hdigits⟩ := List.exists_cons_of_ne_nil hne
  exact ⟨first, more, hdigits, isDigit_of_mem_padded (hdigits ▸ List.mem_cons_self)⟩

theorem trimStart_padded (rest : List Char) :
    trimStart (padded width n ++ rest) = padded width n ++ rest := by
  obtain ⟨first, more, hdigits, hfirst⟩ := padded_cons width n
  rw [hdigits, List.cons_append, trimStart_cons (isBlank_digit hfirst)]

theorem expect_cons (h : isBlank c = false) (rest : List Char) :
    expect c (c :: rest) = some rest := by
  rw [expect, trimStart_cons h]
  exact if_pos rfl

theorem readPart_padded {low high : Nat} (hlow : low ≤ n) (hhigh : n ≤ high) (hbound : high < 100)
    (rest : List Char) : readPart low high (padded 2 n ++ rest) = some (n, rest) := by
  have hn : n < Nat.pow 10 2 := show n < 100 by omega
  rw [readPart, trimStart_padded, readNumber_padded (by decide) hn]
  simp [hlow, hhigh]

theorem readYear_unsigned (h : n < Nat.pow 10 4) (rest : List Char) :
    readYear (padded 4 n ++ rest) = some ((n : Int), rest) := by
  obtain ⟨first, more, hdigits, hfirst⟩ := padded_cons 4 n
  have hread := readNumber_padded (by decide) h rest
  rw [readYear, trimStart_padded]
  split
  · rename_i hminus
    rw [hdigits] at hminus
    cases hminus
    cases hfirst
  · rename_i hplus
    rw [hdigits] at hplus
    cases hplus
    cases hfirst
  · rw [hread]
    rfl

theorem readYear_yearDigits {year : Int} (h : year.natAbs < Nat.pow 2 63) (hrest : NoDigit rest) :
    readYear (yearDigits year ++ rest) = some (year, rest) := by
  have hlong : readLong (padded 4 year.natAbs ++ rest) = some (year.natAbs, rest) :=
    readLong_padded h hrest
  unfold yearDigits
  -- without a sign the reader takes four digits, with one it takes all that follow
  by_cases hfour : (decide (0 ≤ year) && decide (year ≤ 9999)) = true
  · rw [if_pos hfour]
    simp only [Bool.and_eq_true, decide_eq_true_eq] at hfour
    have hn : year.natAbs < Nat.pow 10 4 := show year.natAbs < 10000 by omega
    have hvalue : (year.natAbs : Int) = year := by omega
    rw [readYear_unsigned hn, hvalue]
  · rw [if_neg hfour]
    simp only [Bool.and_eq_true, decide_eq_true_eq, not_and, Int.not_le] at hfour
    by_cases hnegative : year < 0
    · have hvalue : -(year.natAbs : Int) = year := by omega
      have htrim : ∀ s, trimStart ('-' :: s) = '-' :: s := trimStart_cons (by decide)
      rw [if_pos hnegative, List.cons_append]
      simp only [readYear, htrim, hlong, Option.map_some, hvalue]
    · have hvalue : (year.natAbs : Int) = year := by omega
      have htrim : ∀ s, trimStart ('+' :: s) = '+' :: s := trimStart_cons (by decide)
      rw [if_neg hnegative, List.cons_append]
      simp only [readYear, htrim, hlong, Option.map_some, hvalue]

theorem readDate_text {date : Date} (hvalid : date.isValid = true)
    (hyear : date.year.natAbs < Nat.pow 2 63) (rest : List Char) :
    readDate (date.text ++ rest) = some (date, rest) := by
  simp only [Date.isValid, Bool.and_eq_true, decide_eq_true_eq] at hvalid
  obtain ⟨⟨⟨hmonth, hmonth'⟩, hday⟩, hday'⟩ := hvalid
  have hlength : date.day ≤ 31 := by
    refine hday'.trans ?_
    unfold Date.daysInMonth
    split
    · split <;> decide
    · split <;> decide
  have hyear : ∀ s, readYear (yearDigits date.year ++ '-' :: s) = some (date.year, '-' :: s) :=
    fun s => readYear_yearDigits hyear (noDigit_cons (by decide))
  have hmonth := fun s => readPart_padded hmonth hmonth' (by decide) s
  have hday := fun s => readPart_padded hday hlength (by decide) s
  have hhyphen : ∀ s, expect '-' ('-' :: s) = some s := expect_cons (by decide)
  have htext : date.text ++ rest = yearDigits date.year ++
      '-' :: (padded 2 date.month ++ '-' :: (padded 2 date.day ++ rest)) := by
    simp [Date.text]
  rw [htext]
  simp [readDate, hyear, hhyphen, hmonth, hday]

/-! ### Offsets -/

/-- An offset from UTC, in whole minutes and less than a day. -/
structure Offset where
  isWest : Bool
  hours : Nat
  minutes : Nat
  hours_lt : hours < 24
  minutes_lt : minutes < 60

namespace Offset

def size (offset : Offset) : Nat := offset.hours * 3600 + offset.minutes * 60

/-- The seconds by which local time is ahead of UTC. -/
def secs (offset : Offset) : Int := if offset.isWest then -offset.size else offset.size

/-- A sign, and hours and minutes with a colon between them. -/
def text (offset : Offset) : List Char :=
  (if offset.isWest then '-' else '+') ::
    (padded 2 offset.hours ++ ':' :: padded 2 offset.minutes)

theorem size_lt (offset : Offset) : offset.size < 86400 := by
  have hhours := offset.hours_lt
  have hminutes := offset.minutes_lt
  unfold size
  omega

theorem secs_bounds (offset : Offset) : -86400 < offset.secs ∧ offset.secs < 86400 := by
  have hsize := offset.size_lt
  unfold secs
  split <;> omega

/-- Offsets leave the second of the minute as it is. -/
theorem secs_mod (offset : Offset) (secs : Int) : (secs + offset.secs) % 60 = secs % 60 := by
  unfold Offset.secs size
  split <;> omega

end Offset

theorem padded_two : ∀ n < 100, padded 2 n = [Nat.digitChar (n / 10), Nat.digitChar (n % 10)] := by
  decide +kernel

theorem readPair_padded {most : Char} (h : n < 100) (hmost : Nat.digitChar (n / 10) ≤ most)
    (rest : List Char) : readPair most (padded 2 n ++ rest) = some (n, rest) := by
  have hvalue := value_padded 2 n
  have hdigit : ∀ c ∈ padded 2 n, isDigit c = true := fun c => isDigit_of_mem_padded
  rw [padded_two n h] at hvalue hdigit ⊢
  have hfirst : isDigit (Nat.digitChar (n / 10)) = true := hdigit _ (by simp)
  have hsecond : isDigit (Nat.digitChar (n % 10)) = true := hdigit _ (by simp)
  simp [readPair, hfirst, hsecond, hmost, hvalue]

theorem readOffsetSize_text {hours minutes : Nat} (hhours : hours < 24) (hminutes : minutes < 60)
    (rest : List Char) :
    readOffsetSize (padded 2 hours ++ ':' :: (padded 2 minutes ++ rest)) =
      some (hours * 3600 + minutes * 60, rest) := by
  have hnine : ∀ k < 10, Nat.digitChar k ≤ '9' := by decide
  have hfive : ∀ k < 6, Nat.digitChar k ≤ '5' := by decide
  have hpair : ∀ s, readPair '9' (padded 2 hours ++ s) = some (hours, s) :=
    readPair_padded (by omega) (hnine _ (by omega))
  have hpair' : readPair '5' (padded 2 minutes ++ rest) = some (minutes, rest) :=
    readPair_padded (by omega) (hfive _ (by omega)) rest
  have hskip : (':' :: (padded 2 minutes ++ rest)).dropWhile
      (fun c => c = ':' || Text.isBlank c) = padded 2 minutes ++ rest := by
    obtain ⟨first, more, hdigits, hfirst⟩ := padded_cons 2 minutes
    have hcolon : first ≠ ':' := by
      rintro rfl
      cases hfirst
    rw [List.dropWhile_cons_of_pos (by decide), hdigits, List.cons_append]
    exact List.dropWhile_cons_of_neg (by simp [hcolon, isBlank_digit hfirst])
  simp only [readOffsetSize, hpair, hskip, hpair']

theorem readOffset_text (offset : Offset) (rest : List Char) :
    readOffset (offset.text ++ rest) = some (offset.secs, rest) := by
  have hsize := readOffsetSize_text offset.hours_lt offset.minutes_lt rest
  cases hsign : offset.isWest with
  | false =>
    simp [readOffset, Offset.text, Offset.secs, Offset.size, hsign, hsize]
  | true =>
    simp [readOffset, Offset.text, Offset.secs, Offset.size, hsign, hsize]

/-- What stands behind the time: an offset, which does not go on with the time. -/
structure IsZone (zone : List Char) (offset : Int) : Prop where
  reads : readOffset zone = some (offset, [])
  begins : ∃ c more, zone = c :: more ∧ isDigit c = false ∧ c ≠ '.' ∧ isBlank c = false

theorem isZone_utc : IsZone ['Z'] 0 := ⟨rfl, 'Z', [], rfl, rfl, by decide, by decide⟩

theorem isZone_text (offset : Offset) : IsZone offset.text offset.secs := by
  constructor
  · simpa using readOffset_text offset []
  · refine ⟨_, _, rfl, ?_⟩
    cases offset.isWest <;> exact ⟨rfl, by decide, by decide⟩

/-! ### The whole text -/

theorem readFraction_fractionText (t : Instant) {zone : List Char} {offset : Int}
    (hzone : IsZone zone offset) :
    readFraction (t.fractionText ++ zone) = some (t.subsecond, zone) := by
  obtain ⟨first, more, rfl, hdigit, hpoint, -⟩ := hzone.begins
  have hlt : t.subsecond < 1000000000 := Nat.mod_lt _ (by decide)
  have hread : ∀ width n, 0 < width ∧ width ≤ 9 → n < Nat.pow 10 width →
      n * Nat.pow 10 (9 - width) = t.subsecond →
        readFraction ('.' :: padded width n ++ first :: more) =
          some (t.subsecond, first :: more) := by
    intro width n hwidth hn hvalue
    rw [List.cons_append, readFraction_padded hwidth hn (noDigit_cons hdigit), hvalue]
  unfold Instant.fractionText
  split
  · rename_i hzero
    rw [List.nil_append, readFraction_none (by simpa using hpoint), hzero]
  split
  · exact hread 3 _ (by decide) (show _ < 1000 by omega) (show _ * 1000000 = _ by omega)
  split
  · exact hread 6 _ (by decide) (show _ < 1000000 by omega) (show _ * 1000 = _ by omega)
  · exact hread 9 _ (by decide) hlt (Nat.mul_one _)

theorem read_text {date : Date} (hvalid : date.isValid = true)
    (hyear : date.year.natAbs < Nat.pow 2 63) (t : Instant) {zone : List Char} {offset : Int}
    (hzone : IsZone zone offset) :
    read (date.text ++ 'T' :: t.clockText ++ t.fractionText ++ zone) =
      some ⟨date, t.hour, t.minute, t.second, t.subsecond, offset⟩ := by
  have hday : t.secondOfDay < 86400 := by
    unfold Instant.secondOfDay
    omega
  have hhour : t.hour ≤ 23 := by
    unfold Instant.hour
    omega
  have hminute : t.minute ≤ 59 := by
    unfold Instant.minute
    omega
  have hsecond : t.second ≤ 60 := by
    unfold Instant.second
    split <;> omega
  have hdate := fun s => readDate_text hvalid hyear s
  have hhour := fun s => readPart_padded (Nat.zero_le _) hhour (by decide) s
  have hminute := fun s => readPart_padded (Nat.zero_le _) hminute (by decide) s
  have hsecond := fun s => readPart_padded (Nat.zero_le _) hsecond (by decide) s
  have hcolon : ∀ s, expect ':' (':' :: s) = some s := expect_cons (by decide)
  have hfraction := readFraction_fractionText t hzone
  have htrim : trimStart zone = zone := by
    obtain ⟨first, more, rfl, -, -, hblank⟩ := hzone.begins
    exact trimStart_cons hblank more
  have htext : date.text ++ 'T' :: t.clockText ++ t.fractionText ++ zone =
      date.text ++ 'T' :: (padded 2 t.hour ++ ':' :: (padded 2 t.minute ++
        ':' :: (padded 2 t.second ++ (t.fractionText ++ zone)))) := by
    simp [Instant.clockText]
  have hend : trimStart [] = [] := rfl
  rw [htext]
  simp [read, hdate, hhour, hminute, hsecond, hcolon, hfraction, htrim, hzone.reads, hend]

/-! ### Instants -/

/-- The second lies in one of the years from -262143 to 262142. -/
def InCalendar (secs : Int) : Prop :=
  Date.toDays ⟨-262143, 1, 1⟩ * 86400 ≤ secs ∧ secs < Date.toDays ⟨262143, 1, 1⟩ * 86400

instance (secs : Int) : Decidable (InCalendar secs) := inferInstanceAs (Decidable (_ ∧ _))

theorem inCalendar_iff {secs : Int} :
    InCalendar secs ↔ -8334601228800 ≤ secs ∧ secs ≤ 8210266876799 := by
  have hfirst : Date.toDays ⟨-262143, 1, 1⟩ * 86400 = -8334601228800 := by decide
  have hlast : Date.toDays ⟨262143, 1, 1⟩ * 86400 = 8210266876800 := by decide
  rw [InCalendar, hfirst, hlast, Int.lt_iff_add_one_le]
  omega

end Timestamp

namespace Instant

open Timestamp

/-- In a leap second, the clock shows second 60, and the nanoseconds begin anew. -/
theorem second_eq_sixty_iff (t : Instant) : t.second = 60 ↔ ¬ t.nanos < 1000000000 := by
  have hbound := t.nanosBound
  unfold second secondOfDay
  split <;> omega

theorem seconds_eq (t : Instant) :
    t.hour * 3600 + t.minute * 60 + (if t.second = 60 then 59 else t.second) = t.secondOfDay := by
  have hleap := t.second_eq_sixty_iff
  have hbound := t.nanosBound
  unfold hour minute
  by_cases hnanos : t.nanos < 1000000000
  · have hsecond : t.second = t.secondOfDay % 60 := by simp [second, hnanos]
    rw [if_neg (by omega), hsecond]
    omega
  · have hday : t.secondOfDay % 60 = 59 := by
      unfold secondOfDay
      omega
    rw [if_pos (by omega)]
    omega

theorem nanos_eq (t : Instant) :
    t.subsecond + (if t.second = 60 then 1000000000 else 0) = t.nanos := by
  have hleap := t.second_eq_sixty_iff
  have hbound := t.nanosBound
  unfold subsecond
  split <;> omega

end Instant

namespace Timestamp

theorem instant?_parts {date : Date} (hvalid : date.isValid = true) (t : Instant) {offset : Int}
    (hoffset : -86400 < offset ∧ offset < 86400) :
    Parts.instant? ⟨date, t.hour, t.minute, t.second, t.subsecond, offset⟩ =
      (Instant.of? (date.toDays * 86400 + t.secondOfDay) t.nanos).bind fun _ =>
        Instant.of? (date.toDays * 86400 + t.secondOfDay - offset) t.nanos := by
  have hsecs : date.toDays * 86400 + t.hour * 3600 + t.minute * 60 +
      ((if t.second = 60 then 59 else t.second : Nat) : Int) =
        date.toDays * 86400 + t.secondOfDay := by
    have hseconds := t.seconds_eq
    omega
  simp only [Parts.instant?, hvalid, hoffset.1, hoffset.2, decide_true, Bool.and_self, if_true,
    hsecs, t.nanos_eq]
  cases Instant.of? (date.toDays * 86400 + t.secondOfDay) t.nanos <;> rfl

end Timestamp

namespace Instant

open Timestamp

variable {t : Instant}

/-- A leap second is the last second of a minute with every offset. -/
theorem nanosBound_add (t : Instant) (offset : Offset) :
    t.nanos < 1000000000 ∨ (t.secs + offset.secs) % 60 = 59 ∧ t.nanos < 2000000000 := by
  rw [offset.secs_mod]
  exact t.nanosBound

/-- The date that a clock with an offset shows. -/
def dateAt (t : Instant) (offset : Offset) : Date := Date.ofDays ((t.secs + offset.secs) / 86400)

/-- The time that a clock with an offset shows, as a time on the first of January 1970. -/
def clockAt (t : Instant) (offset : Offset) : Instant where
  secs := (t.secs + offset.secs) % 86400
  nanos := t.nanos
  inRange := by omega
  nanosBound := by
    have hbound := t.nanosBound_add offset
    omega

/-- The text of an instant with an offset. -/
def textAt (t : Instant) (offset : Offset) : String :=
  String.ofList ((t.dateAt offset).text ++ 'T' :: (t.clockAt offset).clockText ++ t.fractionText ++
    offset.text)

theorem of?_eq_none {secs : Int} {nanos : Nat} (h : ¬ InCalendar secs) : of? secs nanos = none := by
  rw [inCalendar_iff] at h
  exact dif_neg fun hof => h hof.1

theorem of?_isSome {secs : Int} {nanos : Nat} (h : InCalendar secs)
    (hnanos : nanos < 1000000000 ∨ secs % 60 = 59 ∧ nanos < 2000000000) :
    ∃ t : Instant, of? secs nanos = some t := by
  rw [inCalendar_iff] at h
  exact ⟨⟨secs, nanos, h, hnanos⟩, dif_pos ⟨h, hnanos⟩⟩

/-- A date and a time of the day, with an offset behind them, are taken as UTC first. -/
theorem ofRfc3339?_shown {secs offset : Int} {clock : Instant} {zone : List Char}
    (hclock : clock.secondOfDay = secs % 86400) (hsecs : secs.natAbs < 10000000000000)
    (hzone : IsZone zone offset) (hoffset : -86400 < offset ∧ offset < 86400) :
    ofRfc3339? (String.ofList ((Date.ofDays (secs / 86400)).text ++ 'T' :: clock.clockText ++
      clock.fractionText ++ zone)) =
        (of? secs clock.nanos).bind fun _ => of? (secs - offset) clock.nanos := by
  have hvalid := Date.isValid_ofDays (secs / 86400)
  have hyear : (Date.ofDays (secs / 86400)).year.natAbs < Nat.pow 2 63 := by
    have hdays := Date.natAbs_year_ofDays (secs / 86400)
    show _ < 9223372036854775808
    omega
  -- the day and the second of the day make up the seconds again, before the offset is taken off
  have hwhole : secs / 86400 * 86400 + clock.secondOfDay = secs := by
    rw [hclock]
    omega
  rw [ofRfc3339?, String.toList_ofList, read_text hvalid hyear clock hzone, Option.bind_some,
    instant?_parts hvalid clock hoffset, Date.toDays_ofDays, hwhole]

/-- What is written with an offset names the instant, if the date that is shown is in the
calendar. -/
theorem ofRfc3339?_textAt (t : Instant) (offset : Offset) :
    ofRfc3339? (t.textAt offset) =
      if InCalendar (t.secs + offset.secs) then some t else none := by
  have hbounds := offset.secs_bounds
  have hrange := t.inRange
  have hclock : (t.clockAt offset).secondOfDay = (t.secs + offset.secs) % 86400 := by
    simp only [secondOfDay, clockAt]
    omega
  have hback : t.secs + offset.secs - offset.secs = t.secs := by omega
  have hread := ofRfc3339?_shown hclock (by omega) (isZone_text offset) hbounds
  have hnanos : (t.clockAt offset).nanos = t.nanos := rfl
  rw [hback, hnanos, of?_self] at hread
  refine hread.trans ?_
  by_cases hcalendar : InCalendar (t.secs + offset.secs)
  · obtain ⟨shown, hshown⟩ := of?_isSome hcalendar (t.nanosBound_add offset)
    rw [hshown, if_pos hcalendar]
    rfl
  · rw [of?_eq_none hcalendar, if_neg hcalendar]
    rfl

theorem ofRfc3339?_rfc3339 (t : Instant) : ofRfc3339? t.rfc3339 = some t := by
  have hrange := t.inRange
  have hclock : (t.secondOfDay : Int) = t.secs % 86400 := by
    unfold secondOfDay
    omega
  have hread := ofRfc3339?_shown hclock (by omega) isZone_utc (by decide)
  rw [Int.sub_zero, of?_self] at hread
  exact hread

end Instant

end ReplicaSync
