import ReplicaSync.Config.Draft
import ReplicaSync.Coordinator.Flight
import ReplicaSync.Proofs.Fanout.RefusedCalls
import ReplicaSync.Proofs.Text.Utf8

/-!
# Identities and their hexadecimal form

A text is read as an identity exactly if it consists of digits, two to a byte, and there is at
least one byte; it is written back as the same text with small letters. Otherwise the first byte
that is no digit is named, unless the length is odd. What is written is read back, so identities
and channel keys determine each other, and a channel key is a name that a notification channel
takes. Main statement: `identity_codec`.
-/

namespace ReplicaSync

/-! ### Digits -/

namespace Hex

/-- The digits of both cases. -/
def alphabet : List Char := "0123456789abcdefABCDEF".toList

/-- The byte is a digit of either case. -/
def IsDigit (b : UInt8) : Prop := Char.ofNat b.toNat ∈ alphabet

instance (b : UInt8) : Decidable (IsDigit b) := inferInstanceAs (Decidable (_ ∈ _))

/-- What holds of 256 numbers holds of all bytes. -/
theorem forall_byte {P : UInt8 → Prop} (h : ∀ n < 256, P (UInt8.ofNat n)) (b : UInt8) : P b := by
  have hb := h b.toNat b.toNat_lt
  rwa [UInt8.ofNat_toNat] at hb

theorem digit?_eq_none_iff : ∀ b, digit? b = none ↔ ¬ IsDigit b :=
  forall_byte (by decide +kernel)

/-- The value of a digit is written as the digit with a small letter. -/
theorem digit?_value : ∀ b, ∀ value ∈ digit? b,
    value.toNat < 16 ∧ Nat.digitChar value.toNat = (Char.ofNat b.toNat).toLower :=
  forall_byte (by decide +kernel)

theorem isDigit_ascii : ∀ b, IsDigit b → b.toNat < 0x80 :=
  forall_byte (by decide +kernel)

/-- A digit that is written is one byte, which is read as the value. -/
theorem digit?_digitChar : ∀ n < 16, ∃ b, String.utf8EncodeChar (Nat.digitChar n) = [b] ∧
    digit? b = some (UInt8.ofNat n) := by
  have hbyte : ∀ n < 16,
      String.utf8EncodeChar (Nat.digitChar n) = [UInt8.ofNat (Nat.digitChar n).toNat] ∧
        digit? (UInt8.ofNat (Nat.digitChar n).toNat) = some (UInt8.ofNat n) := by
    decide +kernel
  exact fun n hn => ⟨_, hbyte n hn⟩

variable {b high low : UInt8} {position : Nat}

theorem exists_digit?_of_isDigit (h : IsDigit b) : ∃ value, digit? b = some value := by
  cases hvalue : digit? b with
  | none => exact ((digit?_eq_none_iff b).mp hvalue h).elim
  | some value => exact ⟨value, rfl⟩

/-- The byte of two digits is written as the digits with small letters. -/
theorem encodeByte_digits {h l : UInt8} (hhigh : digit? high = some h)
    (hlow : digit? low = some l) :
    encodeByte (h * 16 + l) =
      [(Char.ofNat high.toNat).toLower, (Char.ofNat low.toNat).toLower] := by
  obtain ⟨hh, hhigh⟩ := digit?_value high h hhigh
  obtain ⟨hl, hlow⟩ := digit?_value low l hlow
  have hbyte : (h * 16 + l).toNat = h.toNat * 16 + l.toNat := by
    rw [UInt8.toNat_add, UInt8.toNat_mul]
    simp
    omega
  have hfirst : (h * 16 + l).toNat / 16 = h.toNat := by omega
  have hsecond : (h * 16 + l).toNat % 16 = l.toNat := by omega
  rw [encodeByte, hfirst, hsecond, hhigh, hlow]

/-- Two digits are read as one byte. -/
theorem decodeFrom_cons_cons {h l : UInt8} (hhigh : digit? high = some h)
    (hlow : digit? low = some l) (rest : List UInt8) :
    decodeFrom position (high :: low :: rest) =
      (decodeFrom (position + 2) rest).map ((h * 16 + l) :: ·) := by
  rw [decodeFrom, hhigh, hlow]

/-- Digits are read two by two, and what is read is written as the digits with small letters. -/
theorem decodeFrom_digits : ∀ {bytes : List UInt8} (position : Nat), bytes.length % 2 = 0 →
    (∀ b ∈ bytes, IsDigit b) →
    ∃ out, decodeFrom position bytes = .ok out ∧ bytes.length = 2 * out.length ∧
      out.flatMap encodeByte = bytes.map fun b => (Char.ofNat b.toNat).toLower
  | [], _, _, _ => ⟨[], rfl, rfl, rfl⟩
  | [_], _, heven, _ => by simp at heven
  | high :: low :: rest, position, heven, hdigits => by
    obtain ⟨hhigh, hlow, hrest⟩ : IsDigit high ∧ IsDigit low ∧ ∀ b ∈ rest, IsDigit b := by
      simpa using hdigits
    obtain ⟨h, hh⟩ := exists_digit?_of_isDigit hhigh
    obtain ⟨l, hl⟩ := exists_digit?_of_isDigit hlow
    simp only [List.length_cons] at heven
    obtain ⟨out, hout, hlength, hwritten⟩ := decodeFrom_digits (position + 2) (by omega) hrest
    refine ⟨(h * 16 + l) :: out, ?_, ?_, ?_⟩
    · rw [decodeFrom_cons_cons hh hl, hout]
      rfl
    · simp only [List.length_cons]
      omega
    · rw [List.flatMap_cons, encodeByte_digits hh hl, hwritten]
      rfl

/-- The first byte that is no digit ends the reading. -/
theorem decodeFrom_bad {b : UInt8} (hbad : ¬ IsDigit b) : ∀ {front rest : List UInt8}
    (position : Nat), (front ++ b :: rest).length % 2 = 0 → (∀ d ∈ front, IsDigit d) →
    decodeFrom position (front ++ b :: rest) = .error (b, position + front.length)
  | [], [], _, heven, _ => by simp at heven
  | [], low :: rest, position, _, _ => by
    have hnone := (digit?_eq_none_iff b).mpr hbad
    rw [List.nil_append, decodeFrom, hnone]
    rfl
  | [high], rest, position, _, hfront => by
    obtain ⟨h, hh⟩ := exists_digit?_of_isDigit (hfront high (List.mem_singleton_self _))
    have hnone := (digit?_eq_none_iff b).mpr hbad
    rw [List.singleton_append, decodeFrom, hh, hnone]
    rfl
  | high :: low :: front, rest, position, heven, hfront => by
    obtain ⟨hhigh, hlow, hfront⟩ : IsDigit high ∧ IsDigit low ∧ ∀ d ∈ front, IsDigit d := by
      simpa using hfront
    obtain ⟨h, hh⟩ := exists_digit?_of_isDigit hhigh
    obtain ⟨l, hl⟩ := exists_digit?_of_isDigit hlow
    simp only [List.cons_append, List.length_cons] at heven
    rw [List.cons_append, List.cons_append, decodeFrom_cons_cons hh hl,
      decodeFrom_bad hbad (position + 2) (by omega) hfront]
    simp only [Except.map, List.length_cons]
    congr 2
    omega

/-- A byte is written as two digits that are read as the byte. -/
theorem encode_encodeByte (b : UInt8) :
    ∃ high low h l, Text.Utf8.encode (encodeByte b) = [high, low] ∧ digit? high = some h ∧
      digit? low = some l ∧ h * 16 + l = b := by
  have hb : b.toNat < 256 := b.toNat_lt
  obtain ⟨high, hhigh, hh⟩ := digit?_digitChar (b.toNat / 16) (by omega)
  obtain ⟨low, hlow, hl⟩ := digit?_digitChar (b.toNat % 16) (by omega)
  refine ⟨high, low, _, _, ?_, hh, hl, ?_⟩
  · rw [encodeByte, Text.Utf8.encode, List.flatMap_cons, List.flatMap_singleton, hhigh, hlow]
    rfl
  · rw [← UInt8.toNat_inj, UInt8.toNat_add, UInt8.toNat_mul]
    simp
    omega

/-- What is written is read back. -/
theorem decodeFrom_encode (bytes : List UInt8) (position : Nat) :
    (Text.Utf8.encode (bytes.flatMap encodeByte)).length = 2 * bytes.length ∧
      decodeFrom position (Text.Utf8.encode (bytes.flatMap encodeByte)) = .ok bytes := by
  induction bytes generalizing position with
  | nil => exact ⟨rfl, rfl⟩
  | cons b rest ih =>
    obtain ⟨high, low, h, l, hpair, hh, hl, hbyte⟩ := encode_encodeByte b
    obtain ⟨hlength, hrest⟩ := ih (position + 2)
    rw [List.flatMap_cons, Text.Utf8.encode_append, hpair, List.cons_append,
      List.singleton_append]
    constructor
    · simp only [List.length_cons, hlength]
      omega
    · rw [decodeFrom_cons_cons hh hl, hrest, hbyte]
      rfl

theorem encodeByte_isChannelChar (b : UInt8) :
    ∀ c ∈ encodeByte b, (!Text.isBlank c && decide (c ≠ '!')) = true := by
  have hdigit : ∀ n < 16, (!Text.isBlank (Nat.digitChar n) && decide (Nat.digitChar n ≠ '!')) =
      true := by
    decide +kernel
  have hb : b.toNat < 256 := b.toNat_lt
  exact List.forall_mem_cons.mpr
    ⟨hdigit _ (by omega), List.forall_mem_singleton.mpr (hdigit _ (by omega))⟩

end Hex

/-! ### Identities -/

namespace Identity

open Text.Utf8

variable {text : String}

theorem ofBytes_of_ne_nil {bytes : List UInt8} (h : bytes ≠ []) :
    ofBytes bytes = .ok ⟨bytes, h⟩ := dif_neg h

/-- A text of an even length is read digit by digit. -/
theorem ofHex_even (heven : text.toUTF8.toList.length % 2 = 0) :
    ofHex text = match Hex.decodeFrom 0 text.toUTF8.toList with
      | .ok bytes => ofBytes bytes
      | .error (byte, position) => .error (.badDigit text byte position) := by
  have hodd : ¬ text.toUTF8.toList.length % 2 = 1 := by omega
  exact if_neg hodd

theorem ofHex_odd (hodd : text.toUTF8.toList.length % 2 = 1) :
    ofHex text = .error (.oddLength text) := if_pos hodd

theorem ofHex_empty : ofHex "" = .error .empty := by
  have hbytes : "".toUTF8.toList = [] := toUTF8_toList ""
  rw [ofHex_even (by rw [hbytes]; rfl), hbytes]
  rfl

theorem ofHex_bad {front rest : List UInt8} {b : UInt8}
    (hsplit : text.toUTF8.toList = front ++ b :: rest)
    (heven : text.toUTF8.toList.length % 2 = 0) (hfront : ∀ d ∈ front, Hex.IsDigit d)
    (hbad : ¬ Hex.IsDigit b) : ofHex text = .error (.badDigit text b front.length) := by
  rw [ofHex_even heven, hsplit, Hex.decodeFrom_bad hbad 0 (hsplit ▸ heven) hfront, Nat.zero_add]

/-- A text of digits, two to a byte, is read as an identity that is written with small letters. -/
theorem ofHex_digits (hne : text ≠ "") (heven : text.toUTF8.toList.length % 2 = 0)
    (hdigits : ∀ b ∈ text.toUTF8.toList, Hex.IsDigit b) :
    ∃ id, ofHex text = .ok id ∧ id.toHex = text.toLower := by
  obtain ⟨out, hout, hlength, hwritten⟩ := Hex.decodeFrom_digits 0 heven hdigits
  have hascii : ∀ b ∈ encode text.toList, b.toNat < 0x80 := by
    rw [← toUTF8_toList]
    exact fun b hb => Hex.isDigit_ascii b (hdigits b hb)
  have hchars : text.toList = text.toUTF8.toList.map fun b => Char.ofNat b.toNat := by
    rw [toUTF8_toList]
    exact eq_map_of_ascii hascii
  have hout_ne : out ≠ [] := by
    rintro rfl
    have hnil : text.toList = [] := by
      rw [hchars, List.eq_nil_of_length_eq_zero hlength, List.map_nil]
    exact hne (String.toList_inj.mp hnil)
  refine ⟨⟨out, hout_ne⟩, ?_, ?_⟩
  · rw [ofHex_even heven, hout]
    exact ofBytes_of_ne_nil hout_ne
  · have hlower : text.toLower = text.map Char.toLower := rfl
    rw [toHex, Hex.encode, hwritten, hlower, ← String.toList_inj, String.toList_ofList,
      String.toList_map, hchars, List.map_map]
    rfl

/-- All bytes are digits, or there is a first one that is none. -/
theorem digits_or_first_bad (bytes : List UInt8) :
    (∀ b ∈ bytes, Hex.IsDigit b) ∨
      ∃ front b rest, bytes = front ++ b :: rest ∧ (∀ d ∈ front, Hex.IsDigit d) ∧
        ¬ Hex.IsDigit b := by
  cases hfind : bytes.find? fun b => ¬ Hex.IsDigit b with
  | none =>
    left
    simpa using hfind
  | some b =>
    obtain ⟨hbad, front, rest, hsplit, hfront⟩ := List.find?_eq_some_iff_append.mp hfind
    right
    refine ⟨front, b, rest, hsplit, ?_, by simpa using hbad⟩
    simpa using hfront

theorem ofHex_ok_iff : (∃ id, ofHex text = .ok id) ↔
    text ≠ "" ∧ text.toUTF8.toList.length % 2 = 0 ∧ ∀ b ∈ text.toUTF8.toList, Hex.IsDigit b := by
  constructor
  · rintro ⟨id, hread⟩
    have heven : text.toUTF8.toList.length % 2 = 0 := by
      rcases Nat.mod_two_eq_zero_or_one text.toUTF8.toList.length with heven | hodd
      · exact heven
      · rw [ofHex_odd hodd] at hread
        cases hread
    refine ⟨?_, heven, ?_⟩
    · rintro rfl
      rw [ofHex_empty] at hread
      cases hread
    · rcases digits_or_first_bad text.toUTF8.toList with hdigits | ⟨_, _, _, hsplit, hfront, hbad⟩
      · exact hdigits
      · rw [ofHex_bad hsplit heven hfront hbad] at hread
        cases hread
  · rintro ⟨hne, heven, hdigits⟩
    obtain ⟨id, hread, _⟩ := ofHex_digits hne heven hdigits
    exact ⟨id, hread⟩

/-- An identity is read back from its hexadecimal form. -/
theorem ofHex_toHex (id : Identity) : ofHex id.toHex = .ok id := by
  obtain ⟨hlength, hread⟩ := Hex.decodeFrom_encode id.bytes 0
  have hbytes : id.toHex.toUTF8.toList = encode (id.bytes.flatMap Hex.encodeByte) := by
    rw [toUTF8_toList, toHex, Hex.encode, String.toList_ofList]
  have heven : id.toHex.toUTF8.toList.length % 2 = 0 := by
    rw [hbytes, hlength]
    omega
  rw [ofHex_even heven, hbytes, hread]
  exact ofBytes_bytes id

theorem toHex_injective {one other : Identity} (h : one.toHex = other.toHex) : one = other := by
  have hread : (.ok one : Except IdentityFault Identity) = .ok other := by
    rw [← ofHex_toHex, h, ofHex_toHex]
  exact Except.ok.inj hread

/-- The hexadecimal form may name a channel. -/
theorem isChannel_toHex (id : Identity) : Fanout.isChannel id.toHex = true := by
  have hchars : id.toHex.toList = id.bytes.flatMap Hex.encodeByte := String.toList_ofList
  have hne : id.toHex ≠ "" := by
    intro hempty
    rw [hempty] at hchars
    obtain ⟨bytes, hbytes⟩ := id
    cases bytes with
    | nil => exact hbytes rfl
    | cons b rest => cases hchars
  have hall : ∀ c ∈ id.toHex.toList, (!Text.isBlank c && decide (c ≠ '!')) = true := by
    rw [hchars]
    intro c hc
    obtain ⟨b, _, hmem⟩ := List.mem_flatMap.mp hc
    exact Hex.encodeByte_isChannelChar b c hmem
  simp only [Fanout.isChannel, Bool.and_eq_true, List.all_eq_true]
  exact ⟨by simpa using hne, by simpa using hall⟩

/-- What becomes of a text that is to be read as an identity. -/
structure ReadAsHex (text : String) : Prop where
  accepted : (∃ id, ofHex text = .ok id) ↔
    text ≠ "" ∧ text.toUTF8.toList.length % 2 = 0 ∧ ∀ b ∈ text.toUTF8.toList, Hex.IsDigit b
  written : ∀ id, ofHex text = .ok id → id.toHex = text.toLower
  /-- An odd length is reported before anything else. -/
  odd : text.toUTF8.toList.length % 2 = 1 → ofHex text = .error (.oddLength text)
  /-- The first byte that is no digit is reported with its position. -/
  bad : ∀ front b rest, text.toUTF8.toList = front ++ b :: rest →
    text.toUTF8.toList.length % 2 = 0 → (∀ d ∈ front, Hex.IsDigit d) → ¬ Hex.IsDigit b →
    ofHex text = .error (.badDigit text b front.length)
  empty : text = "" → ofHex text = .error .empty

theorem readAsHex (text : String) : ReadAsHex text where
  accepted := ofHex_ok_iff
  written id hread := by
    obtain ⟨hne, heven, hdigits⟩ := ofHex_ok_iff.mp ⟨id, hread⟩
    obtain ⟨other, hother, hlower⟩ := ofHex_digits hne heven hdigits
    rw [hread] at hother
    cases hother
    exact hlower
  odd := ofHex_odd
  bad _ _ _ hsplit heven hfront hbad := ofHex_bad hsplit heven hfront hbad
  empty h := by
    rw [h, ofHex_empty]

end Identity

/-! ### Channel keys -/

namespace Fanout

variable {client : Client} {channel message : String} {callback : Nat} {error : AdapterError}

theorem subscribe_not_refused (hchannel : checkChannel channel = .ok ()) :
    .refused error ∉ (client.subscribe channel callback).2 := by
  simp only [Client.subscribe, hchannel]
  split <;> simp [Client.subscribedNote, Client.note]

theorem enqueue_refused (h : .refused error ∈ (client.enqueue channel).2) :
    error = Client.stopped := by
  unfold Client.enqueue at h
  split at h
  · split at h
    · simp [Client.subscribedNote, Client.note] at h
    · simpa using h
  · cases h

/-- A call to subscribe to a channel with a name that is taken fails only if nobody takes
commands. -/
theorem subscribeNow_refused (hchannel : checkChannel channel = .ok ())
    (h : .refused error ∈ (client.subscribeNow channel callback).2) : error = Client.stopped := by
  rcases List.mem_append.mp h with hfirst | hsecond
  · exact (subscribe_not_refused hchannel hfirst).elim
  · exact enqueue_refused hsecond

/-- A message that is taken, on a channel with a name that is taken, is refused only for want of a
connection or because nobody takes commands. -/
theorem announce_refused (hchannel : checkChannel channel = .ok ())
    (hmessage : checkMessage message = .ok ())
    (h : .refused error ∈ (client.announce channel message).2) :
    error = .connection s!"Not connected to fanout server {client.address}" ∨
      error = Client.stopped := by
  have hfault := (Client.announce_unchanged h).2
  simp only [Client.announceFault?, hchannel, hmessage] at hfault
  split at hfault
  · exact .inl (Option.some.inj hfault).symm
  · split at hfault
    · exact .inr (Option.some.inj hfault).symm
    · cases hfault

theorem checkChannel_toHex (id : Identity) : checkChannel id.toHex = .ok () :=
  if_pos id.isChannel_toHex

theorem checkMessage_changeMarker : checkMessage Flight.changeMarker = .ok () :=
  if_neg (by decide)

end Fanout

/-! ### The codec -/

/-- A text is read as an identity if and only if it is not empty, has an even number of bytes and
consists of digits, and the identity is written as the text with small letters. Otherwise an odd
length is reported, or else the first byte that is no digit with its position, or else that there
is nothing. A byte string that is not empty is read back from its hexadecimal form; so two
replicas have the same channel key if and only if they have the same identity. A channel key is
taken as the name of a channel: to subscribe to it, or to announce a change on it, fails only for
want of a connection or because nobody takes commands, and never as invalid. -/
theorem identity_codec :
    (∀ text, Identity.ReadAsHex text) ∧
    (∀ bytes, bytes ≠ [] → ∃ id, Identity.ofBytes bytes = .ok id ∧ id.bytes = bytes ∧
      Identity.ofHex id.toHex = .ok id) ∧
    (∀ one other : WatchConfig,
      one.channelKey = other.channelKey ↔ one.repository = other.repository) ∧
    ∀ config : WatchConfig, Fanout.checkChannel config.channelKey = .ok () ∧
      ∀ (client : Fanout.Client) callback error,
        (.refused error ∈ (client.subscribeNow config.channelKey callback).2 ∨
          .refused error ∈ (client.announce config.channelKey Flight.changeMarker).2) →
        ∀ text, error ≠ .operationFailed text := by
  refine ⟨Identity.readAsHex, fun bytes hne => ?_, fun one other => ?_, fun config => ?_⟩
  · exact ⟨⟨bytes, hne⟩, Identity.ofBytes_of_ne_nil hne, rfl, Identity.ofHex_toHex _⟩
  · exact ⟨Identity.toHex_injective, congrArg Identity.toHex⟩
  · have hchannel := Fanout.checkChannel_toHex config.repository
    refine ⟨hchannel, fun client callback error hrefused text => ?_⟩
    rcases hrefused with hmem | hmem
    · rw [Fanout.subscribeNow_refused hchannel hmem]
      simp [Fanout.Client.stopped]
    · rcases Fanout.announce_refused hchannel Fanout.checkMessage_changeMarker hmem with rfl | rfl
      · simp
      · simp [Fanout.Client.stopped]

/-- Capitals are read, a character of two bytes is named by its first one, and a client without a
connection refuses the announcement, but not as invalid. -/
theorem identity_codec_mixed :
    let config := Draft.empty.fill ⟨[Path.slash]⟩ ⟨[0xAB, 0x01], by decide⟩
    let client := Fanout.Client.new "h:1" Fanout.Client.standardDelay
    let refusal := AdapterError.connection "Not connected to fanout server h:1"
    (∃ id, Identity.ofHex "aB01" = .ok id ∧ id.toHex = "ab01") ∧
      Identity.ofHex "aB0" = .error (.oddLength "aB0") ∧
      Identity.ofHex "aé0" = .error (.badDigit "aé0" 0xC3 1) ∧
      Identity.ofHex "" = .error .empty ∧
      (∃ id, Identity.ofBytes [0xAB, 0x01] = .ok id ∧ id.bytes = [0xAB, 0x01] ∧
        Identity.ofHex id.toHex = .ok id) ∧
      .refused refusal ∈ (client.announce config.channelKey Flight.changeMarker).2 ∧
      ∀ text, refusal ≠ .operationFailed text := by
  intro config client refusal
  obtain ⟨hread, hbytes, _, hkeys⟩ := identity_codec
  have hcapitals : "aB01".toUTF8.toList = [0x61, 0x42, 0x30, 0x31] :=
    (Text.Utf8.toUTF8_toList _).trans (by decide +kernel)
  have hthree : "aB0".toUTF8.toList = [0x61, 0x42, 0x30] :=
    (Text.Utf8.toUTF8_toList _).trans (by decide +kernel)
  have haccent : "aé0".toUTF8.toList = [0x61, 0xC3, 0xA9, 0x30] :=
    (Text.Utf8.toUTF8_toList _).trans (by decide +kernel)
  have hrefused :
      .refused refusal ∈ (client.announce config.channelKey Flight.changeMarker).2 := by
    decide +kernel
  refine ⟨?_, (hread _).odd (by rw [hthree]; rfl), ?_, (hread _).empty rfl,
    hbytes _ (by decide), hrefused, (hkeys config).2 client 0 refusal (.inr hrefused)⟩
  · obtain ⟨id, hid⟩ := (hread "aB01").accepted.mpr
      ⟨by decide, by rw [hcapitals]; rfl, by rw [hcapitals]; decide +kernel⟩
    exact ⟨id, hid, ((hread _).written id hid).trans (by decide +kernel)⟩
  · exact (hread "aé0").bad [0x61] 0xC3 [0xA9, 0x30] haccent (by rw [haccent]; rfl)
      (by decide +kernel) (by decide +kernel)

end ReplicaSync
