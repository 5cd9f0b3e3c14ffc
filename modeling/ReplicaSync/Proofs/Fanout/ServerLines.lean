import Mathlib.Data.List.DropRight
import ReplicaSync.Proofs.Fanout.Lines

/-!
# Lines from the server

What a stream of bytes says is told apart from how a client reads it: a line break ends a line, and
so does the end of the stream if something is left; a line is a text or it is none; and a text is a
message on a channel or it is nothing. A client reads the same lines in the same order, and reads
out of each what it says. Main statements: `next_reads`, `Delivery.ofLine?_eq_some_iff` and
`Dispatched.unique`.
-/

namespace ReplicaSync.Fanout

/-! ### What a line says -/

/-- The bytes are those of some text. -/
def IsText (line : List UInt8) : Prop := ∃ text : List Char, line = Text.Utf8.encode text

namespace Delivery

/-- The line passes the message on: the channel, the first mark, and the message as far as the
carriage returns at the end of the line. -/
def IsReadFrom (delivery : Delivery) (line : List UInt8) : Prop :=
  '!' ∉ delivery.channel.toList ∧ delivery.message.toList.getLast? ≠ some '\r' ∧
    ∃ returns, line = Text.Utf8.encode (delivery.text.toList ++ List.replicate returns '\r')

theorem toList_text (channel message : String) :
    (Delivery.mk channel message).text.toList = channel.toList ++ '!' :: message.toList := by
  simp [text, ToString.toString]

theorem trimReturns_return (line : List Char) :
    trimReturns (line ++ ['\r']) = trimReturns line := by
  simp [trimReturns]

theorem trimReturns_eq_self_iff {s : List Char} :
    trimReturns s = s ↔ s.getLast? ≠ some '\r' := by
  show s.rdropWhile (· = '\r') = s ↔ _
  rw [List.rdropWhile_eq_self_iff]
  cases hlast : s.getLast? with
  | none => simp [List.getLast?_eq_none_iff.mp hlast]
  | some last =>
    obtain ⟨init, rfl⟩ := List.getLast?_eq_some_iff.mp hlast
    simp

theorem trimReturns_replicate (s : List Char) (returns : Nat) :
    trimReturns (s ++ List.replicate returns '\r') = trimReturns s := by
  induction returns with
  | zero => rw [List.replicate_zero, List.append_nil]
  | succ returns ih => rw [List.replicate_succ', ← List.append_assoc, trimReturns_return, ih]

theorem eq_trimReturns_append (s : List Char) :
    ∃ returns, s = trimReturns s ++ List.replicate returns '\r' := by
  refine ⟨(s.rtakeWhile (· = '\r')).length, ?_⟩
  have hreturns : s.rtakeWhile (· = '\r') =
      List.replicate (s.rtakeWhile (· = '\r')).length '\r' :=
    List.eq_replicate_of_mem fun c hmem => by simpa using List.mem_rtakeWhile_imp hmem
  rw [← hreturns]
  exact List.rdropWhile_append_rtakeWhile.symm

theorem trimReturns_trimReturns (s : List Char) : trimReturns (trimReturns s) = trimReturns s :=
  List.rdropWhile_idempotent _ _

theorem getLast?_text (delivery : Delivery) :
    delivery.text.toList.getLast? = some '\r' ↔ delivery.message.toList.getLast? = some '\r' := by
  obtain ⟨channel, message⟩ := delivery
  rw [toList_text, List.getLast?_append]
  cases hmessage : message.toList with
  | nil => simp
  | cons c rest => simp

/-- The line is read as the message that it passes on. -/
theorem ofLine?_eq_some_iff {line : List Char} {delivery : Delivery} :
    ofLine? line = some delivery ↔ delivery.IsReadFrom (Text.Utf8.encode line) := by
  constructor
  · intro h
    unfold ofLine? at h
    simp only at h
    split at h
    · cases h
    · rename_i mark message hrest
      cases h
      have hne : (trimReturns line).dropWhile (· ≠ '!') ≠ [] := by
        rw [hrest]
        exact List.cons_ne_nil _ _
      have hmark : mark = '!' := by
        have hhead := List.head_dropWhile_not (· ≠ '!') hne
        simp only [hrest, List.head_cons] at hhead
        simpa using hhead
      subst hmark
      have hline : trimReturns line =
          (Delivery.mk (String.ofList ((trimReturns line).takeWhile (· ≠ '!')))
            (String.ofList message)).text.toList := by
        rw [toList_text, String.toList_ofList, String.toList_ofList, ← hrest,
          List.takeWhile_append_dropWhile]
      refine ⟨?_, ?_, ?_⟩
      · rw [String.toList_ofList]
        intro hmem
        simpa using List.mem_takeWhile_imp hmem
      · rw [ne_eq, ← getLast?_text, ← hline]
        exact trimReturns_eq_self_iff.mp (trimReturns_trimReturns line)
      · obtain ⟨returns, hreturns⟩ := eq_trimReturns_append line
        exact ⟨returns, by rw [← hline, ← hreturns]⟩
  · rintro ⟨hchannel, hmessage, returns, hline⟩
    have hline := Text.Utf8.encode_injective hline
    have htrim : trimReturns line = delivery.text.toList := by
      rw [hline, trimReturns_replicate, trimReturns_eq_self_iff]
      exact mt (getLast?_text delivery).mp hmessage
    obtain ⟨channel, message⟩ := delivery
    have hchannel : ∀ c ∈ channel.toList, decide (c ≠ '!') = true := by
      intro c hmem
      exact decide_eq_true fun heq => hchannel (heq ▸ hmem)
    rw [ofLine?, htrim, toList_text, List.dropWhile_append_of_pos hchannel,
      List.takeWhile_append_of_pos hchannel]
    simp

/-- The line by which a server passes a message on, with what a client reads from it. -/
theorem ofLine?_text {channel : String} (h : isChannel channel = true) (message : String) :
    ofLine? (Delivery.mk channel message).text.toList =
      some ⟨channel, String.ofList (trimReturns message.toList)⟩ := by
  rw [ofLine?_eq_some_iff]
  refine ⟨mark_notMem h, ?_, ?_⟩
  · rw [String.toList_ofList]
    exact trimReturns_eq_self_iff.mp (trimReturns_trimReturns message.toList)
  · obtain ⟨returns, hmessage⟩ := eq_trimReturns_append message.toList
    refine ⟨returns, ?_⟩
    rw [toList_text, toList_text, String.toList_ofList, List.append_assoc, List.cons_append,
      ← hmessage]

/-- A line passes on one message at most. -/
theorem IsReadFrom.unique {line : List UInt8} {first second : Delivery}
    (hfirst : first.IsReadFrom line) (hsecond : second.IsReadFrom line) : first = second := by
  obtain ⟨_, _, returns, hline⟩ := id hfirst
  rw [hline] at hfirst hsecond
  exact Option.some.inj
    ((ofLine?_eq_some_iff.mpr hfirst).symm.trans (ofLine?_eq_some_iff.mpr hsecond))

theorem IsReadFrom.isText {line : List UInt8} {delivery : Delivery}
    (h : delivery.IsReadFrom line) : IsText line := by
  obtain ⟨_, _, returns, hline⟩ := h
  exact ⟨_, hline⟩

end Delivery

/-! ### What a stream says -/

/-- The lines of a stream: what stands between the line breaks, and what stands behind the last one
if the stream has ended and it is not empty. -/
def streamLines (bytes : List UInt8) (ended : Bool) : List (List UInt8) :=
  let parts := bytes.splitOn Inbound.lineBreak
  parts.dropLast ++ parts.getLast?.toList.filter fun last => ended && !last.isEmpty

theorem streamLines_break {line : List UInt8} (h : Inbound.lineBreak ∉ line) (rest : List UInt8)
    (ended : Bool) :
    streamLines (line ++ Inbound.lineBreak :: rest) ended = line :: streamLines rest ended := by
  have hrest : rest.splitOn Inbound.lineBreak ≠ [] := List.splitOn_ne_nil _ _
  simp only [streamLines, splitOn_break h]
  rw [List.dropLast_cons_of_ne_nil hrest, List.getLast?_cons_of_ne_nil hrest, List.cons_append]

theorem streamLines_unbroken {bytes : List UInt8} (h : Inbound.lineBreak ∉ bytes) (ended : Bool) :
    streamLines bytes ended = [bytes].filter fun last => ended && !last.isEmpty := by
  have hbytes : ∀ b ∈ bytes, (b == Inbound.lineBreak) = false := fun b hmem =>
    beq_eq_false_iff_ne.mpr fun heq => h (heq ▸ hmem)
  have hsplit : bytes.splitOn Inbound.lineBreak = [bytes] := by
    rw [List.splitOn_eq_splitOnP, List.splitOnP_eq_singleton hbytes]
  simp only [streamLines, hsplit]
  rfl

/-- What these lines start, one after the other, if these are the callbacks of the channels: for a
line that passes a message on, each callback of its channel once, in their order; for any other text
nothing. A line that is no text is the last one to be read. -/
inductive Dispatched (callbacks : String → List Nat) :
    List (List UInt8) → List ClientAct → Prop
  | done : Dispatched callbacks [] []
  | garbled {line : List UInt8} {rest : List (List UInt8)} (htext : ¬ IsText line) :
    Dispatched callbacks (line :: rest) []
  | ignored {line : List UInt8} {rest : List (List UInt8)} {starts : List ClientAct}
      (htext : IsText line) (hnone : ∀ delivery : Delivery, ¬ delivery.IsReadFrom line)
      (hrest : Dispatched callbacks rest starts) :
    Dispatched callbacks (line :: rest) starts
  | message {line : List UInt8} {rest : List (List UInt8)} {starts : List ClientAct}
      {delivery : Delivery} (hread : delivery.IsReadFrom line)
      (hrest : Dispatched callbacks rest starts) :
    Dispatched callbacks (line :: rest)
      ((callbacks delivery.channel).map (.started · delivery) ++ starts)

/-- The lines leave no choice. -/
theorem Dispatched.unique {callbacks : String → List Nat} {lines : List (List UInt8)}
    {first second : List ClientAct} (hfirst : Dispatched callbacks lines first)
    (hsecond : Dispatched callbacks lines second) : first = second := by
  induction hfirst generalizing second with
  | done =>
    cases hsecond
    rfl
  | garbled htext =>
    cases hsecond with
    | garbled => rfl
    | ignored hline => exact (htext hline).elim
    | message hread => exact (htext hread.isText).elim
  | ignored htext hnone _ ih =>
    cases hsecond with
    | garbled hgarbled => exact (hgarbled htext).elim
    | ignored _ _ hrest => exact ih hrest
    | message hread => exact (hnone _ hread).elim
  | message hread _ ih =>
    cases hsecond with
    | garbled hgarbled => exact (hgarbled hread.isText).elim
    | ignored _ hnone => exact (hnone _ hread).elim
    | message hother hrest => rw [hread.unique hother, ih hrest]

/-! ### What is read -/

namespace Inbound

/-- A line from the server as it is read. -/
def stripped (line : List Char) : List Char :=
  if line.getLast? = some '\r' then line.dropLast else line

theorem ofLine?_stripped (line : List Char) :
    Delivery.ofLine? (stripped line) = Delivery.ofLine? line := by
  unfold stripped
  split
  · rename_i hlast
    have hline : line.dropLast ++ ['\r'] = line := List.dropLast_append_getLast? _ hlast
    have htrim : Delivery.trimReturns line.dropLast = Delivery.trimReturns line := by
      rw [← Delivery.trimReturns_return, hline]
    simp only [Delivery.ofLine?, htrim]
  · rfl

/-- The line is the next one, whatever arrives behind it; this is left. -/
inductive NextLine : Inbound → List UInt8 → Inbound → Prop
  | broken {line rest : List UInt8} {ended : Bool} (h : lineBreak ∉ line) :
    NextLine ⟨line ++ lineBreak :: rest, ended⟩ line ⟨rest, ended⟩
  | last {line : List UInt8} (h : lineBreak ∉ line) (hline : line ≠ []) :
    NextLine ⟨line, true⟩ line ⟨[], true⟩

/-- The ways in which the next read ends. -/
inductive Reads (inbound : Inbound) : LineRead → Inbound → Prop
  | wait (hended : inbound.ended = false) (hbreak : lineBreak ∉ inbound.bytes) :
    Reads inbound .wait inbound
  | done (hended : inbound.ended = true) (hbytes : inbound.bytes = []) :
    Reads inbound .done inbound
  | line {line : List UInt8} {left : Inbound} {text shown : List Char}
      (hnext : inbound.NextLine line left) (htext : line = Text.Utf8.encode text)
      (hshown : Delivery.ofLine? shown = Delivery.ofLine? text) :
    Reads inbound (.line shown) left
  | garbled {line : List UInt8} {left : Inbound} (hnext : inbound.NextLine line left)
      (htext : ¬ IsText line) :
    Reads inbound .garbled left

variable {inbound left : Inbound} {line : List UInt8}

/-- The line is the first one of the stream, however the stream goes on. -/
theorem NextLine.streamLines (h : inbound.NextLine line left) {more : List UInt8} {ended : Bool}
    (hmore : inbound.ended = true → more = [] ∧ ended = true) :
    streamLines (inbound.bytes ++ more) ended = line :: streamLines (left.bytes ++ more) ended := by
  cases h with
  | broken hline =>
    show Fanout.streamLines (_ ++ _ ++ more) ended = _
    rw [List.append_assoc, List.cons_append, streamLines_break hline]
  | last hbreak hline =>
    obtain ⟨rfl, rfl⟩ := hmore rfl
    rw [List.append_nil, List.append_nil, streamLines_unbroken hbreak,
      streamLines_unbroken List.not_mem_nil, List.filter_cons_of_pos (by simpa using hline)]
    rfl

theorem NextLine.ended (h : inbound.NextLine line left) : left.ended = inbound.ended := by
  cases h with
  | broken | last => rfl

theorem NextLine.shorter (h : inbound.NextLine line left) :
    left.bytes.length < inbound.bytes.length := by
  cases h with
  | @broken line rest _ _ =>
    show rest.length < (line ++ lineBreak :: rest).length
    rw [List.length_append, List.length_cons]
    omega
  | last _ hline => exact List.length_pos_iff.mpr hline

theorem NextLine.reads (h : inbound.NextLine line left) (broken : Bool) :
    inbound.Reads (readBytes line broken) left := by
  unfold readBytes
  cases hread : Text.Utf8.decode? line with
  | none =>
    refine .garbled h ?_
    rintro ⟨text, htext⟩
    rw [htext, Text.Utf8.decode?_encode] at hread
    cases hread
  | some text =>
    refine .line h (Text.Utf8.decode?_eq_some_iff.mp hread) ?_
    cases broken with
    | false => rfl
    | true =>
      simp only [Bool.true_and, decide_eq_true_eq]
      exact ofLine?_stripped text.toList

theorem next_reads (inbound : Inbound) : inbound.Reads inbound.next.1 inbound.next.2 := by
  obtain ⟨bytes, ended⟩ := inbound
  have hsplit := List.takeWhile_append_dropWhile (p := (· ≠ lineBreak)) (l := bytes)
  have hbreak : lineBreak ∉ bytes.takeWhile (· ≠ lineBreak) := by
    intro hmem
    simpa using List.mem_takeWhile_imp hmem
  unfold next
  simp only
  split
  · rename_i first rest hrest
    have hfirst : first = lineBreak := by
      have hne : bytes.dropWhile (· ≠ lineBreak) ≠ [] := by
        rw [hrest]
        exact List.cons_ne_nil _ _
      have hhead := List.head_dropWhile_not (· ≠ lineBreak) hne
      simp only [hrest, List.head_cons] at hhead
      simpa using hhead
    rw [hrest, hfirst] at hsplit
    have hnext : NextLine ⟨bytes, ended⟩ (bytes.takeWhile (· ≠ lineBreak)) ⟨rest, ended⟩ := by
      have hnext := @NextLine.broken _ rest ended hbreak
      rwa [hsplit] at hnext
    exact hnext.reads true
  · rename_i hnone
    rw [hnone, List.append_nil] at hsplit
    rw [hsplit] at hbreak
    cases ended with
    | false => exact .wait rfl hbreak
    | true =>
      by_cases hbytes : bytes = []
      · simp only [Bool.not_true, Bool.false_eq_true, if_false, if_pos hbytes]
        exact .done rfl hbytes
      · simp only [Bool.not_true, Bool.false_eq_true, if_false, if_neg hbytes]
        exact (NextLine.last hbreak hbytes).reads false

end Inbound

end ReplicaSync.Fanout
