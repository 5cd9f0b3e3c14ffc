import Mathlib.Data.List.Basic
import Mathlib.Data.List.Induction
import ReplicaSync.Fanout.Client
import ReplicaSync.Proofs.Text.Utf8

/-!
# Lines from the client

The encoder puts a blank after the verb and after the channel and a line break at the end, and
checks nothing. It is the calls that keep these characters out of a channel and line breaks out of
a message. So the bytes of accepted commands fall into one line for each, and each line is read
back as its command. Main statement: `outbound_lines`.
-/

namespace ReplicaSync.Fanout

/-! ### Channels and messages -/

theorem isChannel_iff (name : String) :
    isChannel name = true ↔
      name.toList ≠ [] ∧ ∀ c ∈ name.toList, Text.isBlank c = false ∧ c ≠ '!' := by
  simp [isChannel, List.all_eq_true]

theorem blank_notMem {name : String} (h : isChannel name = true) {blank : Char}
    (hblank : Text.isBlank blank = true) : blank ∉ name.toList := by
  intro hmem
  have hnot := (((isChannel_iff name).mp h).2 blank hmem).1
  rw [hblank] at hnot
  cases hnot

theorem mark_notMem {name : String} (h : isChannel name = true) : '!' ∉ name.toList := by
  intro hmem
  exact (((isChannel_iff name).mp h).2 '!' hmem).2 rfl

theorem checkChannel_eq_ok_iff (name : String) :
    checkChannel name = .ok () ↔ isChannel name = true := by
  unfold checkChannel
  split <;> simp [*]

theorem checkMessage_eq_ok_iff (message : String) :
    checkMessage message = .ok () ↔ '\n' ∉ message.toList := by
  unfold checkMessage
  split <;> simp_all

/-! ### Accepted commands -/

namespace Command

/-- The answer to a call of some client is that the command is taken. -/
def IsAccepted : Command → Prop
  | .subscribe channel => ∃ (client : Client) (callback : Nat),
      Client.verdict (client.subscribeNow channel callback).2 = .ok ()
  | .announce channel message => ∃ client : Client,
      Client.verdict (client.announce channel message).2 = .ok ()

/-- What the encoder puts between the parts of a line does not occur in them. -/
def IsPlain : Command → Prop
  | .subscribe channel => isChannel channel = true
  | .announce channel message => isChannel channel = true ∧ '\n' ∉ message.toList

end Command

namespace Client

variable {client : Client}

theorem verdict_eq_ok_iff (acts : List ClientAct) :
    verdict acts = .ok () ↔ ∀ error, .refused error ∉ acts := by
  induction acts using List.reverseRecOn with
  | nil => simp [verdict]
  | append_singleton acts act ih =>
    unfold verdict at ih ⊢
    rw [List.foldl_append]
    cases act with
    | refused error =>
      constructor
      · intro h
        cases h
      · intro h
        exact (h error (List.mem_append_right _ List.mem_cons_self)).elim
    | wrote | accepted | started | log => simpa using ih

theorem isChannel_of_subscribe {channel : String} {callback : Nat}
    (h : verdict (client.subscribeNow channel callback).2 = .ok ()) :
    isChannel channel = true := by
  rw [verdict_eq_ok_iff] at h
  rw [← checkChannel_eq_ok_iff]
  cases hcheck : checkChannel channel with
  | ok => rfl
  | error error =>
    refine (h error ?_).elim
    have hfirst : (client.subscribe channel callback).2 = [.refused error] := by
      rw [subscribe, hcheck]
    show _ ∈ (client.subscribe channel callback).2 ++ _
    rw [hfirst]
    exact List.mem_cons_self

theorem announceFault?_of_verdict {channel message : String}
    (h : verdict (client.announce channel message).2 = .ok ()) :
    client.announceFault? channel message = none := by
  cases hfault : client.announceFault? channel message with
  | none => rfl
  | some error =>
    rw [announce, hfault] at h
    cases h

theorem isPlain_of_announceFault? {channel message : String}
    (h : client.announceFault? channel message = none) :
    (Command.announce channel message).IsPlain := by
  unfold announceFault? at h
  split at h
  · cases h
  · cases h
  · rename_i hchannel hmessage
    exact ⟨(checkChannel_eq_ok_iff channel).mp hchannel,
      (checkMessage_eq_ok_iff message).mp hmessage⟩

end Client

namespace Command

theorem IsAccepted.isPlain {command : Command} (h : command.IsAccepted) : command.IsPlain := by
  cases command with
  | subscribe channel =>
    obtain ⟨client, callback, hcall⟩ := h
    exact Client.isChannel_of_subscribe hcall
  | announce channel message =>
    obtain ⟨client, hcall⟩ := h
    exact Client.isPlain_of_announceFault? (Client.announceFault?_of_verdict hcall)

/-! ### One line -/

/-- Reads the bytes of a line without its end. -/
def ofBytes? (line : List UInt8) : Option Command :=
  (Text.Utf8.decode? line).bind fun text => ofLine? text.toList

theorem splitAtBlank_append {part : List Char} (h : ' ' ∉ part) (rest : List Char) :
    splitAtBlank (part ++ ' ' :: rest) = some (part, rest) := by
  have hpart : ∀ c ∈ part, decide (c ≠ ' ') = true := by
    intro c hmem
    exact decide_eq_true fun heq => h (heq ▸ hmem)
  unfold splitAtBlank
  rw [List.dropWhile_append_of_pos hpart, List.takeWhile_append_of_pos hpart]
  simp

theorem toList_subscribe (channel : String) :
    (text (.subscribe channel)).toList = "subscribe".toList ++ ' ' :: channel.toList := by
  simp [text, ToString.toString]

theorem toList_announce (channel message : String) :
    (text (.announce channel message)).toList =
      "announce".toList ++ ' ' :: (channel.toList ++ ' ' :: message.toList) := by
  simp [text, ToString.toString]

theorem ofLine?_text {command : Command} (h : command.IsPlain) :
    ofLine? command.text.toList = some command := by
  cases command with
  | subscribe channel =>
    have hverb : ' ' ∉ "subscribe".toList := by decide
    rw [ofLine?, toList_subscribe, splitAtBlank_append hverb]
    simp
  | announce channel message =>
    have hverb : ' ' ∉ "announce".toList := by decide
    have hchannel : ' ' ∉ channel.toList := blank_notMem h.1 Text.isBlank_space
    rw [ofLine?, toList_announce, splitAtBlank_append hverb]
    simp [splitAtBlank_append hchannel]

theorem newline_notMem_text {command : Command} (h : command.IsPlain) :
    '\n' ∉ command.text.toList := by
  cases command with
  | subscribe channel =>
    have hchannel := blank_notMem h Text.isBlank_newline
    rw [toList_subscribe]
    simp [hchannel]
  | announce channel message =>
    have hchannel := blank_notMem h.1 Text.isBlank_newline
    rw [toList_announce]
    simp [hchannel, h.2]

theorem ofBytes?_encode {command : Command} (h : command.IsPlain) :
    ofBytes? (Text.Utf8.encode command.text.toList) = some command := by
  rw [ofBytes?, Text.Utf8.decode?_encode, Option.bind_some, String.toList_ofList, ofLine?_text h]

end Command

/-! ### All lines -/

/-- The bytes of a line. -/
def lineBytes (line : List Char) : List UInt8 := Text.Utf8.encode line ++ [Inbound.lineBreak]

theorem Command.bytes_eq (command : Command) : command.bytes = lineBytes command.text.toList := by
  rw [bytes, Text.Utf8.encode_append]
  rfl

theorem lineBreak_notMem_encode {line : List Char} (h : '\n' ∉ line) :
    Inbound.lineBreak ∉ Text.Utf8.encode line := by
  rw [Text.Utf8.mem_encode_iff (by decide)]
  exact h

/-- A line break cuts off what stands before it. -/
theorem splitOn_break {line : List UInt8} (h : Inbound.lineBreak ∉ line) (rest : List UInt8) :
    (line ++ Inbound.lineBreak :: rest).splitOn Inbound.lineBreak =
      line :: rest.splitOn Inbound.lineBreak := by
  have hline : ∀ b ∈ line, (b == Inbound.lineBreak) = false := fun b hmem =>
    beq_eq_false_iff_ne.mpr fun heq => h (heq ▸ hmem)
  rw [List.splitOn_eq_splitOnP, List.splitOn_eq_splitOnP,
    List.splitOnP_append_cons_of_forall_mem hline _ (beq_self_eq_true _)]

/-- The bytes of lines fall into the lines that they are of. -/
theorem splitOn_lineBytes {lines : List (List Char)} (h : ∀ line ∈ lines, '\n' ∉ line) :
    (lines.flatMap lineBytes).splitOn Inbound.lineBreak =
      lines.map Text.Utf8.encode ++ [[]] := by
  induction lines with
  | nil => rfl
  | cons line rest ih =>
    rw [List.forall_mem_cons] at h
    have hbytes : (line :: rest).flatMap lineBytes =
        Text.Utf8.encode line ++ Inbound.lineBreak :: rest.flatMap lineBytes := by
      rw [List.flatMap_cons, lineBytes, List.append_assoc]
      rfl
    rw [hbytes, splitOn_break (lineBreak_notMem_encode h.1), ih h.2]
    rfl

theorem splitOn_bytes {commands : List Command} (h : ∀ command ∈ commands, command.IsPlain) :
    (commands.flatMap Command.bytes).splitOn Inbound.lineBreak =
      commands.map (fun command => Text.Utf8.encode command.text.toList) ++ [[]] := by
  have hlines : ∀ line ∈ commands.map (·.text.toList), '\n' ∉ line := by
    rw [List.forall_mem_map]
    exact fun command hmem => Command.newline_notMem_text (h command hmem)
  have hbytes : commands.flatMap Command.bytes =
      (commands.map (·.text.toList)).flatMap lineBytes := by
    rw [List.flatMap_map]
    exact List.flatMap_congr fun command _ => command.bytes_eq
  rw [hbytes, splitOn_lineBytes hlines, List.map_map]
  rfl

/-- The lines are read back as the commands that they were written for. -/
theorem map_ofBytes? {commands : List Command} (h : ∀ command ∈ commands, command.IsPlain) :
    (commands.map fun command => Text.Utf8.encode command.text.toList).map Command.ofBytes? =
      commands.map some := by
  rw [List.map_map]
  exact List.map_congr_left fun command hmem => Command.ofBytes?_encode (h command hmem)

/-- The bytes of accepted commands fall into exactly one line for each, with nothing behind the
last, and each line is read back as its command. So other accepted commands have other bytes. -/
theorem outbound_lines (commands : List Command) (h : ∀ command ∈ commands, command.IsAccepted) :
    (∃ lines : List (List UInt8),
      (commands.flatMap Command.bytes).splitOn Inbound.lineBreak = lines ++ [[]] ∧
        lines.length = commands.length ∧ lines.map Command.ofBytes? = commands.map some) ∧
      ∀ others : List Command, (∀ command ∈ others, command.IsAccepted) →
        others.flatMap Command.bytes = commands.flatMap Command.bytes → others = commands := by
  have hplain : ∀ command ∈ commands, command.IsPlain := fun command hmem =>
    (h command hmem).isPlain
  refine ⟨⟨_, splitOn_bytes hplain, by simp, map_ofBytes? hplain⟩, fun others hothers hsame => ?_⟩
  have hothers : ∀ command ∈ others, command.IsPlain := fun command hmem =>
    (hothers command hmem).isPlain
  have hlines : others.map (fun command => Text.Utf8.encode command.text.toList) =
      commands.map (fun command => Text.Utf8.encode command.text.toList) := by
    have hsplit := (splitOn_bytes hothers).symm.trans (hsame ▸ splitOn_bytes hplain)
    exact List.append_cancel_right hsplit
  have hread : others.map some = commands.map some := by
    rw [← map_ofBytes? hothers, hlines, map_ofBytes? hplain]
  exact List.map_injective_iff.mpr (fun _ _ => Option.some.inj) hread

/-- A message with a blank and a mark is one line, and is read back whole. -/
theorem outbound_lines_marked :
    ∃ lines : List (List UInt8),
      ([.subscribe "ab01", .announce "ab01" " 1!"].flatMap Command.bytes).splitOn
          Inbound.lineBreak = lines ++ [[]] ∧ lines.length = 2 ∧
        lines.map Command.ofBytes? =
          [some (.subscribe "ab01"), some (.announce "ab01" " 1!")] := by
  refine (outbound_lines [.subscribe "ab01", .announce "ab01" " 1!"] fun command hmem => ?_).1
  rcases List.mem_pair.mp hmem with rfl | rfl
  · exact ⟨Client.new "" Client.standardDelay, 0, by decide +kernel⟩
  · exact ⟨((Client.new "" Client.standardDelay).run
      [.connected, .emptyQueue, .list [], .replay none]).1, by decide +kernel⟩

end ReplicaSync.Fanout
