import ReplicaSync.Log.Entry
import ReplicaSync.Proofs.Json.RoundTrip
import ReplicaSync.Proofs.Time.Timestamps

/-!
# Log entries in JSON and back

An entry is read back from its text as it was, to the nanosecond and in every year, with the fields
in the order of their keys. A timestamp with another offset from UTC names the same instant, and is
written in UTC again; only a date beyond the calendar is not read, although the instant may lie
within. Main statement: `log_entry_round_trip`.
-/

namespace ReplicaSync

open Json

/-! ### Fields -/

namespace LogFields

variable {key value : String} {entries rest : List (String × String)}

theorem place_last (h : ∀ entry ∈ entries, entry.1 < key) :
    place key value entries = entries ++ [(key, value)] := by
  induction entries with
  | nil => rfl
  | cons entry rest ih =>
    obtain ⟨hentry, hrest⟩ := List.forall_mem_cons.mp h
    have hnot : ¬ key < entry.1 := fun hlt => String.lt_irrefl _ (String.lt_trans hlt hentry)
    have hne : ¬ key = entry.1 := fun heq => String.lt_irrefl _ (heq ▸ hentry)
    rw [place, if_neg hnot, if_neg hne, ih hrest, List.cons_append]

theorem foldl_insert (fields : LogFields) (h : KeysSorted (fields.entries ++ rest)) :
    (rest.foldl (fun fields pair => fields.insert pair.1 pair.2) fields).entries =
      fields.entries ++ rest := by
  induction rest generalizing fields with
  | nil => simp
  | cons entry rest ih =>
    -- the keys are in order, so each one goes behind those before it
    have hlast : (fields.insert entry.1 entry.2).entries = fields.entries ++ [entry] :=
      place_last fun other hother => (List.pairwise_append.mp h).2.2 other hother entry (by simp)
    have hsorted : KeysSorted ((fields.insert entry.1 entry.2).entries ++ rest) := by
      rw [hlast, List.append_assoc]
      exact h
    rw [List.foldl_cons, ih _ hsorted, hlast, List.append_assoc]
    rfl

theorem ofList_entries (fields : LogFields) : ofList fields.entries = fields := by
  have hentries : (ofList fields.entries).entries = fields.entries :=
    foldl_insert empty fields.sorted
  cases hfields : ofList fields.entries
  cases fields
  simp_all

end LogFields

namespace LogEntry

theorem fieldsOfJson?_entries (fields : LogFields) :
    fieldsOfJson? (.obj (fields.entries.map fun entry => (entry.1, .str entry.2))) =
      some fields := by
  have hmembers : ∀ entries : List (String × String),
      (entries.map fun entry => (entry.1, Json.str entry.2)).mapM
        (fun member => do return (member.1, ← str? member.2)) = some entries := by
    intro entries
    induction entries with
    | nil => rfl
    | cons entry entries ih =>
      rw [List.map_cons, List.mapM_cons, ih]
      rfl
  simp only [fieldsOfJson?, hmembers]
  exact congrArg some fields.ofList_entries

/-- The JSON value of the entry, with any text for the time. -/
def stamped (entry : LogEntry) (stamp : String) : Json :=
  .obj [("level", .str entry.record.level.title),
    ("timestamp", .str stamp),
    ("target", .str entry.record.target),
    ("message", .str entry.record.message),
    ("fields", .obj (entry.record.fields.entries.map fun entry => (entry.1, .str entry.2))),
    ("span", .ofOption .str entry.record.span)]

theorem toJson_eq (entry : LogEntry) : entry.toJson = entry.stamped entry.timestamp.rfc3339 := rfl

theorem fields?_stamped (entry : LogEntry) (stamp : String) :
    (entry.stamped stamp).fields? ["level", "timestamp", "target", "message", "fields", "span"] =
      some [some (.str entry.record.level.title),
        some (.str stamp),
        some (.str entry.record.target),
        some (.str entry.record.message),
        some (.obj (entry.record.fields.entries.map fun entry => (entry.1, .str entry.2))),
        some (.ofOption .str entry.record.span)] := by
  simp [stamped, fields?, lookup, isSingle]

theorem ofJson?_stamped (entry : LogEntry) (stamp : String) :
    ofJson? (entry.stamped stamp) =
      (Instant.ofRfc3339? stamp).map fun timestamp => { entry with timestamp } := by
  have hfound := fields?_stamped entry stamp
  obtain ⟨timestamp, level, target, message, fields, span⟩ := entry
  have hlevel : required? (choice? LogLevel.titled) (some (.str level.title)) = some level := by
    cases level <;> rfl
  have hstamp : required? timestampOfJson? (some (.str stamp)) = Instant.ofRfc3339? stamp := rfl
  have htext : ∀ text, required? str? (some (.str text)) = some text := fun _ => rfl
  have hfields : required? fieldsOfJson?
      (some (.obj (fields.entries.map fun entry => (entry.1, .str entry.2)))) = some fields :=
    fieldsOfJson?_entries fields
  have hspan : optional? str? (some (.ofOption .str span)) = some span := by
    cases span <;> rfl
  simp only [ofJson?, hfound, Option.bind_eq_bind, Option.bind_some, hlevel, hstamp, htext, hfields,
    hspan]
  cases Instant.ofRfc3339? stamp <;> rfl

theorem decode?_stamped (entry : LogEntry) (offset : Timestamp.Offset) :
    decode? ofJson? (entry.stamped (entry.timestamp.textAt offset)).compact =
      if Timestamp.InCalendar (entry.timestamp.secs + offset.secs) then some entry else none := by
  rw [decode?_compact, ofJson?_stamped, Instant.ofRfc3339?_textAt]
  split <;> rfl

theorem decode?_toJson (entry : LogEntry) : decode? ofJson? entry.toJson.compact = some entry := by
  rw [toJson_eq, decode?_compact, ofJson?_stamped, Instant.ofRfc3339?_rfc3339]
  rfl

end LogEntry

open Timestamp

/-- An entry is read back from its text. If its time is written with any other offset from UTC, and
the date that is shown lies in the calendar, the same entry is read, and written back with its time
in UTC. If the date lies beyond the calendar, the text is refused. -/
theorem log_entry_round_trip (entry : LogEntry) :
    decode? LogEntry.ofJson? entry.toJson.compact = some entry ∧
    ∀ offset : Offset,
      let text := (entry.stamped (entry.timestamp.textAt offset)).compact
      (InCalendar (entry.timestamp.secs + offset.secs) →
        decode? LogEntry.ofJson? text = some entry ∧
          (decode? LogEntry.ofJson? text).map (·.toJson.compact) = some entry.toJson.compact) ∧
      (¬ InCalendar (entry.timestamp.secs + offset.secs) →
        decode? LogEntry.ofJson? text = none) := by
  refine ⟨entry.decode?_toJson, fun offset => ?_⟩
  intro text
  have hread : decode? LogEntry.ofJson? text =
      if InCalendar (entry.timestamp.secs + offset.secs) then some entry else none :=
    entry.decode?_stamped offset
  constructor
  · intro hcalendar
    rw [hread, if_pos hcalendar]
    exact ⟨rfl, rfl⟩
  · intro hbeyond
    rw [hread, if_neg hbeyond]

/-- A leap second before the year 0, which is shown in the year 0. -/
theorem log_entry_round_trip_leap :
    let offset : Offset := ⟨false, 5, 30, by decide, by decide⟩
    let entry : LogEntry := ⟨⟨-62167219201, 1500000000, by decide, by decide⟩,
      .warn, "core", "done", .ofList [("key", "value")], some "pass"⟩
    entry.timestamp.rfc3339 = "-0001-12-31T23:59:60.500Z" ∧
      entry.timestamp.textAt offset = "0000-01-01T05:29:60.500+05:30" ∧
      decode? LogEntry.ofJson? (entry.stamped (entry.timestamp.textAt offset)).compact =
        some entry := by
  intro offset entry
  exact ⟨by decide +kernel, by decide +kernel,
    (((log_entry_round_trip entry).2 offset).1 (by decide)).1⟩

/-- The last hour of the calendar is not read with an offset that shows it in the year after. -/
theorem shown_beyond_calendar :
    let offset : Offset := ⟨false, 1, 0, by decide, by decide⟩
    let entry : LogEntry := ⟨⟨8210266875000, 0, by decide, by decide⟩,
      .info, "t", "m", .empty, none⟩
    entry.timestamp.rfc3339 = "+262142-12-31T23:30:00Z" ∧
      entry.timestamp.textAt offset = "+262143-01-01T00:30:00+01:00" ∧
      decode? LogEntry.ofJson? (entry.stamped (entry.timestamp.textAt offset)).compact = none := by
  intro offset entry
  refine ⟨by decide +kernel, by decide +kernel, ?_⟩
  rw [entry.decode?_stamped offset]
  exact if_neg (by decide)

end ReplicaSync
