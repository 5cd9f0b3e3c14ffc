import ReplicaSync.Log.Level
import ReplicaSync.Proofs.Text.Utf8
import ReplicaSync.Trigger

/-!
# Names in any case

A name is compared after lower-casing by the rules for all letters, and these lead from two letters
outside ASCII to small letters inside: the dotted capital I becomes an `i` with a mark behind it,
and the sign of the kelvin a `k`. No name has a `k` or such a mark, so a text is read as a name if
and only if it has the letters of the name up to their case within ASCII. Main statement:
`names_in_any_case`.
-/

namespace ReplicaSync

namespace Text

variable {c : Char} {s name : List Char}

/-! ### Lower-casing one character -/

/-- What holds of 128 numbers holds of all characters of ASCII. -/
theorem forall_ascii {P : Char → Prop} (h : ∀ n < 0x80, P (Char.ofNat n)) (hc : c.toNat < 0x80) :
    P c := by
  have hP := h c.toNat hc
  rwa [Char.ofNat_toNat] at hP

theorem lowerChar_ascii (h : c.toNat < 0x80) : lowerChar c = [c.toLower] :=
  forall_ascii (P := fun c => lowerChar c = [c.toLower]) (by decide +kernel) h

theorem toLower_foreign (h : 0x80 ≤ c.toNat) : c.toLower = c := by
  have hnot : ¬ (c.val ≥ 'A'.val ∧ c.val ≤ 'Z'.val) := by
    rintro ⟨-, hle⟩
    have hle : c.toNat ≤ 0x5A := UInt32.le_iff_toNat_le.mp hle
    omega
  exact dif_neg hnot

/-- The run keeps to ASCII, or leads to characters outside it, or is the sign of the kelvin. -/
def CaseRun.IsSettled (run : CaseRun) : Prop :=
  run.last < 0x80 ∨
    0x80 ≤ run.first + run.shift ∧ run.last + run.shift < 0xD800 ∨
    0xDFFF < run.first + run.shift ∧ run.last + run.shift < 0x110000 ∨
    run.first = 0x212A ∧ run.last = 0x212A ∧ run.shift = 0x6B - 0x212A

instance (run : CaseRun) : Decidable run.IsSettled := by
  unfold CaseRun.IsSettled
  infer_instance

theorem caseRuns_settled : ∀ run ∈ caseRuns, run.IsSettled := by decide +kernel

/-- A character of ASCII to which none outside ASCII is lower-cased. -/
def isPlain (d : Char) : Bool := d.toNat < 0x80 && d != 'k'

theorem isPlain_foreign (h : 0x80 ≤ c.toNat) : isPlain c = false := by
  have hnot : decide (c.toNat < 0x80) = false := decide_eq_false (by omega)
  rw [isPlain, hnot, Bool.false_and]

theorem CaseRun.leaves_plain {run : CaseRun} (hrun : run ∈ caseRuns)
    (hcovers : run.covers c.toNat = true) (h : 0x80 ≤ c.toNat) :
    isPlain (Char.ofNat (Int.toNat (c.toNat + run.shift))) = false := by
  simp only [covers, Bool.and_eq_true, decide_eq_true_eq] at hcovers
  obtain ⟨⟨hfirst, hlast⟩, -⟩ := hcovers
  rcases caseRuns_settled run hrun with hascii | hlow | hhigh | ⟨hkelvin, hsame, hshift⟩
  · omega
  · have hcode : Int.toNat (c.toNat + run.shift) < 0xD800 := by omega
    apply isPlain_foreign
    rw [Char.toNat, Utf8.toNat_ofNat (Or.inl hcode)]
    omega
  · have hcode : 0xDFFF < Int.toNat (c.toNat + run.shift) ∧
        Int.toNat (c.toNat + run.shift) < 0x110000 := by omega
    apply isPlain_foreign
    rw [Char.toNat, Utf8.toNat_ofNat (Or.inr hcode)]
    omega
  · have hcode : Int.toNat (c.toNat + run.shift) = 0x6B := by omega
    rw [hcode]
    rfl

theorem lowerChar_foreign (h : 0x80 ≤ c.toNat) : ∃ d ∈ lowerChar c, isPlain d = false := by
  unfold lowerChar
  split
  · exact ⟨Char.ofNat 0x307, by simp, rfl⟩
  split
  · rename_i run hfound
    have hcovers : run.covers c.toNat = true :=
      List.find?_some (p := fun run : CaseRun => run.covers c.toNat) hfound
    exact ⟨_, List.mem_singleton_self _,
      CaseRun.leaves_plain (List.mem_of_find?_eq_some hfound) hcovers h⟩
  · exact ⟨c, List.mem_singleton_self c, isPlain_foreign h⟩

example : lowerChar (Char.ofNat 0x212A) = ['k'] := by decide +kernel

/-! ### Lower-casing a text -/

theorem lowerAfter_ascii (before : List Char) (h : ∀ c ∈ s, c.toNat < 0x80) :
    lowerAfter before s = s.map Char.toLower := by
  induction s generalizing before with
  | nil => rfl
  | cons c rest ih =>
    obtain ⟨hc, hrest⟩ := List.forall_mem_cons.mp h
    have hsigma : c ≠ capitalSigma := by
      rintro rfl
      exact absurd hc (by decide)
    rw [lowerAfter, if_neg hsigma, lowerChar_ascii hc, ih _ hrest]
    rfl

theorem lowerSigma_foreign (before after : List Char) :
    isPlain (lowerSigma before after) = false := by
  unfold lowerSigma
  split <;> rfl

theorem lowerAfter_foreign (before : List Char) (hc : c ∈ s) (h : 0x80 ≤ c.toNat) :
    ∃ d ∈ lowerAfter before s, isPlain d = false := by
  induction s generalizing before with
  | nil => cases hc
  | cons first rest ih =>
    rw [lowerAfter]
    rcases List.mem_cons.mp hc with rfl | hrest
    · split
      · have hplain := lowerSigma_foreign before rest
        exact ⟨_, List.mem_append_left _ (List.mem_singleton_self _), hplain⟩
      · obtain ⟨d, hd, hplain⟩ := lowerChar_foreign h
        exact ⟨d, List.mem_append_left _ hd, hplain⟩
    · obtain ⟨d, hd, hplain⟩ := ih (first :: before) hrest
      exact ⟨d, List.mem_append_right _ hd, hplain⟩

/-- Where all characters of a name are plain, only the case within ASCII counts. -/
theorem lowerAfter_eq_iff (before : List Char) (hname : ∀ d ∈ name, isPlain d = true) :
    lowerAfter before s = name ↔ s.map Char.toLower = name := by
  by_cases hascii : ∀ c ∈ s, c.toNat < 0x80
  · rw [lowerAfter_ascii before hascii]
  · -- neither side holds, as what a character outside ASCII leads to is in no name
    obtain ⟨c, hc, hforeign⟩ : ∃ c ∈ s, 0x80 ≤ c.toNat := by simpa using hascii
    obtain ⟨d, hd, hplain⟩ := lowerAfter_foreign before hc hforeign
    constructor
    · rintro rfl
      exact absurd (hname d hd) (by simp [hplain])
    · rintro rfl
      have hmem : c.toLower ∈ s.map Char.toLower := List.mem_map_of_mem hc
      rw [toLower_foreign hforeign] at hmem
      exact absurd (hname c hmem) (by simp [isPlain_foreign hforeign])

/-- The texts are the same up to the case of letters within ASCII. -/
def AgreeUpToCase (s t : String) : Prop := s.toList.map Char.toLower = t.toList.map Char.toLower

instance (s t : String) : Decidable (AgreeUpToCase s t) := inferInstanceAs (Decidable (_ = _))

/-- The name has plain characters only, and no capital letters. -/
def isPlainName (name : String) : Bool := name.toList.all fun d => isPlain d && d.toLower == d

theorem isPlain_of_mem {name : String} {d : Char} (h : isPlainName name = true)
    (hd : d ∈ name.toList) : isPlain d = true :=
  (Bool.and_eq_true_iff.mp (List.all_eq_true.mp h d hd)).1

theorem map_toLower_of_isPlainName {name : String} (h : isPlainName name = true) :
    name.toList.map Char.toLower = name.toList := by
  have hsmall : ∀ d ∈ name.toList, d.toLower = id d := fun d hd =>
    eq_of_beq (Bool.and_eq_true_iff.mp (List.all_eq_true.mp h d hd)).2
  rw [List.map_congr_left hsmall, List.map_id]

theorem lowercase_eq_iff {text name : String} (h : isPlainName name = true) :
    lowercase text = name ↔ AgreeUpToCase text name := by
  rw [AgreeUpToCase, map_toLower_of_isPlainName h,
    ← lowerAfter_eq_iff [] fun d => isPlain_of_mem h, lowercase, ← String.toList_inj,
    String.toList_ofList]

theorem AgreeUpToCase.ascii {text name : String} (h : isPlainName name = true)
    (hagree : AgreeUpToCase text name) : ∀ c ∈ text.toList, c.toNat < 0x80 := by
  intro c hc
  refine Nat.not_le.mp fun hforeign => ?_
  have hmem : c.toLower ∈ text.toList.map Char.toLower := List.mem_map_of_mem hc
  rw [toLower_foreign hforeign, hagree, map_toLower_of_isPlainName h] at hmem
  exact absurd (isPlain_of_mem h hmem) (by simp [isPlain_foreign hforeign])

/-! ### Looking up names -/

section

variable {α : Type} {table : List (String × α)} {text : String} {a : α}

theorem lookup_eq_some_iff_mem {name : String} (h : (table.map (·.1)).Nodup) :
    table.lookup name = some a ↔ (name, a) ∈ table := by
  induction table with
  | nil => simp
  | cons entry rest ih =>
    obtain ⟨first, value⟩ := entry
    rw [List.map_cons, List.nodup_cons] at h
    obtain ⟨hfirst, hrest⟩ := h
    rw [List.lookup_cons, List.mem_cons, ← ih hrest]
    by_cases hname : name = first
    · subst hname
      have hother : rest.lookup name ≠ some a := fun hfound =>
        hfirst (List.mem_map_of_mem (f := (·.1)) ((ih hrest).mp hfound))
      simp [hother, eq_comm]
    · have hother : (name == first) = false := beq_false_of_ne hname
      rw [hother]
      simp [hname]

theorem lookup_lowercase (hnames : ∀ entry ∈ table, isPlainName entry.1 = true)
    (hdistinct : (table.map (·.1)).Nodup) :
    table.lookup (lowercase text) = some a ↔
      ∃ name, (name, a) ∈ table ∧ AgreeUpToCase text name := by
  rw [lookup_eq_some_iff_mem hdistinct]
  constructor
  · intro hmem
    exact ⟨_, hmem, (lowercase_eq_iff (hnames _ hmem)).mp rfl⟩
  · rintro ⟨name, hmem, hagree⟩
    rwa [(lowercase_eq_iff (hnames _ hmem)).mpr hagree]

theorem lookup_foreign (hnames : ∀ entry ∈ table, isPlainName entry.1 = true)
    (hdistinct : (table.map (·.1)).Nodup) (hc : c ∈ text.toList) (h : 0x80 ≤ c.toNat) :
    table.lookup (lowercase text) = none := by
  refine Option.eq_none_iff_forall_ne_some.mpr fun a hfound => ?_
  obtain ⟨name, hmem, hagree⟩ := (lookup_lowercase hnames hdistinct).mp hfound
  have hascii : c.toNat < 0x80 := hagree.ascii (hnames _ hmem) c hc
  omega

end

end Text

/-! ### The names of policies and levels -/

open Text

variable {text : String}

namespace TriggerPolicy

theorem isPlainName_of_mem : ∀ entry ∈ named, isPlainName entry.1 = true := by decide +kernel

theorem ofText_found {policy : TriggerPolicy} (h : named.lookup (lowercase text) = some policy) :
    ofText text = .ok policy := by
  simp only [ofText, h]

theorem ofText_unknown (h : named.lookup (lowercase text) = none) :
    ofText text = .error (.unknownPolicy text) := by
  simp only [ofText, h]

theorem ofText_ok_iff {policy : TriggerPolicy} :
    ofText text = .ok policy ↔ AgreeUpToCase text policy.name := by
  have hlookup : ofText text = .ok policy ↔ named.lookup (lowercase text) = some policy := by
    cases hfound : named.lookup (lowercase text) with
    | none => simp [ofText_unknown hfound]
    | some found => simp [ofText_found hfound]
  rw [hlookup, lookup_lowercase isPlainName_of_mem (by decide)]
  cases policy <;> simp [named, name]

end TriggerPolicy

namespace LogLevel

theorem isPlainName_of_mem : ∀ entry ∈ named, isPlainName entry.1 = true := by decide +kernel

theorem ofText_found {level : LogLevel} (h : named.lookup (lowercase text) = some level) :
    ofText text = .ok level := by
  simp only [ofText, h]

theorem ofText_unknown (h : named.lookup (lowercase text) = none) :
    ofText text = .error (.operationFailed s!"Unknown log level: {lowercase text}") := by
  simp only [ofText, h]

/-- The level `warn` has a second name. -/
theorem ofText_ok_iff {level : LogLevel} :
    ofText text = .ok level ↔
      AgreeUpToCase text level.name ∨ level = .warn ∧ AgreeUpToCase text "warning" := by
  have hlookup : ofText text = .ok level ↔ named.lookup (lowercase text) = some level := by
    cases hfound : named.lookup (lowercase text) with
    | none => simp [ofText_unknown hfound]
    | some found => simp [ofText_found hfound]
  rw [hlookup, lookup_lowercase isPlainName_of_mem (by decide)]
  cases level <;> simp [named, name]

end LogLevel

/-- A text is read as a policy if and only if it is the name of the policy up to the case of letters
within ASCII, and as a level if and only if it is the name of the level in the same way, or
`warning` for the level `warn`; so every name is read in any mixture of cases as what it stands
for. A text with a character outside ASCII is refused, whatever it is lower-cased to. -/
theorem names_in_any_case (text : String) :
    (∀ policy, TriggerPolicy.ofText text = .ok policy ↔ AgreeUpToCase text policy.name) ∧
    (∀ level, LogLevel.ofText text = .ok level ↔
      AgreeUpToCase text level.name ∨ level = .warn ∧ AgreeUpToCase text "warning") ∧
    ∀ c ∈ text.toList, 0x80 ≤ c.toNat →
      TriggerPolicy.ofText text = .error (.unknownPolicy text) ∧
        LogLevel.ofText text =
          .error (.operationFailed s!"Unknown log level: {lowercase text}") := by
  refine ⟨fun policy => TriggerPolicy.ofText_ok_iff, fun level => LogLevel.ofText_ok_iff, ?_⟩
  intro c hc hforeign
  exact ⟨TriggerPolicy.ofText_unknown
      (lookup_foreign TriggerPolicy.isPlainName_of_mem (by decide) hc hforeign),
    LogLevel.ofText_unknown (lookup_foreign LogLevel.isPlainName_of_mem (by decide) hc hforeign)⟩

/-- The second name of a level in both cases, a policy in capitals, and a level with the dotted
capital I. -/
theorem names_in_any_case_mixed :
    let dotted : String := "\u0130nfo"
    LogLevel.ofText "WarNing" = .ok .warn ∧ TriggerPolicy.ofText "COALESCE" = .ok .coalesce ∧
      LogLevel.ofText dotted =
        .error (.operationFailed s!"Unknown log level: {lowercase dotted}") := by
  intro dotted
  refine ⟨?_, ?_, ?_⟩
  · exact ((names_in_any_case "WarNing").2.1 .warn).mpr (Or.inr ⟨rfl, by decide +kernel⟩)
  · exact ((names_in_any_case "COALESCE").1 .coalesce).mpr (by decide +kernel)
  · exact ((names_in_any_case dotted).2.2 (Char.ofNat 0x130) (by decide +kernel) (by decide)).2

end ReplicaSync
