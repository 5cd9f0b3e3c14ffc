import ReplicaSync.Path.Basic
import ReplicaSync.Proofs.Text.Utf8

/-!
# Components of joined paths

A slash cuts a byte string into the segments before it and those behind it. So a relative path that
is joined to another adds its names behind the components that are there, also where the first path
is empty or ends with a slash, and whatever is joined to a path lies under it. Main statements:
`components_join`, `components_join_name` and `isUnder_foldl_join`.
-/

namespace ReplicaSync.Path

variable {p q r : Path} {a b : List UInt8}

/-! ### Segments -/

theorem segments_ne_nil (a : List UInt8) : segments a ≠ [] := by
  cases a with
  | nil => simp [segments]
  | cons c rest =>
    unfold segments
    split
    · simp
    · split <;> simp

theorem segments_append_slash (a b : List UInt8) :
    segments (a ++ slash :: b) = segments a ++ segments b := by
  induction a with
  | nil => rfl
  | cons c rest ih =>
    rw [List.cons_append, segments, segments, ih]
    split
    · rfl
    · cases hrest : segments rest with
      | nil => exact (segments_ne_nil rest hrest).elim
      | cons first more => rfl

theorem segments_of_no_slash (h : slash ∉ a) : segments a = [a] := by
  induction a with
  | nil => rfl
  | cons c rest ih =>
    rw [List.mem_cons, not_or] at h
    obtain ⟨hc, hrest⟩ := h
    rw [segments, if_neg (Ne.symm hc), ih hrest]

theorem head?_segments_append_slash (a b : List UInt8) :
    (segments (a ++ slash :: b)).head? = (segments a).head? := by
  rw [segments_append_slash, List.head?_append, List.head?_eq_some_head (segments_ne_nil a)]
  rfl

theorem names_append (a b : List (List UInt8)) : names (a ++ b) = names a ++ names b := by
  simp [names]

/-! ### Components -/

/-- What follows a slash does not change how a path begins. -/
theorem anchor_append_slash (a b c : List UInt8) :
    anchor ⟨a ++ slash :: b⟩ = anchor ⟨a ++ slash :: c⟩ := by
  have habsolute : isAbsolute ⟨a ++ slash :: b⟩ = isAbsolute ⟨a ++ slash :: c⟩ := by
    cases a <;> rfl
  simp only [anchor, habsolute, head?_segments_append_slash]

/-- A slash at the end does not change how a path begins, unless there was nothing before. -/
theorem anchor_concat_slash (h : a ≠ []) : anchor ⟨a ++ [slash]⟩ = anchor ⟨a⟩ := by
  have habsolute : isAbsolute ⟨a ++ [slash]⟩ = isAbsolute ⟨a⟩ := by
    cases a with
    | nil => exact (h rfl).elim
    | cons c rest => rfl
  simp only [anchor, habsolute, head?_segments_append_slash]

theorem components_append_slash (a b : List UInt8) :
    components ⟨a ++ slash :: b⟩ = components ⟨a ++ [slash]⟩ ++ names (segments b) := by
  have hempty : names (segments []) = [] := rfl
  rw [components, components, anchor_append_slash a b [], segments_append_slash,
    segments_append_slash, names_append, names_append, hempty, List.append_nil, List.append_assoc]

theorem components_concat_slash (h : a ≠ []) : components ⟨a ++ [slash]⟩ = components ⟨a⟩ := by
  have hempty : names (segments []) = [] := rfl
  rw [components, components, anchor_concat_slash h, segments_append_slash, names_append, hempty,
    List.append_nil]

theorem components_empty (h : p.bytes = []) : p.components = [] := by
  obtain ⟨bytes⟩ := p
  subst h
  rfl

/-! ### Joining -/

theorem join_empty (h : p.bytes = []) : p.join q = q := by
  unfold join
  split
  · rfl
  · simp [h]

/-- A relative path that is joined to another adds its names behind the components. -/
theorem components_join (hp : p.bytes ≠ []) (hq : q.isAbsolute = false) :
    (p.join q).components = p.components ++ names (segments q.bytes) := by
  obtain ⟨bytes⟩ := p
  by_cases hlast : bytes.getLast? = some slash
  · obtain ⟨front, rfl⟩ := List.getLast?_eq_some_iff.mp hlast
    have hjoin : join ⟨front ++ [slash]⟩ q = ⟨front ++ slash :: q.bytes⟩ := by
      simp [join, hq]
    rw [hjoin, components_append_slash]
  · have hjoin : join ⟨bytes⟩ q = ⟨bytes ++ slash :: q.bytes⟩ := by
      have hp' : bytes ≠ [] := hp
      simp [join, hq, hlast, hp']
    rw [hjoin, components_append_slash, components_concat_slash hp]

/-- The byte string is one name: it has no slash, and stands for a component of its own. -/
structure IsName (a : List UInt8) : Prop where
  no_slash : slash ∉ a
  not_void : isVoid a = false

theorem IsName.names (h : IsName a) : names (segments a) = [.name a] := by
  simp [segments_of_no_slash h.no_slash, Path.names, h.not_void]

theorem IsName.isAbsolute (h : IsName a) : isAbsolute ⟨a⟩ = false := by
  cases a with
  | nil => rfl
  | cons c rest =>
    have hc : c ≠ slash := fun heq => h.no_slash (heq ▸ List.mem_cons_self)
    simpa [Path.isAbsolute] using hc

theorem IsName.components (h : IsName a) : components ⟨a⟩ = [.name a] := by
  have hdot : a ≠ [dot] := by
    rintro rfl
    exact absurd h.not_void (by decide)
  have hanchor : anchor ⟨a⟩ = [] := by
    simp [anchor, h.isAbsolute, segments_of_no_slash h.no_slash, hdot]
  rw [Path.components, hanchor, h.names]
  rfl

/-- A name that is joined to a path is one more component, whatever the path looks like. -/
theorem components_join_name (hq : IsName q.bytes) :
    (p.join q).components = p.components ++ [.name q.bytes] := by
  by_cases hp : p.bytes = []
  · rw [join_empty hp, components_empty hp]
    exact hq.components
  · rw [components_join hp hq.isAbsolute, hq.names]

/-! ### Lying under a path -/

theorem isUnder_iff : p.isUnder q = true ↔ q.components <+: p.components :=
  List.isPrefixOf_iff_prefix

theorem isUnder_refl (p : Path) : p.isUnder p = true := isUnder_iff.mpr (List.prefix_refl _)

theorem isUnder_trans (hpq : p.isUnder q = true) (hqr : q.isUnder r = true) :
    p.isUnder r = true :=
  isUnder_iff.mpr ((isUnder_iff.mp hqr).trans (isUnder_iff.mp hpq))

/-- A relative path that is joined to another leads under it. -/
theorem isUnder_join (hq : q.isAbsolute = false) : (p.join q).isUnder p = true := by
  rw [isUnder_iff]
  by_cases hp : p.bytes = []
  · rw [components_empty hp]
    exact List.nil_prefix
  · rw [components_join hp hq]
    exact List.prefix_append _ _

/-- Relative paths that are joined to another one after the other lead under it. -/
theorem isUnder_foldl_join {parts : List Path} (h : ∀ q ∈ parts, q.isAbsolute = false) :
    (parts.foldl join p).isUnder p = true := by
  induction parts generalizing p with
  | nil => exact isUnder_refl p
  | cons q parts ih =>
    obtain ⟨hq, hparts⟩ := List.forall_mem_cons.mp h
    exact isUnder_trans (ih hparts) (isUnder_join hq)

/-- What is ignored lies under one of the ignored paths. -/
theorem isIgnored_iff {ignored : List Path} :
    p.isIgnored ignored = true ↔ ∃ base ∈ ignored, p.isUnder base = true := List.any_eq_true

end ReplicaSync.Path
