import Mathlib.Data.List.Forall2
import Mathlib.Logic.Relation
import ReplicaSync.Proofs.Path.Components
import ReplicaSync.Watcher.RawEvent

/-!
# Ignored directories, however they are written

A path can be written in more ways than one: slashes may be doubled or stand at its end, and a dot
between two slashes does not count. All of them have the same components, so what is ignored does
not depend on how a path or an ignored directory is written. It depends on whole components only: a
directory is not ignored because its name begins with the name of an ignored one. Main statement:
`ignored_subtrees`.
-/

namespace ReplicaSync.Path

variable {p q : Path} {ignored others : List Path}

/-! ### Spellings -/

/-- The second path is the first one, written with a slash more, or with a dot and a slash more. -/
inductive Lengthened : Path → Path → Prop where
  | doubled (front rest : List UInt8) :
    Lengthened ⟨front ++ slash :: rest⟩ ⟨front ++ slash :: slash :: rest⟩
  | dotted (front rest : List UInt8) :
    Lengthened ⟨front ++ slash :: rest⟩ ⟨front ++ slash :: dot :: slash :: rest⟩
  /-- The empty path is no way to write the root. -/
  | closed {bytes : List UInt8} (h : bytes ≠ []) : Lengthened ⟨bytes⟩ ⟨bytes ++ [slash]⟩

/-- One path is two times written: such slashes and dots are put in and taken out. -/
def Respelt : Path → Path → Prop := Relation.EqvGen Lengthened

theorem Lengthened.components (h : Lengthened p q) : q.components = p.components := by
  cases h with
  | doubled front rest =>
    have hvoid : names (segments (slash :: rest)) = names (segments rest) := rfl
    rw [components_append_slash, components_append_slash front rest, hvoid]
  | dotted front rest =>
    have hvoid : names (segments (dot :: slash :: rest)) = names (segments rest) := rfl
    rw [components_append_slash, components_append_slash front rest, hvoid]
  | closed h => exact components_concat_slash h

theorem Respelt.components (h : Respelt p q) : p.components = q.components := by
  induction h with
  | rel p q h => exact h.components.symm
  | refl p => rfl
  | symm p q _ ih => exact ih.symm
  | trans p q r _ _ ih ihnext => exact ih.trans ihnext

theorem Respelt.isUnder {base other : Path} (h : Respelt p q) (hbase : Respelt base other) :
    p.isUnder base = q.isUnder other := by
  rw [Path.isUnder, Path.isUnder, h.components, hbase.components]

theorem Respelt.isIgnored (h : Respelt p q) (hignored : List.Forall₂ Respelt ignored others) :
    p.isIgnored ignored = q.isIgnored others := by
  induction hignored with
  | nil => rfl
  | cons hbase _ ih =>
    rw [Path.isIgnored, Path.isIgnored, List.any_cons, List.any_cons, h.isUnder hbase]
    exact congrArg _ ih

/-! ### Subtrees -/

theorem isIgnored_of_isUnder (h : p.isIgnored ignored = true) (hq : q.isUnder p = true) :
    q.isIgnored ignored = true := by
  obtain ⟨base, hbase, hp⟩ := isIgnored_iff.mp h
  exact isIgnored_iff.mpr ⟨base, hbase, isUnder_trans hq hp⟩

theorem isIgnored_of_mem {base : Path} (hbase : base ∈ ignored) (h : p.isUnder base = true) :
    p.isIgnored ignored = true := isIgnored_iff.mpr ⟨base, hbase, h⟩

theorem isIgnored_of_unresolved (resolve : Path → Option Path) (h : p.isIgnored ignored = true) :
    p.isIgnored (withResolved resolve ignored) = true := by
  rw [withResolved, isIgnored_append, h, Bool.true_or]

/-! ### Names that begin alike -/

/-- The bytes of a component. -/
def Component.bytes : Component → List UInt8
  | .root => [slash]
  | .here => [dot]
  | .name bytes => bytes

/-- The paths differ in their last components, and the last one of `longer` is that of `dir` with
further bytes. -/
def ExtendsLast (longer dir : Path) : Prop :=
  ∃ base last extra, extra ≠ [] ∧ dir.components = base ++ [last] ∧
    longer.components = base ++ [.name (last.bytes ++ extra)]

theorem ExtendsLast.not_isUnder {longer dir : Path} (h : ExtendsLast longer dir)
    (hp : p.isUnder longer = true) : p.isUnder dir = false := by
  obtain ⟨base, last, extra, hextra, hdir, hlonger⟩ := h
  rw [Bool.eq_false_iff, Ne, isUnder_iff, hdir]
  rw [isUnder_iff, hlonger] at hp
  intro hunder
  -- both are the first components of one path, and there are as many of them
  have hsame : base ++ [last] = base ++ [.name (last.bytes ++ extra)] :=
    (List.prefix_of_prefix_length_le hunder hp (by simp)).eq_of_length (by simp)
  have hlast : last = .name (last.bytes ++ extra) := by simpa using hsame
  have hbytes : last.bytes = last.bytes ++ extra := congrArg Component.bytes hlast
  exact hextra (List.self_eq_append_right.mp hbytes)

theorem components_append_name {front name : List UInt8}
    (hfront : front = [] ∨ front.getLast? = some slash) (h : IsName name) :
    components ⟨front ++ name⟩ = components ⟨front⟩ ++ [.name name] := by
  rcases hfront with rfl | hslash
  · exact h.components
  · obtain ⟨before, rfl⟩ := List.getLast?_eq_some_iff.mp hslash
    rw [List.append_assoc, List.singleton_append, components_append_slash, h.names]

theorem IsName.extend {name extra : List UInt8} (h : IsName name) (hextra : slash ∉ extra) :
    IsName (name ++ extra) := by
  refine ⟨?_, ?_⟩
  · rw [List.mem_append, not_or]
    exact ⟨h.no_slash, hextra⟩
  · have hvoid := h.not_void
    simp only [isVoid, Bool.or_eq_false_iff, decide_eq_false_iff_not] at hvoid ⊢
    refine ⟨fun hnil => hvoid.1 (List.append_eq_nil_iff.mp hnil).1, fun hdot => ?_⟩
    rcases List.append_eq_singleton_iff.mp hdot with ⟨hnil, -⟩ | ⟨hname, -⟩
    · exact hvoid.1 hnil
    · exact hvoid.2 hname

theorem extendsLast_append {front name extra : List UInt8}
    (hfront : front = [] ∨ front.getLast? = some slash) (h : IsName name) (hne : extra ≠ [])
    (hextra : slash ∉ extra) : ExtendsLast ⟨front ++ (name ++ extra)⟩ ⟨front ++ name⟩ :=
  ⟨components ⟨front⟩, .name name, extra, hne, components_append_name hfront h,
    components_append_name hfront (h.extend hextra)⟩

/-- What is ignored, for all paths and all sets of ignored paths as byte strings. The answer is the
same for every spelling of the path and of the ignored ones. What lies under an ignored path is
ignored, such as what relative paths lead to from it; so is what lies under a path that lies under
one of the set. Two sets ignore what one of them ignores, so the resolved forms of ignored paths
take nothing back. A directory whose last component is that of an ignored one with further bytes is
not ignored because of it, and nothing in it is; this is so if bytes without a slash are put behind
a path that ends with a name. -/
theorem ignored_subtrees :
    (∀ (p q : Path) (ignored others : List Path), Respelt p q →
      List.Forall₂ Respelt ignored others → p.isIgnored ignored = q.isIgnored others) ∧
    (∀ (p q : Path) (ignored : List Path), p.isIgnored ignored = true →
      (q.isUnder p = true → q.isIgnored ignored = true) ∧
        (q.isAbsolute = false → (p.join q).isIgnored ignored = true)) ∧
    (∀ (p q r : Path) (ignored : List Path), r ∈ ignored → q.isUnder r = true →
      p.isUnder q = true → p.isIgnored ignored = true) ∧
    (∀ (p : Path) (ignored more : List Path),
      p.isIgnored (ignored ++ more) = (p.isIgnored ignored || p.isIgnored more)) ∧
    (∀ (resolve : Path → Option Path) (p : Path) (ignored : List Path),
      p.isIgnored ignored = true → p.isIgnored (withResolved resolve ignored) = true) ∧
    (∀ (longer dir p : Path) (before after : List Path), ExtendsLast longer dir →
      p.isUnder longer = true →
        p.isIgnored (before ++ dir :: after) = p.isIgnored (before ++ after)) ∧
    (∀ front name extra : List UInt8, (front = [] ∨ front.getLast? = some slash) → IsName name →
      extra ≠ [] → slash ∉ extra → ExtendsLast ⟨front ++ (name ++ extra)⟩ ⟨front ++ name⟩) := by
  refine ⟨fun p q ignored others => Respelt.isIgnored, fun p q ignored h => ⟨?_, fun hq => ?_⟩,
    fun p q r ignored hr hqr hpq => ?_, isIgnored_append, fun resolve p ignored => ?_,
    fun longer dir p before after hextends hp => ?_,
    fun front name extra => extendsLast_append⟩
  · exact isIgnored_of_isUnder h
  · exact isIgnored_of_isUnder h (isUnder_join hq)
  · exact isIgnored_of_mem hr (isUnder_trans hpq hqr)
  · exact isIgnored_of_unresolved resolve
  · have hnot : p.isUnder dir = false := hextends.not_isUnder hp
    have hcons : p.isIgnored (dir :: after) = p.isIgnored after := by
      rw [isIgnored, List.any_cons, hnot, Bool.false_or, isIgnored]
    rw [isIgnored_append, isIgnored_append, hcons]

/-- A directory beside an ignored one, a file in the ignored one by another spelling, and a path
that leads out of it again. -/
theorem ignored_subtrees_beside :
    let parent : List UInt8 := [0x2F, 0x64, 0x61, 0x74, 0x61, 0x2F]
    let name : List UInt8 := [0x2E, 0x73, 0x79, 0x6E, 0x63, 0x61, 0x6E, 0x79]
    let extra : List UInt8 := [0x2D, 0x6E, 0x6F, 0x74, 0x65, 0x73]
    let dir : Path := ⟨parent ++ name⟩
    dir = .ofString "/data/.syncany" ∧
      Path.mk (parent ++ (name ++ extra)) = .ofString "/data/.syncany-notes" ∧
      (Path.mk (parent ++ (name ++ extra))).isIgnored [dir] = false ∧
      (Path.mk (parent ++ slash :: dot :: slash :: name ++ [slash])).isIgnored [dir] = true ∧
      (dir.join (.ofString "../x")).isIgnored [dir] = true := by
  intro parent name extra dir
  obtain ⟨hspelling, hbelow, hunder, -, -, hbeside, hextends⟩ := ignored_subtrees
  have hdir : dir.isIgnored [dir] = true :=
    hunder dir dir dir [dir] List.mem_cons_self (isUnder_refl dir) (isUnder_refl dir)
  refine ⟨by decide +kernel, by decide +kernel, ?_, ?_, ?_⟩
  · have hname : ExtendsLast ⟨parent ++ (name ++ extra)⟩ dir :=
      hextends parent name extra (by decide) ⟨by decide, by decide⟩ (by decide) (by decide)
    exact hbeside _ dir _ [] [] hname (isUnder_refl _)
  · have hdoubled : Lengthened dir ⟨parent ++ slash :: name⟩ :=
      .doubled [0x2F, 0x64, 0x61, 0x74, 0x61] name
    have hdotted : Lengthened ⟨parent ++ slash :: name⟩ ⟨parent ++ slash :: dot :: slash :: name⟩ :=
      .dotted parent name
    have hclosed : Lengthened ⟨parent ++ slash :: dot :: slash :: name⟩
        ⟨parent ++ slash :: dot :: slash :: name ++ [slash]⟩ := .closed (by decide)
    have hspelt : Respelt dir ⟨parent ++ slash :: dot :: slash :: name ++ [slash]⟩ :=
      .trans _ _ _ (.trans _ _ _ (.rel _ _ hdoubled) (.rel _ _ hdotted)) (.rel _ _ hclosed)
    rw [← hspelling dir _ [dir] [dir] hspelt (.cons (.refl dir) .nil)]
    exact hdir
  · exact (hbelow dir _ [dir] hdir).2 (by decide +kernel)

end ReplicaSync.Path
