import Mathlib.Data.List.Basic
import Mathlib.Data.List.Induction
import Mathlib.Data.List.Nodup
import ReplicaSync.Json.Schema

/-!
# Objects in another order and with further members

A reader of records looks members up by name. So it finds the same in an object whose members stand
in another order, or among others that it does not know, and the same holds for the objects within.
Main statement: `Varies.finds`.
-/

namespace ReplicaSync.Json

/-- In objects of the first value, at any depth, the members were put in another order, and members
with names that were not there were added. -/
inductive Varies : Json → Json → Prop where
  | refl (j : Json) : Varies j j
  | reorder {members others : List (String × Json)} (h : others.Perm members) :
    Varies (.obj members) (.obj others)
  | insert (before after : List (String × Json)) (key : String) (value : Json)
      (h : key ∉ (before ++ after).map (·.1)) :
    Varies (.obj (before ++ after)) (.obj (before ++ (key, value) :: after))
  | within (before after : List (String × Json)) (key : String) {value other : Json}
      (h : Varies value other) :
    Varies (.obj (before ++ (key, value) :: after)) (.obj (before ++ (key, other) :: after))
  | trans {first second third : Json} (h : Varies first second) (hnext : Varies second third) :
    Varies first third

/-- The members of an object have different names. -/
def DistinctKeys (members : List (String × Json)) : Prop := (members.map (·.1)).Nodup

/-- Each member of the first object is in the second, or what it was varied to. -/
def Covers (members others : List (String × Json)) : Prop :=
  ∀ key value, (key, value) ∈ members → ∃ other, (key, other) ∈ others ∧ Varies value other

/-- The value is no object. -/
def IsLeaf : Json → Prop
  | .obj _ => False
  | _ => True

/-- Under the name of each member, a reader finds that member, or what it was varied to, and finds
it once. -/
structure Finds (members others : List (String × Json)) : Prop where
  distinct : DistinctKeys others
  found : ∀ key value, (key, value) ∈ members →
    ∃ found, lookup others key = some found ∧ Varies value found

/-! ### Looking up -/

theorem lookup_concat (members : List (String × Json)) (last : String × Json) (key : String) :
    lookup (members ++ [last]) key = if last.1 = key then some last.2 else lookup members key := by
  rw [lookup, List.foldl_append]
  rfl

theorem lookup_of_mem {members : List (String × Json)} (h : DistinctKeys members) {key : String}
    {value : Json} (hmem : (key, value) ∈ members) : lookup members key = some value := by
  -- the last member with a name counts, so the induction takes members off at the end
  induction members using List.reverseRecOn with
  | nil => cases hmem
  | append_singleton members last ih =>
    have hkeys : DistinctKeys members ∧ last.1 ∉ members.map (·.1) := by
      rw [DistinctKeys, List.map_append, List.map_singleton, ← List.concat_eq_append,
        List.nodup_concat] at h
      exact ⟨h.2, h.1⟩
    rw [lookup_concat]
    rcases List.mem_append.mp hmem with hearlier | hlast
    · have hother : last.1 ≠ key := by
        intro heq
        exact hkeys.2 (heq ▸ List.mem_map_of_mem hearlier)
      rw [if_neg hother]
      exact ih hkeys.1 hearlier
    · cases List.mem_singleton.mp hlast
      exact if_pos rfl

theorem isSingle_of_distinct {members : List (String × Json)} (h : DistinctKeys members)
    (key : String) : isSingle members key = true := by
  have hcount : (members.filter fun member => member.1 = key).length =
      (members.map (·.1)).count key := by
    rw [List.count, List.countP_map, List.countP_eq_length_filter]
    rfl
  rw [isSingle, hcount]
  exact decide_eq_true (List.nodup_iff_count_le_one.mp h key)

theorem fields?_of_distinct {members : List (String × Json)} (h : DistinctKeys members)
    (keys : List String) : fields? keys (.obj members) = some (keys.map (lookup members)) := by
  have hall : keys.all (isSingle members) = true :=
    List.all_eq_true.mpr fun key _ => isSingle_of_distinct h key
  rw [fields?, if_pos hall]

/-! ### What a variation leaves -/

theorem Covers.refl (members : List (String × Json)) : Covers members members :=
  fun _ value hmem => ⟨value, hmem, .refl value⟩

theorem Covers.trans {first second third : List (String × Json)} (h : Covers first second)
    (hnext : Covers second third) : Covers first third := by
  intro key value hmem
  obtain ⟨middle, hmiddle, hvaries⟩ := h key value hmem
  obtain ⟨other, hother, hagain⟩ := hnext key middle hmiddle
  exact ⟨other, hother, hvaries.trans hagain⟩

/-- A value that is no object stays as it is. -/
theorem Varies.leaf {j other : Json} (h : Varies j other) (hleaf : j.IsLeaf) : other = j := by
  induction h with
  | refl => rfl
  | reorder | insert | within => exact hleaf.elim
  | trans h hnext ih ihnext =>
    have hfirst := ih hleaf
    subst hfirst
    exact ihnext hleaf

theorem Varies.covers {members : List (String × Json)} {other : Json}
    (h : Varies (.obj members) other) (hkeys : DistinctKeys members) :
    ∃ others, other = .obj others ∧ DistinctKeys others ∧ Covers members others := by
  generalize hj : Json.obj members = j at h
  induction h generalizing members with
  | refl => exact ⟨members, hj.symm, hkeys, .refl members⟩
  | @reorder first others hperm =>
    cases hj
    have hnames : (others.map (·.1)).Perm (first.map (·.1)) := hperm.map _
    refine ⟨others, rfl, hnames.nodup_iff.mpr hkeys, fun key value hmem => ?_⟩
    exact ⟨value, hperm.mem_iff.mpr hmem, .refl value⟩
  | insert before after key value hnew =>
    cases hj
    refine ⟨_, rfl, ?_, fun name kept hmem => ⟨kept, ?_, .refl kept⟩⟩
    · rw [DistinctKeys, List.map_append, List.map_cons, List.nodup_middle,
        List.nodup_cons, ← List.map_append]
      exact ⟨hnew, hkeys⟩
    · rcases List.mem_append.mp hmem with hbefore | hafter
      · exact List.mem_append_left _ hbefore
      · exact List.mem_append_right _ (List.mem_cons_of_mem _ hafter)
  | @within before after key value other h =>
    cases hj
    refine ⟨_, rfl, ?_, fun name kept hmem => ?_⟩
    · rw [DistinctKeys, List.map_append, List.map_cons] at hkeys ⊢
      exact hkeys
    · rcases List.mem_append.mp hmem with hbefore | hrest
      · exact ⟨kept, List.mem_append_left _ hbefore, .refl kept⟩
      rcases List.mem_cons.mp hrest with hthis | hafter
      · cases hthis
        exact ⟨other, List.mem_append_right _ List.mem_cons_self, h⟩
      · exact ⟨kept, List.mem_append_right _ (List.mem_cons_of_mem _ hafter), .refl kept⟩
  | trans h hnext ih ihnext =>
    obtain ⟨middle, hsecond, hdistinct, hcovers⟩ := ih hkeys hj
    obtain ⟨others, hthird, hlast, hagain⟩ := ihnext hdistinct hsecond.symm
    exact ⟨others, hthird, hlast, hcovers.trans hagain⟩

/-! ### What a reader finds -/

theorem Varies.finds {members : List (String × Json)} {other : Json}
    (h : Varies (.obj members) other) (hkeys : DistinctKeys members) :
    ∃ others, other = .obj others ∧ Finds members others := by
  obtain ⟨others, hobj, hdistinct, hcovers⟩ := h.covers hkeys
  refine ⟨others, hobj, hdistinct, fun key value hmem => ?_⟩
  obtain ⟨found, hfound, hvaries⟩ := hcovers key value hmem
  exact ⟨found, lookup_of_mem hdistinct hfound, hvaries⟩

theorem Finds.leaf {members others : List (String × Json)} (h : Finds members others)
    {key : String} {value : Json} (hmem : (key, value) ∈ members) (hleaf : value.IsLeaf) :
    lookup others key = some value := by
  obtain ⟨found, hfound, hvaries⟩ := h.found key value hmem
  rw [hfound, hvaries.leaf hleaf]

end ReplicaSync.Json
