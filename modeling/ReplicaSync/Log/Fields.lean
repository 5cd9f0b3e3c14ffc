/-!
# The fields of a log entry

Fields are texts under keys, kept in the order of the keys. Writing a key again replaces its text,
so two sets of fields are equal if and only if they give the same text for every key.
-/

namespace ReplicaSync

/-- Every key comes before all later ones. -/
def KeysSorted (entries : List (String × String)) : Prop :=
  entries.Pairwise fun a b => a.1 < b.1

/-- Texts under keys. -/
structure LogFields where
  entries : List (String × String)
  sorted : KeysSorted entries
  deriving DecidableEq

namespace LogFields

/-- Puts a text at its place in the order of the keys. -/
def place (key value : String) : List (String × String) → List (String × String)
  | [] => [(key, value)]
  | entry :: rest =>
    if key < entry.1 then (key, value) :: entry :: rest
    else if key = entry.1 then (key, value) :: rest
    else entry :: place key value rest

theorem mem_place {key value : String} {entry : String × String} {entries : List (String × String)}
    (h : entry ∈ place key value entries) : entry = (key, value) ∨ entry ∈ entries := by
  induction entries with
  | nil => exact Or.inl (List.mem_singleton.mp h)
  | cons head rest ih =>
    simp only [place] at h
    split at h
    · exact List.mem_cons.mp h
    · split at h
      · exact (List.mem_cons.mp h).imp_right (List.mem_cons_of_mem head)
      · rcases List.mem_cons.mp h with h | h
        · exact Or.inr (h ▸ List.mem_cons_self ..)
        · exact (ih h).imp_right (List.mem_cons_of_mem head)

theorem place_sorted (key value : String) {entries : List (String × String)}
    (h : KeysSorted entries) : KeysSorted (place key value entries) := by
  induction entries with
  | nil => exact List.pairwise_singleton ..
  | cons head rest ih =>
    obtain ⟨hhead, hrest⟩ := List.pairwise_cons.mp h
    simp only [place]
    split
    · rename_i hlt
      refine List.pairwise_cons.mpr ⟨fun entry he => ?_, h⟩
      rcases List.mem_cons.mp he with rfl | he
      · exact hlt
      · exact String.lt_trans hlt (hhead entry he)
    · rename_i hnot
      split
      · rename_i heq
        exact List.pairwise_cons.mpr ⟨fun entry he => heq ▸ hhead entry he, hrest⟩
      · rename_i hne
        refine List.pairwise_cons.mpr ⟨fun entry he => ?_, ih hrest⟩
        rcases mem_place he with rfl | he
        · have hle : head.1 ≤ key := String.not_lt.mp hnot
          refine Decidable.byContradiction fun hlt => hne ?_
          exact String.le_antisymm (String.not_lt.mp hlt) hle
        · exact hhead entry he

def empty : LogFields := ⟨[], List.Pairwise.nil⟩

/-- Writes a text under a key. -/
def insert (fields : LogFields) (key value : String) : LogFields :=
  ⟨place key value fields.entries, place_sorted key value fields.sorted⟩

/-- Writes texts under keys, one after the other. -/
def ofList (pairs : List (String × String)) : LogFields :=
  pairs.foldl (fun fields pair => fields.insert pair.1 pair.2) empty

end LogFields

end ReplicaSync
