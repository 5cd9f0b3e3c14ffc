import ReplicaSync.Proofs.Coordinator.Observers

/-!
# Runs without some of their tasks

Tasks can be taken out of a run: the moves that begin them and the moves that address them are left
out, and the tasks that remain move up. Main statement: `World.thinned_snoc`; what taking out does
to the tasks and the notes of a run is said by `without` and `thinNotes`.
-/

namespace ReplicaSync

/-! ### Lists without some places -/

/-- The list without the elements at the places that are gone. -/
def without {α : Type} (gone : Nat → Bool) : List α → List α
  | [] => []
  | first :: rest =>
    let later := without (fun number => gone (number + 1)) rest
    if gone 0 then later else first :: later

/-- Where a place is when the gone places before it are taken out. -/
def place (gone : Nat → Bool) : Nat → Nat
  | 0 => 0
  | number + 1 =>
    let later := place (fun number => gone (number + 1)) number
    if gone 0 then later else later + 1

section Lists

variable {α β : Type} {gone : Nat → Bool}

theorem length_without (gone : Nat → Bool) (list : List α) :
    (without gone list).length = place gone list.length := by
  induction list generalizing gone with
  | nil => rfl
  | cons first rest ih =>
    simp only [without, place, List.length_cons]
    split
    · exact ih _
    · rw [List.length_cons, ih]

theorem without_concat (gone : Nat → Bool) (list : List α) (last : α) :
    without gone (list ++ [last]) =
      without gone list ++ if gone list.length then [] else [last] := by
  induction list generalizing gone with
  | nil => rfl
  | cons first rest ih =>
    simp only [List.cons_append, without, ih, List.length_cons]
    split <;> rfl

theorem getElem?_without (list : List α) {number : Nat} (h : gone number = false) :
    (without gone list)[place gone number]? = list[number]? := by
  induction list generalizing gone number with
  | nil => rfl
  | cons first rest ih =>
    cases number with
    | zero => simp [without, place, h]
    | succ number =>
      have hrest := @ih (fun number => gone (number + 1)) number h
      simp only [without, place, List.getElem?_cons_succ]
      split <;> simp [hrest]

theorem without_set (list : List α) {number : Nat} (h : gone number = false) (element : α) :
    without gone (list.set number element) =
      (without gone list).set (place gone number) element := by
  induction list generalizing gone number with
  | nil => rfl
  | cons first rest ih =>
    cases number with
    | zero => simp [without, place, h]
    | succ number =>
      have hrest := @ih (fun number => gone (number + 1)) number h
      simp only [List.set_cons_succ, without, place, hrest]
      split <;> rfl

/-- What is gone is not missed if nothing was to be had from it. -/
theorem filterMap_without (f : α → Option β) (list : List α)
    (h : ∀ number element, gone number = true → list[number]? = some element → f element = none) :
    (without gone list).filterMap f = list.filterMap f := by
  induction list generalizing gone with
  | nil => rfl
  | cons first rest ih =>
    have hrest := @ih (fun number => gone (number + 1)) fun number element hgone helement =>
      h (number + 1) element hgone helement
    simp only [without]
    split
    · rename_i hgone
      rw [hrest, List.filterMap_cons_none (h 0 first hgone rfl)]
    · simp only [List.filterMap_cons, hrest]

end Lists

/-! ### Notes without some tasks -/

/-- The note is not one of a task that is gone. -/
def Note.remains (gone : Nat → Bool) (note : Note) : Bool := !note.task.any gone

def Note.renumber (gone : Nat → Bool) (note : Note) : Note :=
  { note with task := note.task.map (place gone) }

/-- The notes without those of the tasks that are gone. -/
def thinNotes (gone : Nat → Bool) (notes : List Note) : List Note :=
  (notes.filter (Note.remains gone)).map (Note.renumber gone)

/-- The moment, seen without the tasks that are gone. -/
def Moment.thin (gone : Nat → Bool) (moment : Moment) : Moment :=
  { moment with
    tasks := without gone moment.tasks
    notes := thinNotes gone moment.notes }

section Notes

variable {gone : Nat → Bool}

theorem thinNotes_append (a b : List Note) :
    thinNotes gone (a ++ b) = thinNotes gone a ++ thinNotes gone b := by
  simp [thinNotes]

theorem thinNotes_kept {number : Nat} (h : gone number = false) (time : Nat) (acts : List Act) :
    thinNotes gone (Note.ofActs time number acts) =
      Note.ofActs time (place gone number) acts := by
  induction acts with
  | nil => rfl
  | cons act rest ih =>
    simp only [Note.ofActs, List.map_cons] at ih ⊢
    simpa [thinNotes, Note.remains, Note.renumber, h] using ih

theorem thinNotes_gone {number : Nat} (h : gone number = true) (time : Nat) (acts : List Act) :
    thinNotes gone (Note.ofActs time number acts) = [] := by
  simp [thinNotes, Note.ofActs, Note.remains, h]

theorem thinNotes_outside (world : World) (acts : List Act) :
    thinNotes gone (world.notes none acts) = world.notes none acts := by
  induction acts with
  | nil => rfl
  | cons act rest ih =>
    simp only [World.notes, List.map_cons] at ih ⊢
    simpa [thinNotes, Note.remains, Note.renumber] using ih

theorem remains_ofActs {number : Nat} (h : gone number = false) (time : Nat) (acts : List Act) :
    ∀ note ∈ Note.ofActs time number acts, note.remains gone = true := by
  intro note hmem
  obtain ⟨act, _, rfl⟩ := List.mem_map.mp hmem
  simp [Note.remains, h]

theorem remains_outside (world : World) (acts : List Act) :
    ∀ note ∈ world.notes none acts, note.remains gone = true := by
  intro note hmem
  obtain ⟨act, _, rfl⟩ := List.mem_map.mp hmem
  rfl

theorem thinNotes_signals (notes : List Note) :
    Note.signals (thinNotes gone notes) = thinNotes gone (Note.signals notes) := by
  unfold Note.signals thinNotes
  rw [List.filter_map, List.filter_filter, List.filter_filter]
  congr 1
  exact List.filter_congr fun note _ => Bool.and_comm _ _

end Notes

/-! ### Moves without some tasks -/

/-- The move, as it addresses its task when the tasks that are gone are taken out. -/
def Move.renumber (gone : Nat → Bool) : Move → Move
  | .answer number reply => .answer (place gone number) reply
  | .panic number => .panic (place gone number)
  | .drop number => .drop (place gone number)
  | .cancel number => .cancel (place gone number)
  | .wake number => .wake (place gone number)
  | move => move

namespace World

/-- The move neither begins nor addresses a task that is gone. A callback that is called for when
none was spawned begins nothing and is left out too. -/
def keeps (gone : Nat → Bool) (world : World) : Move → Bool
  | .start _ _ => !gone world.tasks.length
  | .callback => world.spawned ≠ 0 && !gone world.tasks.length
  | .answer number _ | .panic number | .drop number | .cancel number | .wake number => !gone number
  | _ => true

/-- The moves of a run without the tasks that are gone. -/
def thinned (gone : Nat → Bool) (world : World) : List Move → List Move
  | [] => []
  | move :: rest =>
    let later := (world.step move).1.thinned gone rest
    if world.keeps gone move then move.renumber gone :: later else later

theorem thinned_snoc (gone : Nat → Bool) (world : World) (moves : List Move) (move : Move) :
    world.thinned gone (moves ++ [move]) =
      world.thinned gone moves ++
        if (world.run moves).1.keeps gone move then [move.renumber gone] else [] := by
  induction moves generalizing world with
  | nil => rfl
  | cons first rest ih =>
    simp only [List.cons_append, thinned, ih, run_cons]
    split <;> rfl

theorem moments_snoc (counts : World → Move → Bool) (world : World) (moves : List Move)
    (move : Move) :
    world.moments counts (moves ++ [move]) =
      world.moments counts moves ++
        let before := (world.run moves).1
        let (next, notes) := before.step move
        if counts before move then [⟨next.now, next.shared, next.tasks, notes⟩] else [] := by
  induction moves generalizing world with
  | nil => rfl
  | cons first rest ih =>
    simp only [List.cons_append, moments, ih, run_cons]
    split <;> rfl

end World

end ReplicaSync
