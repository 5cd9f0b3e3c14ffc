import Mathlib.Data.List.SplitBy

/-!
# Quiet periods

Changes fall into batches: they are cut wherever nothing happens for as long as the quiet period. A
watch knows no batches, only the end of the quiet period that runs; every change begins it anew. If
a batch settles at the very moment at which its quiet period ends, and before a change that comes
at the same moment, then what settles is what the cutting gives. Main statement:
`Punctual.settled_eq`.
-/

namespace ReplicaSync

/-! ### Cutting at gaps -/

section Cutting

variable (quiet : Nat)

/-- The times of changes in batches, cut wherever the gap is at least the quiet period. -/
def cutAtGaps (times : List Nat) : List (List Nat) :=
  times.splitBy fun earlier later => later - earlier < quiet

/-- The end of the quiet period after the last change of a batch. -/
def quietEnd? (batch : List Nat) : Option Nat := batch.getLast?.map (· + quiet)

/-- The ends of the quiet periods of all batches. -/
def quietEnds (times : List Nat) : List Nat :=
  (cutAtGaps quiet times).filterMap (quietEnd? quiet)

variable {quiet : Nat} {first second : Nat} {times rest : List Nat}

theorem quietEnd?_cons :
    quietEnd? quiet (first :: second :: rest) = quietEnd? quiet (second :: rest) := by
  rw [quietEnd?, quietEnd?, List.getLast?_cons_of_ne_nil (List.cons_ne_nil _ _)]

theorem quietEnds_singleton : quietEnds quiet [first] = [first + quiet] := rfl

/-- A change that comes soon enough joins the batch of the next one. -/
theorem cutAtGaps_near (rest : List Nat) (h : second - first < quiet) :
    ∃ tail batches, cutAtGaps quiet (second :: rest) = (second :: tail) :: batches ∧
      cutAtGaps quiet (first :: second :: rest) = (first :: second :: tail) :: batches := by
  cases hcut : cutAtGaps quiet (second :: rest) with
  | nil =>
    have hnil : second :: rest = [] := List.splitBy_eq_nil.mp hcut
    cases hnil
  | cons batch batches =>
    obtain ⟨hflatten, hnonempty, hchains, hgaps⟩ := List.splitBy_eq_iff.mp hcut
    rw [List.mem_cons, not_or] at hnonempty
    rw [List.forall_mem_cons] at hchains
    cases batch with
    | nil => exact (hnonempty.1 rfl).elim
    | cons head tail =>
      have hhead : second = head := by
        rw [List.flatten_cons, List.cons_append] at hflatten
        exact (List.cons.inj hflatten).1
      subst hhead
      refine ⟨tail, batches, rfl, List.splitBy_eq_iff.mpr ⟨?_, ?_, ?_, ?_⟩⟩
      · rw [List.flatten_cons, List.cons_append, ← List.flatten_cons, ← hflatten]
      · simp [hnonempty.2]
      · rw [List.forall_mem_cons, List.isChain_cons_cons]
        exact ⟨⟨decide_eq_true h, hchains.1⟩, hchains.2⟩
      · rw [List.isChain_cons] at hgaps ⊢
        refine ⟨fun next hnext => ?_, hgaps.2⟩
        obtain ⟨_, hne, hgap⟩ := hgaps.1 next hnext
        exact ⟨List.cons_ne_nil _ _, hne, by rwa [List.getLast_cons (List.cons_ne_nil _ _)]⟩

/-- A change that is followed by a gap is a batch. -/
theorem cutAtGaps_far (h : ∀ second ∈ times.head?, quiet ≤ second - first) :
    cutAtGaps quiet (first :: times) = [first] :: cutAtGaps quiet times := by
  have hcut : cutAtGaps quiet ([first] ++ times) =
      cutAtGaps quiet [first] ++ cutAtGaps quiet times := by
    refine List.splitBy_append fun last hlast second hsecond => ?_
    cases hlast
    exact decide_eq_false (Nat.not_lt.mpr (h second hsecond))
  exact hcut

/-- So the first one has no end of its own. -/
theorem quietEnds_near (h : second - first < quiet) :
    quietEnds quiet (first :: second :: rest) = quietEnds quiet (second :: rest) := by
  obtain ⟨tail, batches, hcut, hjoined⟩ := cutAtGaps_near rest h
  rw [quietEnds, quietEnds, hcut, hjoined, List.filterMap_cons, List.filterMap_cons, quietEnd?_cons]

theorem quietEnds_far (h : ∀ second ∈ times.head?, quiet ≤ second - first) :
    quietEnds quiet (first :: times) = (first + quiet) :: quietEnds quiet times := by
  rw [quietEnds, cutAtGaps_far h]
  rfl

/-- The ends come after the changes. -/
theorem le_quietEnds (hsorted : (first :: times).Pairwise (· ≤ ·)) :
    ∀ ending ∈ quietEnds quiet (first :: times), first + quiet ≤ ending := by
  induction times generalizing first with
  | nil => simp [quietEnds_singleton]
  | cons second rest ih =>
    have hle : first ≤ second := List.rel_of_pairwise_cons hsorted (List.mem_cons_self ..)
    have hrest := ih hsorted.of_cons
    by_cases hnear : second - first < quiet
    · rw [quietEnds_near hnear]
      exact fun ending hmem => Nat.le_trans (Nat.add_le_add_right hle quiet) (hrest ending hmem)
    · have hfar : ∀ next ∈ (second :: rest).head?, quiet ≤ next - first := by
        intro next hnext
        cases hnext
        exact Nat.not_lt.mp hnear
      rw [quietEnds_far hfar, List.forall_mem_cons]
      exact ⟨Nat.le_refl _, fun ending hmem =>
        Nat.le_trans (Nat.add_le_add_right hle quiet) (hrest ending hmem)⟩

/-- The end of a change is the end of the quiet period of its batch, and the first end after the
change. -/
structure EndsAt (quiet : Nat) (times : List Nat) (time ending : Nat) : Prop where
  mem : ending ∈ quietEnds quiet times
  late : time + quiet ≤ ending
  first : ∀ other ∈ quietEnds quiet times, time < other → ending ≤ other

theorem EndsAt.near {time ending : Nat} (h : EndsAt quiet (second :: rest) time ending)
    (hnear : second - first < quiet) : EndsAt quiet (first :: second :: rest) time ending := by
  refine ⟨?_, h.late, ?_⟩
  · rw [quietEnds_near hnear]
    exact h.mem
  · rw [quietEnds_near hnear]
    exact h.first

/-- A change that is followed by a gap is over before the next one comes. -/
theorem EndsAt.far {time ending : Nat} (h : EndsAt quiet times time ending)
    (hfar : ∀ second ∈ times.head?, quiet ≤ second - first) (hlate : first + quiet ≤ time) :
    EndsAt quiet (first :: times) time ending := by
  have hends := quietEnds_far hfar
  refine ⟨hends ▸ List.mem_cons_of_mem _ h.mem, h.late, fun other hother hlt => ?_⟩
  rw [hends] at hother
  rcases List.mem_cons.mp hother with rfl | hother
  · omega
  · exact h.first other hother hlt

theorem mem_of_mem_cutAtGaps {batch : List Nat} (hbatch : batch ∈ cutAtGaps quiet times) :
    ∀ time ∈ batch, time ∈ times := by
  intro time hmem
  rw [← List.flatten_splitBy (fun earlier later => decide (later - earlier < quiet)) times]
  exact List.mem_flatten.mpr ⟨batch, hbatch, hmem⟩

theorem le_of_far (hsorted : (first :: times).Pairwise (· ≤ ·))
    (hfar : ∀ second ∈ times.head?, quiet ≤ second - first) :
    ∀ time ∈ times, first + quiet ≤ time := by
  cases times with
  | nil => exact List.forall_mem_nil _
  | cons second rest =>
    have hgap : quiet ≤ second - first := hfar second rfl
    have hle : first ≤ second := List.rel_of_pairwise_cons hsorted (List.mem_cons_self ..)
    rw [List.forall_mem_cons]
    refine ⟨by omega, fun time hmem => ?_⟩
    have hafter : second ≤ time := List.rel_of_pairwise_cons hsorted.of_cons hmem
    omega

/-- Every batch has an end, and that is the end of its changes. -/
theorem endsAt_cutAtGaps (hsorted : times.Pairwise (· ≤ ·)) :
    ∀ batch ∈ cutAtGaps quiet times, ∃ ending,
      quietEnd? quiet batch = some ending ∧ ∀ time ∈ batch, EndsAt quiet times time ending := by
  induction times with
  | nil => exact List.forall_mem_nil _
  | cons first times ih =>
    have hrest := ih hsorted.of_cons
    by_cases hfar : ∀ second ∈ times.head?, quiet ≤ second - first
    · rw [cutAtGaps_far hfar, List.forall_mem_cons]
      have hlate := le_of_far hsorted hfar
      refine ⟨⟨first + quiet, rfl, ?_⟩, fun batch hbatch => ?_⟩
      · rw [List.forall_mem_singleton]
        refine ⟨?_, Nat.le_refl _, fun other hmem _ => le_quietEnds hsorted other hmem⟩
        rw [quietEnds_far hfar]
        exact List.mem_cons_self ..
      · obtain ⟨ending, hover, hall⟩ := hrest batch hbatch
        exact ⟨ending, hover, fun time hmem =>
          (hall time hmem).far hfar (hlate time (mem_of_mem_cutAtGaps hbatch time hmem))⟩
    · cases times with
      | nil => exact (hfar (fun _ h => (Option.some_ne_none _ h.symm).elim)).elim
      | cons second rest =>
        have hnear : second - first < quiet := by simpa using hfar
        obtain ⟨tail, batches, hcut, hjoined⟩ := cutAtGaps_near rest hnear
        rw [hcut, List.forall_mem_cons] at hrest
        rw [hjoined, List.forall_mem_cons]
        refine ⟨?_, fun batch hbatch => ?_⟩
        · obtain ⟨ending, hover, hall⟩ := hrest.1
          refine ⟨ending, quietEnd?_cons.trans hover,
            List.forall_mem_cons.mpr ⟨?_, fun time hmem => ?_⟩⟩
          · -- the first change ends with the second one
            have hend := (hall second (List.mem_cons_self ..)).near hnear
            have hle : first ≤ second := List.rel_of_pairwise_cons hsorted (List.mem_cons_self ..)
            have hlate := hend.late
            refine ⟨hend.mem, by omega, fun other hother _ => hend.first other hother ?_⟩
            rw [quietEnds_near hnear] at hother
            have hother := le_quietEnds hsorted.of_cons other hother
            omega
          · exact (hall time hmem).near hnear
        · obtain ⟨ending, hover, hall⟩ := hrest.2 batch hbatch
          exact ⟨ending, hover, fun time hmem => (hall time hmem).near hnear⟩

end Cutting

/-! ### Settling on time -/

/-- The clock of a watch, with the end of the quiet period that runs. -/
structure QuietClock where
  due? : Option Nat
  now : Nat

/-- From the first clock to the second one, changes come and batches settle at these times. Time
does not pass over the end of a quiet period, and no change comes at that moment before the batch
has settled. -/
inductive Punctual (quiet : Nat) : QuietClock → List Nat → List Nat → QuietClock → Prop
  | done (clock : QuietClock) : Punctual quiet clock [] [] clock
  | passes {due? : Option Nat} {now later : Nat} {changes settled : List Nat} {stop : QuietClock}
      (hlater : now ≤ later) (hdue : ∀ due, due? = some due → later ≤ due)
      (rest : Punctual quiet ⟨due?, later⟩ changes settled stop) :
    Punctual quiet ⟨due?, now⟩ changes settled stop
  | change {due? : Option Nat} {now : Nat} {changes settled : List Nat} {stop : QuietClock}
      (hdue : ∀ due, due? = some due → now < due)
      (rest : Punctual quiet ⟨some (now + quiet), now⟩ changes settled stop) :
    Punctual quiet ⟨due?, now⟩ (now :: changes) settled stop
  | settles {now : Nat} {changes settled : List Nat} {stop : QuietClock}
      (rest : Punctual quiet ⟨none, now⟩ changes settled stop) :
    Punctual quiet ⟨some now, now⟩ changes (now :: settled) stop

section Settling

variable {quiet : Nat} {start middle stop : QuietClock}
variable {changes settled moreChanges moreSettled : List Nat}

theorem Punctual.trans (h : Punctual quiet start changes settled middle)
    (hmore : Punctual quiet middle moreChanges moreSettled stop) :
    Punctual quiet start (changes ++ moreChanges) (settled ++ moreSettled) stop := by
  induction h with
  | done => exact hmore
  | passes hlater hdue _ ih => exact .passes hlater hdue (ih hmore)
  | change hdue _ ih => exact .change hdue (ih hmore)
  | settles _ ih => exact .settles (ih hmore)

/-- Time goes on, and the changes are not before its start. -/
theorem Punctual.later (h : Punctual quiet start changes settled stop) :
    start.now ≤ stop.now ∧ ∀ time ∈ changes, start.now ≤ time := by
  induction h with
  | done => exact ⟨Nat.le_refl _, List.forall_mem_nil _⟩
  | passes hlater _ _ ih =>
    exact ⟨Nat.le_trans hlater ih.1, fun time hmem => Nat.le_trans hlater (ih.2 time hmem)⟩
  | change _ _ ih => exact ⟨ih.1, List.forall_mem_cons.mpr ⟨Nat.le_refl _, ih.2⟩⟩
  | settles _ ih => exact ih

theorem Punctual.sorted (h : Punctual quiet start changes settled stop) :
    changes.Pairwise (· ≤ ·) := by
  induction h with
  | done => exact .nil
  | passes _ _ _ ih | settles _ ih => exact ih
  | change _ rest ih => exact List.pairwise_cons.mpr ⟨rest.later.2, ih⟩

/-- What has settled, with what settles at this very moment, are the batches whose quiet period is
over, at the ends of their quiet periods. The change before the first clock, if a quiet period ran
there, counts with those that follow. -/
theorem Punctual.settled_eq (h : Punctual quiet start changes settled stop) {last? : Option Nat}
    (hlast : start.due? = last?.map (· + quiet))
    (hpast : ∀ last, last? = some last → last ≤ start.now) :
    settled ++ stop.due?.toList.filter (· ≤ stop.now) =
      (quietEnds quiet (last?.toList ++ changes)).filter (· ≤ stop.now) := by
  -- the induction is on the way of the clock; only the last change before it matters
  induction h generalizing last? with
  | done clock =>
    rw [hlast, List.append_nil]
    cases last? with
    | none => rfl
    | some last => rfl
  | passes hlater _ _ ih =>
    exact ih hlast fun last hmem => Nat.le_trans (hpast last hmem) hlater
  | @change due? now changes _ _ hdue _ ih =>
    have hrest := @ih (some now) rfl fun _ hmem => Nat.le_of_eq (Option.some.inj hmem).symm
    rw [hrest]
    cases last? with
    | none => rfl
    | some last =>
      have hbefore : last ≤ now := hpast last rfl
      have hearly : now < last + quiet := hdue _ hlast
      have hnear : now - last < quiet := by omega
      exact congrArg _ (quietEnds_near hnear).symm
  | @settles now changes _ stop rest ih =>
    cases last? with
    | none => cases hlast
    | some last =>
      have hend : now = last + quiet := Option.some.inj hlast
      have hfar : ∀ next ∈ changes.head?, quiet ≤ next - last := by
        intro next hnext
        have hnow : now ≤ next := rest.later.2 next (List.mem_of_mem_head? hnext)
        omega
      have hover : now ≤ stop.now := rest.later.1
      have hrest := @ih none rfl fun _ hmem => (Option.some_ne_none _ hmem.symm).elim
      rw [Option.toList_none, List.nil_append] at hrest
      rw [List.cons_append, hrest, Option.toList_some, List.singleton_append, quietEnds_far hfar,
        ← hend, List.filter_cons, if_pos (decide_eq_true hover)]

end Settling

end ReplicaSync
