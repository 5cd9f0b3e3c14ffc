import ReplicaSync.Proofs.Watcher.QuietPeriods
import ReplicaSync.Rehearsal.Watcher

/-!
# The time of one watch

A watch goes from the start that made it to the stop, or to the next start that succeeds. As long as
it is there its batches settle on time, and the callbacks that are spawned are its own; a watch that
is gone never comes back. Main statements: `firings_begun` and `Numbered.after`.
-/

namespace ReplicaSync

/-- The watch takes the event in as a change. -/
def Watcher.takesIn (watcher : Watcher) (event : RawEvent) : Bool :=
  watcher.watch.any fun watch => event.isRelevant watch.ignored

/-- A change to a file that no directory of the program holds. -/
def someChange : RawEvent := ⟨.modify, [⟨[Path.slash, 0x66]⟩]⟩

namespace WatcherRehearsal

/-! ### Instructions one after the other -/

/-- The rehearsal behind these instructions. -/
def after (r : WatcherRehearsal) (instructions : List WatcherInstruction) : WatcherRehearsal :=
  instructions.foldl (fun r instruction => (r.carryOut instruction).1) r

/-- The callbacks that are spawned, in their order. -/
def firings (r : WatcherRehearsal) (instructions : List WatcherInstruction) : List Firing :=
  (r.run instructions).flatMap (·.firings)

/-- The time of the instruction, if it brings a change that the watch takes in. -/
def changeOf (r : WatcherRehearsal) : WatcherInstruction → List Nat
  | .raw event => if r.watcher.takesIn event then [r.now] else []
  | _ => []

/-- The times of the changes that are taken in. -/
def changes (r : WatcherRehearsal) : List WatcherInstruction → List Nat
  | [] => []
  | instruction :: rest => r.changeOf instruction ++ (r.carryOut instruction).1.changes rest

/-- The instruction ends the watch that is there: a stop, or a start that does not fail. -/
def endsWatch (r : WatcherRehearsal) : WatcherInstruction → Bool
  | .stop => true
  | .start _ _ => r.faults = .none
  | _ => false

/-- No instruction ends the watch that is there. -/
def keepsWatch (r : WatcherRehearsal) : List WatcherInstruction → Bool
  | [] => true
  | instruction :: rest =>
    !r.endsWatch instruction && (r.carryOut instruction).1.keepsWatch rest

variable {r : WatcherRehearsal}

theorem after_cons (r : WatcherRehearsal) (instruction : WatcherInstruction)
    (rest : List WatcherInstruction) :
    r.after (instruction :: rest) = (r.carryOut instruction).1.after rest := rfl

theorem firings_cons (r : WatcherRehearsal) (instruction : WatcherInstruction)
    (rest : List WatcherInstruction) :
    r.firings (instruction :: rest) =
      (r.carryOut instruction).2.firings ++ (r.carryOut instruction).1.firings rest := rfl

theorem firings_append (r : WatcherRehearsal) (a b : List WatcherInstruction) :
    r.firings (a ++ b) = r.firings a ++ (r.after a).firings b := by
  induction a generalizing r with
  | nil => rfl
  | cons instruction rest ih =>
    rw [List.cons_append, firings_cons, firings_cons, ih, List.append_assoc, after_cons]

/-! ### Settling what is due -/

/-- The clock of the watch. -/
def quietClock (r : WatcherRehearsal) : QuietClock := ⟨r.watcher.due?, r.now⟩

/-- Nothing is due that has not settled. -/
def IsSettled (r : WatcherRehearsal) : Prop := ∀ due, r.watcher.due? = some due → r.now < due

/-- Either nothing is due, or the batch of the watch settles. -/
inductive Settles (r : WatcherRehearsal) : WatcherRehearsal → List Firing → Prop
  | waits (h : r.IsSettled) : Settles r r []
  | settles (watch : Watch) (due : Nat) (hwatch : r.watcher.watch = some watch)
      (hdue : watch.due = some due) (hover : due ≤ r.now) :
    Settles r { r with watcher := { r.watcher with watch := some { watch with due := none } } }
      [⟨r.now, watch.number⟩]

/-- The watch stays, and these are callbacks of it. -/
structure SameWatch (r later : WatcherRehearsal) (fired : List Firing) : Prop where
  number : later.watcher.watch.map (·.number) = r.watcher.watch.map (·.number)
  callbacks : ∀ firing ∈ fired, r.watcher.watch.map (·.number) = some firing.number
  debounce : later.watcher.debounce = r.watcher.debounce
  starts : r.starts ≤ later.starts

/-- The watch ends without a callback. There is none behind it, or one with a number of its own. -/
structure WatchEnds (r later : WatcherRehearsal) (fired : List Firing) : Prop where
  silent : fired = []
  debounce : later.watcher.debounce = r.watcher.debounce
  next : later.watcher.watch.map (·.number) = none ∧ later.starts = r.starts ∨
    later.watcher.watch.map (·.number) = some r.starts ∧ later.starts = r.starts + 1

theorem settleDue_settles (r : WatcherRehearsal) :
    r.Settles r.settleDue.1 r.settleDue.2.1 := by
  have hdue? : ∀ watch, r.watcher.watch = some watch → r.watcher.due? = watch.due := by
    intro watch hwatch
    rw [Watcher.due?, hwatch]
    rfl
  unfold settleDue Watcher.settle
  cases hwatch : r.watcher.watch with
  | none =>
    refine .waits fun due hdue => ?_
    rw [Watcher.due?, hwatch] at hdue
    cases hdue
  | some watch =>
    cases hdue : watch.due with
    | none =>
      simp only [hdue]
      refine .waits fun due hsome => ?_
      rw [hdue? watch hwatch, hdue] at hsome
      cases hsome
    | some due =>
      by_cases hover : due ≤ r.now
      · simp only [hdue, if_pos hover]
        exact .settles watch due hwatch hdue hover
      · simp only [hdue, if_neg hover]
        refine .waits fun other hother => ?_
        rw [hdue? watch hwatch, hdue] at hother
        cases hother
        exact Nat.lt_of_not_le hover

section Settling

variable {later : WatcherRehearsal} {fired : List Firing}

theorem Settles.now (h : r.Settles later fired) : later.now = r.now := by
  cases h with
  | waits | settles => rfl

theorem Settles.isSettled (h : r.Settles later fired) : later.IsSettled := by
  cases h with
  | waits h => exact h
  | settles => exact fun _ hdue => (Option.some_ne_none _ hdue.symm).elim

/-- If time did not pass over the end of the quiet period, the batch settles on time. -/
theorem Settles.punctual (h : r.Settles later fired) (quiet : Nat)
    (htimely : ∀ due, r.watcher.due? = some due → r.now ≤ due) :
    Punctual quiet r.quietClock [] (fired.map (·.time)) later.quietClock := by
  cases h with
  | waits => exact .done _
  | settles watch due hwatch hdue hover =>
    have hrunning : r.watcher.due? = some due := by
      rw [Watcher.due?, hwatch]
      exact hdue
    have hnow : due = r.now := Nat.le_antisymm hover (htimely due hrunning)
    rw [quietClock, hrunning, hnow]
    exact .settles (.done _)

theorem Settles.sameWatch (h : r.Settles later fired) : r.SameWatch later fired := by
  cases h with
  | waits => exact ⟨rfl, List.forall_mem_nil _, rfl, Nat.le_refl _⟩
  | settles watch _ hwatch =>
    refine ⟨?_, ?_, rfl, Nat.le_refl _⟩
    · rw [hwatch]
      rfl
    · rw [List.forall_mem_singleton, hwatch]
      rfl

end Settling

/-! ### One instruction -/

/-- A change that is taken in begins the quiet period anew; any other event leaves no trace. -/
theorem notice_due (watcher : Watcher) (now : Nat) (event : RawEvent) :
    watcher.takesIn event = true ∧
        (watcher.notice now event).due? = some (now + watcher.debounce.ticks) ∨
      watcher.takesIn event = false ∧ watcher.notice now event = watcher := by
  unfold Watcher.takesIn Watcher.notice
  cases hwatch : watcher.watch with
  | none => exact .inr ⟨rfl, rfl⟩
  | some watch =>
    cases hrelevant : event.isRelevant watch.ignored with
    | true =>
      refine .inl ⟨hrelevant, ?_⟩
      simp only [hrelevant, if_true]
      rfl
    | false =>
      refine .inr ⟨hrelevant, ?_⟩
      simp [hrelevant]

theorem notice_number (watcher : Watcher) (now : Nat) (event : RawEvent) :
    (watcher.notice now event).watch.map (·.number) = watcher.watch.map (·.number) := by
  unfold Watcher.notice
  split
  · rfl
  · rename_i watch hwatch
    split
    · rw [hwatch]
      rfl
    · rfl

theorem notice_debounce (watcher : Watcher) (now : Nat) (event : RawEvent) :
    (watcher.notice now event).debounce = watcher.debounce := by
  unfold Watcher.notice
  split
  · rfl
  · split <;> rfl

/-- A start fails as long as the operating system has a failure in store; otherwise the new watch
takes the place of the old one. -/
theorem start_outcome (r : WatcherRehearsal) (root : Path) (ignored : List Path) :
    (r.start root ignored).2.firings = [] ∧
      (r.faults ≠ .none ∧ (r.start root ignored).1 =
          { r with starts := r.starts + 1, faults := r.faults.spend } ∨
        r.faults = .none ∧ ∃ watch : Watch, watch.number = r.starts ∧ watch.due = none ∧
          (r.start root ignored).1 = { r with
            watcher := { r.watcher with watch := some watch }
            starts := r.starts + 1
            faults := r.faults.spend }) := by
  obtain ⟨watcher, disk, now, starts, creation, watching⟩ := r
  cases creation with
  | some text => exact ⟨rfl, .inl ⟨by simp [Watcher.Faults.none], rfl⟩⟩
  | none =>
    cases watching with
    | some text => exact ⟨rfl, .inl ⟨by simp [Watcher.Faults.none], rfl⟩⟩
    | none => exact ⟨rfl, .inr ⟨rfl, _, rfl, rfl, rfl⟩⟩

/-- The watch of a start that does not fail has the number of the start, and waits for nothing. -/
theorem begun (r : WatcherRehearsal) (root : Path) (ignored : List Path)
    (hfaults : r.faults = .none) :
    let later := (r.carryOut (.start root ignored)).1
    later.watcher.watch.map (·.number) = some r.starts ∧ later.watcher.due? = none ∧
      later.starts = r.starts + 1 := by
  intro later
  obtain ⟨_, ⟨hfails, _⟩ | ⟨_, watch, hnumber, hdue, hlater⟩⟩ := r.start_outcome root ignored
  · exact (hfails hfaults).elim
  · have hlater : later = _ := hlater
    rw [hlater]
    exact ⟨congrArg some hnumber, hdue, rfl⟩

theorem isSettled_of_due (h : r.watcher.due? = none) : r.IsSettled := by
  intro due hdue
  rw [h] at hdue
  cases hdue

/-- Where the clock stops on its way to a later time. -/
def stopBefore (r : WatcherRehearsal) (later : Nat) : Nat :=
  min later (max (r.watcher.due?.getD later) r.now)

theorem pass_settles (r : WatcherRehearsal) (ms : Nat) :
    ∃ settled, { r with now := r.stopBefore (r.now + ms) }.Settles settled (r.pass ms).2.1 ∧
      (r.pass ms).1 = { settled with now := r.now + ms } :=
  ⟨_, settleDue_settles _, rfl⟩

/-- On its way the clock passes over no end of a quiet period, and at the end nothing is due. -/
theorem pass_punctual (hsettled : r.IsSettled) (quiet ms : Nat) :
    Punctual quiet r.quietClock [] ((r.pass ms).2.1.map (·.time)) (r.pass ms).1.quietClock ∧
      (r.pass ms).1.IsSettled := by
  obtain ⟨settled, hsettles, hpass⟩ := r.pass_settles ms
  have hnow : r.now ≤ r.stopBefore (r.now + ms) := by
    unfold stopBefore
    omega
  have hlater : r.stopBefore (r.now + ms) ≤ r.now + ms := Nat.min_le_left _ _
  have htimely : ∀ due, r.watcher.due? = some due → r.stopBefore (r.now + ms) ≤ due := by
    intro due hdue
    have hearly := hsettled due hdue
    rw [stopBefore, hdue, Option.getD_some]
    omega
  have hover : ∀ due, settled.watcher.due? = some due → r.now + ms < due := by
    generalize (r.pass ms).2.1 = fired at hsettles
    cases hsettles with
    | waits hwaits =>
      intro due hdue
      have hstop := hwaits due hdue
      change r.watcher.due? = some due at hdue
      change r.stopBefore (r.now + ms) < due at hstop
      rw [stopBefore, hdue, Option.getD_some] at hstop
      omega
    | settles => exact fun _ hdue => (Option.some_ne_none _ hdue.symm).elim
  rw [hpass]
  refine ⟨?_, hover⟩
  have harrives : Punctual quiet settled.quietClock [] []
      (quietClock { settled with now := r.now + ms }) := by
    refine .passes ?_ (fun due hdue => Nat.le_of_lt (hover due hdue)) (.done _)
    rw [hsettles.now]
    exact hlater
  have hway := (hsettles.punctual quiet htimely).trans harrives
  rw [List.append_nil, List.append_nil] at hway
  exact .passes hnow htimely hway

/-- As long as the watch stays, its batches settle on time. -/
theorem carryOut_punctual (hsettled : r.IsSettled) {instruction : WatcherInstruction}
    (hkeeps : r.endsWatch instruction = false) :
    Punctual r.watcher.debounce.ticks r.quietClock (r.changeOf instruction)
      ((r.carryOut instruction).2.firings.map (·.time))
      (r.carryOut instruction).1.quietClock := by
  cases instruction with
  | stop => cases hkeeps
  | start root ignored =>
    obtain ⟨hsilent, ⟨_, hfails⟩ | ⟨hnone, _⟩⟩ := r.start_outcome root ignored
    · show Punctual _ _ [] ((r.start root ignored).2.firings.map _)
        (r.start root ignored).1.quietClock
      rw [hsilent, hfails]
      exact .done _
    · rw [endsWatch, hnone] at hkeeps
      cases hkeeps
  | raw event =>
    have hsettles := settleDue_settles { r with watcher := r.watcher.notice r.now event }
    rcases notice_due r.watcher r.now event with ⟨htakes, hdue⟩ | ⟨hleaves, hsame⟩
    · have htimely : ∀ due, (r.watcher.notice r.now event).due? = some due → r.now ≤ due := by
        intro due hsome
        rw [hdue] at hsome
        cases hsome
        exact Nat.le_add_right _ _
      have hrest := hsettles.punctual r.watcher.debounce.ticks htimely
      rw [quietClock, hdue] at hrest
      rw [changeOf, if_pos htakes]
      exact .change hsettled hrest
    · rw [hsame] at hsettles
      have hrest := hsettles.punctual r.watcher.debounce.ticks fun due hdue =>
        Nat.le_of_lt (hsettled due hdue)
      rw [changeOf, if_neg (Bool.eq_false_iff.mp hleaves)]
      simp only [carryOut, hsame]
      exact hrest
  | advance ms => exact (pass_punctual hsettled _ ms).1
  | rawError | failCreation | failWatching => exact .done _

theorem isSettled_carryOut (hsettled : r.IsSettled) (instruction : WatcherInstruction) :
    (r.carryOut instruction).1.IsSettled := by
  cases instruction with
  | start root ignored =>
    obtain ⟨_, ⟨_, hafter⟩ | ⟨_, watch, _, hdue, hafter⟩⟩ := r.start_outcome root ignored
    · show (r.start root ignored).1.IsSettled
      rw [hafter]
      exact hsettled
    · show (r.start root ignored).1.IsSettled
      rw [hafter]
      intro due hsome
      change watch.due = some due at hsome
      rw [hdue] at hsome
      cases hsome
  | stop => exact fun _ hdue => (Option.some_ne_none _ hdue.symm).elim
  | raw event => exact (settleDue_settles _).isSettled
  | advance ms => exact (pass_punctual hsettled 0 ms).2
  | rawError | failCreation | failWatching => exact hsettled

theorem carryOut_sameWatch {instruction : WatcherInstruction}
    (hkeeps : r.endsWatch instruction = false) :
    r.SameWatch (r.carryOut instruction).1 (r.carryOut instruction).2.firings := by
  cases instruction with
  | stop => cases hkeeps
  | start root ignored =>
    obtain ⟨hsilent, ⟨_, hfails⟩ | ⟨hnone, _⟩⟩ := r.start_outcome root ignored
    · show r.SameWatch (r.start root ignored).1 (r.start root ignored).2.firings
      rw [hsilent, hfails]
      exact ⟨rfl, List.forall_mem_nil _, rfl, Nat.le_succ _⟩
    · rw [endsWatch, hnone] at hkeeps
      cases hkeeps
  | raw event =>
    have hsame := (settleDue_settles { r with watcher := r.watcher.notice r.now event }).sameWatch
    have hnumber := notice_number r.watcher r.now event
    exact ⟨hsame.number.trans hnumber,
      fun firing hmem => hnumber.symm.trans (hsame.callbacks firing hmem),
      hsame.debounce.trans (notice_debounce _ _ _), hsame.starts⟩
  | advance ms =>
    obtain ⟨settled, hsettles, hpass⟩ := r.pass_settles ms
    have hsame := hsettles.sameWatch
    show r.SameWatch (r.pass ms).1 (r.pass ms).2.1
    rw [hpass]
    exact ⟨hsame.number, hsame.callbacks, hsame.debounce, hsame.starts⟩
  | rawError | failCreation | failWatching =>
    exact ⟨rfl, List.forall_mem_nil _, rfl, Nat.le_refl _⟩

theorem carryOut_watchEnds {instruction : WatcherInstruction}
    (hends : r.endsWatch instruction = true) :
    r.WatchEnds (r.carryOut instruction).1 (r.carryOut instruction).2.firings := by
  cases instruction with
  | stop => exact ⟨rfl, rfl, .inl ⟨rfl, rfl⟩⟩
  | start root ignored =>
    obtain ⟨hsilent, ⟨hfaults, _⟩ | ⟨_, watch, hnumber, _, hafter⟩⟩ :=
      r.start_outcome root ignored
    · exact (hfaults (of_decide_eq_true hends)).elim
    · show r.WatchEnds (r.start root ignored).1 (r.start root ignored).2.firings
      rw [hsilent, hafter]
      exact ⟨rfl, rfl, .inr ⟨congrArg some hnumber, rfl⟩⟩
  | raw | rawError | failCreation | failWatching | advance => cases hends

theorem debounce_carryOut (r : WatcherRehearsal) (instruction : WatcherInstruction) :
    (r.carryOut instruction).1.watcher.debounce = r.watcher.debounce := by
  cases hends : r.endsWatch instruction with
  | true => exact (carryOut_watchEnds hends).debounce
  | false => exact (carryOut_sameWatch hends).debounce

/-- The callbacks are those of the watch that is there. -/
theorem numbers_carryOut (r : WatcherRehearsal) (instruction : WatcherInstruction) :
    ∀ firing ∈ (r.carryOut instruction).2.firings,
      r.watcher.watch.map (·.number) = some firing.number := by
  cases hends : r.endsWatch instruction with
  | true =>
    rw [(carryOut_watchEnds hends).silent]
    exact List.forall_mem_nil _
  | false => exact (carryOut_sameWatch hends).callbacks

theorem starts_carryOut (r : WatcherRehearsal) (instruction : WatcherInstruction) :
    r.starts ≤ (r.carryOut instruction).1.starts := by
  cases hends : r.endsWatch instruction with
  | true =>
    obtain ⟨_, hsame⟩ | ⟨_, hnext⟩ := (carryOut_watchEnds hends).next
    · exact Nat.le_of_eq hsame.symm
    · exact Nat.le_of_lt (Nat.lt_of_succ_le (Nat.le_of_eq hnext.symm))
  | false => exact (carryOut_sameWatch hends).starts

/-! ### As long as the watch is there -/

theorem starts_after (r : WatcherRehearsal) (instructions : List WatcherInstruction) :
    r.starts ≤ (r.after instructions).starts := by
  induction instructions generalizing r with
  | nil => exact Nat.le_refl _
  | cons instruction rest ih => exact Nat.le_trans (starts_carryOut r instruction) (ih _)

theorem isSettled_after (hsettled : r.IsSettled) (instructions : List WatcherInstruction) :
    (r.after instructions).IsSettled := by
  induction instructions generalizing r with
  | nil => exact hsettled
  | cons instruction rest ih => exact ih (isSettled_carryOut hsettled instruction)

theorem debounce_after (r : WatcherRehearsal) (instructions : List WatcherInstruction) :
    (r.after instructions).watcher.debounce = r.watcher.debounce := by
  induction instructions generalizing r with
  | nil => rfl
  | cons instruction rest ih => exact (ih _).trans (debounce_carryOut r instruction)

theorem punctual_during (hsettled : r.IsSettled) {during : List WatcherInstruction}
    (hkeeps : r.keepsWatch during = true) :
    Punctual r.watcher.debounce.ticks r.quietClock (r.changes during)
      ((r.firings during).map (·.time)) (r.after during).quietClock := by
  induction during generalizing r with
  | nil => exact .done _
  | cons instruction rest ih =>
    rw [keepsWatch, Bool.and_eq_true, Bool.not_eq_true'] at hkeeps
    have hfirst := carryOut_punctual hsettled hkeeps.1
    have hrest := ih (isSettled_carryOut hsettled instruction) hkeeps.2
    rw [debounce_carryOut] at hrest
    rw [firings_cons, List.map_append]
    exact hfirst.trans hrest

theorem numbers_during {during : List WatcherInstruction} (hkeeps : r.keepsWatch during = true) :
    ∀ firing ∈ r.firings during, r.watcher.watch.map (·.number) = some firing.number := by
  induction during generalizing r with
  | nil => exact List.forall_mem_nil _
  | cons instruction rest ih =>
    rw [keepsWatch, Bool.and_eq_true, Bool.not_eq_true'] at hkeeps
    rw [firings_cons, List.forall_mem_append]
    refine ⟨numbers_carryOut r instruction, fun firing hmem => ?_⟩
    rw [← (carryOut_sameWatch hkeeps.1).number]
    exact ih hkeeps.2 firing hmem

/-- A watch that began with nothing to wait for: its callbacks are spawned at the ends of the quiet
periods that are over, once for each. -/
theorem firings_during {number : Nat} (hnumber : r.watcher.watch.map (·.number) = some number)
    (hdue : r.watcher.due? = none) {during : List WatcherInstruction}
    (hkeeps : r.keepsWatch during = true) :
    r.firings during =
      ((quietEnds r.watcher.debounce.ticks (r.changes during)).filter
        (· ≤ (r.after during).now)).map (⟨·, number⟩) := by
  have hsettled := isSettled_of_due hdue
  have hall : (r.after during).watcher.due?.toList.filter (· ≤ (r.after during).now) = [] := by
    refine List.filter_eq_nil_iff.mpr fun due hmem => ?_
    have hlate := isSettled_after hsettled during due (Option.mem_toList.mp hmem)
    simpa using hlate
  have htimes := @Punctual.settled_eq _ _ _ _ _ (punctual_during hsettled hkeeps) none hdue
    fun _ hmem => (Option.some_ne_none _ hmem.symm).elim
  change _ ++ (r.after during).watcher.due?.toList.filter (· ≤ (r.after during).now) =
    (quietEnds _ (r.changes during)).filter (· ≤ (r.after during).now) at htimes
  rw [hall, List.append_nil] at htimes
  rw [← htimes, List.map_map]
  refine (List.map_id _).symm.trans (List.map_congr_left fun firing hmem => ?_)
  have hown : number = firing.number :=
    Option.some.inj (hnumber.symm.trans (numbers_during hkeeps firing hmem))
  rw [Function.comp_apply, hown]
  rfl

/-- So it is for the watch of any start that does not fail. -/
theorem firings_begun (debounce : Duration) (disk : Disk) (before : List WatcherInstruction)
    (root : Path) (ignored : List Path) {during : List WatcherInstruction} :
    let earlier := (new debounce disk).after before
    let r := (earlier.carryOut (.start root ignored)).1
    earlier.faults = .none → r.keepsWatch during = true →
      r.firings during =
        ((quietEnds debounce.ticks (r.changes during)).filter (· ≤ (r.after during).now)).map
          (⟨·, earlier.starts⟩) := by
  intro earlier r hfaults hkeeps
  obtain ⟨hnumber, hdue, _⟩ := earlier.begun root ignored hfaults
  have hdebounce : r.watcher.debounce = debounce :=
    (debounce_carryOut _ _).trans (debounce_after _ _)
  rw [firings_during hnumber hdue hkeeps, hdebounce]

/-! ### Before and behind it -/

/-- The watch, if there is one, was made by a start of this number or a later one. -/
structure Numbered (r : WatcherRehearsal) (low : Nat) : Prop where
  starts : low ≤ r.starts
  watch : ∀ number, r.watcher.watch.map (·.number) = some number → low ≤ number ∧ number < r.starts

theorem numbered_new (debounce : Duration) (disk : Disk) : (new debounce disk).Numbered 0 :=
  ⟨Nat.zero_le _, fun _ h => (Option.some_ne_none _ h.symm).elim⟩

/-- The instruction that ends a watch leaves only later ones. -/
theorem numbered_ended {instruction : WatcherInstruction}
    (hends : r.endsWatch instruction = true) :
    (r.carryOut instruction).1.Numbered r.starts := by
  rcases (carryOut_watchEnds hends).next with ⟨hnone, hsame⟩ | ⟨hnew, hnext⟩
  · refine ⟨Nat.le_of_eq hsame.symm, fun number hnumber => ?_⟩
    rw [hnone] at hnumber
    cases hnumber
  · refine ⟨by omega, fun number hnumber => ?_⟩
    rw [hnew] at hnumber
    cases hnumber
    exact ⟨Nat.le_refl _, by omega⟩

theorem Numbered.carryOut {low : Nat} (h : r.Numbered low) (instruction : WatcherInstruction) :
    (r.carryOut instruction).1.Numbered low := by
  cases hends : r.endsWatch instruction with
  | true =>
    have hlow := h.starts
    have hended := numbered_ended hends
    refine ⟨Nat.le_trans hlow hended.starts, fun number hnumber => ?_⟩
    obtain ⟨hnumber, hstarts⟩ := hended.watch number hnumber
    exact ⟨Nat.le_trans hlow hnumber, hstarts⟩
  | false =>
    have hstarts := starts_carryOut r instruction
    refine ⟨Nat.le_trans h.starts hstarts, fun number hnumber => ?_⟩
    rw [(carryOut_sameWatch hends).number] at hnumber
    obtain ⟨hlow, hnow⟩ := h.watch number hnumber
    exact ⟨hlow, Nat.lt_of_lt_of_le hnow hstarts⟩

theorem Numbered.after {low : Nat} (h : r.Numbered low) (instructions : List WatcherInstruction) :
    (r.after instructions).Numbered low ∧
      ∀ firing ∈ r.firings instructions,
        low ≤ firing.number ∧ firing.number < (r.after instructions).starts := by
  induction instructions generalizing r with
  | nil => exact ⟨h, List.forall_mem_nil _⟩
  | cons instruction rest ih =>
    obtain ⟨hafter, hrest⟩ := ih (h.carryOut instruction)
    refine ⟨hafter, ?_⟩
    rw [firings_cons, List.forall_mem_append]
    refine ⟨fun firing hmem => ?_, hrest⟩
    obtain ⟨hlow, hnow⟩ := h.watch firing.number (numbers_carryOut r instruction firing hmem)
    have hstarts : r.starts ≤ (r.after (instruction :: rest)).starts := starts_after r _
    exact ⟨hlow, Nat.lt_of_lt_of_le hnow hstarts⟩

end WatcherRehearsal

end ReplicaSync
