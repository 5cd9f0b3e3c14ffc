import Mathlib.Data.List.Basic
import ReplicaSync.Proofs.Coordinator.Clock

/-!
# Bookkeeping on the disk

The program writes into its own directories, and the operating system reports that too. Such an
event leaves no trace: a run in which it is reported is the run in which it is not. Main statement:
`run_filter`.
-/

namespace ReplicaSync

/-! ### Events that are bookkeeping -/

/-- The event only reads files, or it has paths and all of them lie in the program's own directories
or in the resolved forms of these. -/
def RawEvent.isBookkeeping (event : RawEvent) (resolve : Path → Option Path) (own : List Path) :
    Bool :=
  event.kind = .access ||
    !event.paths.isEmpty && event.paths.all fun path =>
      own.any fun dir => path.isUnder dir || (resolve dir).any path.isUnder

/-- The move reports bookkeeping. -/
def Move.isNoise (resolve : Path → Option Path) (own : List Path) : Move → Bool
  | .raw event => event.isBookkeeping resolve own
  | _ => false

namespace Path

theorem isUnder_eq_of_isSameAs {path base other : Path} (h : other.isSameAs base = true) :
    path.isUnder other = path.isUnder base := by
  have hcomponents : other.components = base.components := of_decide_eq_true h
  rw [isUnder, isUnder, hcomponents]

/-- A resolved form that is the same path ignores nothing more, so it may be left out. -/
theorem any_otherForm? (resolve : Path → Option Path) (path dir : Path) :
    (path.isUnder dir || (otherForm? resolve dir).any path.isUnder) =
      (path.isUnder dir || (resolve dir).any path.isUnder) := by
  unfold otherForm?
  cases resolve dir with
  | none => rfl
  | some resolved =>
    cases hsame : resolved.isSameAs dir with
    | true =>
      have hunder : path.isUnder resolved = path.isUnder dir := isUnder_eq_of_isSameAs hsame
      simp [Option.filter, hsame, hunder]
    | false => simp [Option.filter, hsame]

theorem isIgnored_filterMap (f : Path → Option Path) (path : Path) (dirs : List Path) :
    path.isIgnored (dirs.filterMap f) = dirs.any fun dir => (f dir).any path.isUnder := by
  rw [isIgnored, List.any_filterMap]
  refine List.any_congr rfl fun dir => ?_
  cases f dir with
  | none => rfl
  | some other => rfl

theorem any_or {α : Type} (p q : α → Bool) (items : List α) :
    (items.any p || items.any q) = items.any fun item => p item || q item := by
  induction items with
  | nil => rfl
  | cons item rest ih =>
    rw [List.any_cons, List.any_cons, List.any_cons, ← ih]
    cases p item <;> cases q item <;> simp

theorem isIgnored_withResolved (resolve : Path → Option Path) (path : Path) (own : List Path) :
    path.isIgnored (withResolved resolve own) =
      own.any fun dir => path.isUnder dir || (resolve dir).any path.isUnder := by
  have hown : path.isIgnored own = own.any path.isUnder := rfl
  rw [withResolved, isIgnored_append, isIgnored_filterMap, hown, any_or]
  exact congrArg own.any (funext fun dir => any_otherForm? resolve path dir)

end Path

/-- An event counts unless it is bookkeeping. -/
theorem isRelevant_withResolved (event : RawEvent) (resolve : Path → Option Path)
    (own : List Path) :
    event.isRelevant (Path.withResolved resolve own) = !event.isBookkeeping resolve own := by
  have hpaths : (event.paths.any fun path => !path.isIgnored (Path.withResolved resolve own)) =
      !event.paths.all fun path =>
        own.any fun dir => path.isUnder dir || (resolve dir).any path.isUnder := by
    rw [List.not_all_eq_any_not]
    refine congrArg event.paths.any (funext fun path => ?_)
    rw [Path.isIgnored_withResolved]
  rw [RawEvent.isRelevant, RawEvent.isBookkeeping, hpaths]
  cases event.paths.isEmpty <;> simp

example :
    let event := RawEvent.mk .modify [⟨[Path.slash, 0x61, Path.slash, 0x62]⟩, ⟨[Path.slash, 0x63]⟩]
    event.isBookkeeping (fun _ => none) [⟨[Path.slash, 0x61]⟩] = false := by
  decide

/-! ### What a watch ignores -/

namespace World

/-- The watcher is that of the desktop, and ignores the program's own directories and the resolved
forms of these. -/
structure Guards (world : World) (resolve : Path → Option Path) : Prop where
  desktop : world.resolve = some resolve
  debounce : world.watcher.debounce = world.coordinator.config.debounce
  ignored : ∀ watch, world.watcher.watch = some watch →
    watch.ignored = Path.withResolved resolve world.coordinator.config.ignoredPaths

variable {world : World} {resolve : Path → Option Path}

theorem Guards.watches (h : world.Guards resolve) {move : Move} {watcher : Watcher}
    (hstep : world.Watches move watcher) :
    watcher.debounce = world.coordinator.config.debounce ∧
      ∀ watch, watcher.watch = some watch →
        watch.ignored = Path.withResolved resolve world.coordinator.config.ignoredPaths := by
  obtain ⟨hdesktop, hdebounce, hignored⟩ := h
  cases hstep with
  | notices _ old hold | settles old _ hold =>
    refine ⟨hdebounce, fun watch hwatch => ?_⟩
    cases hwatch
    exact hignored old hold
  | starts number task other _ _ hother =>
    refine ⟨hdebounce, fun watch hwatch => ?_⟩
    rw [hdesktop] at hother
    cases hother
    cases hwatch
    rfl
  | ignores | stays => exact ⟨hdebounce, hignored⟩

theorem Guards.step (h : world.Guards resolve) (move : Move) :
    (world.step move).1.Guards resolve := by
  obtain ⟨hdebounce, hignored⟩ := h.watches (step_watcher world move)
  refine ⟨(step_built world move).2.trans h.desktop, ?_, ?_⟩
  · rw [step_coordinator]
    exact hdebounce
  · rw [step_coordinator]
    exact hignored

theorem Guards.new (coordinator : Coordinator) (resolve : Path → Option Path) (bus : EventBus) :
    (World.new coordinator (some resolve) bus).Guards resolve :=
  ⟨rfl, rfl, fun _ h => (nomatch h)⟩

theorem guards_run (coordinator : Coordinator) (resolve : Path → Option Path) (bus : EventBus)
    (moves : List Move) :
    ((World.new coordinator (some resolve) bus).run moves).1.Guards resolve := by
  induction moves using List.reverseRecOn with
  | nil => exact .new coordinator resolve bus
  | append_singleton moves move ih =>
    rw [run_snoc]
    exact ih.step move

/-! ### Runs without bookkeeping -/

/-- A report of bookkeeping changes nothing. -/
theorem Guards.noise (h : world.Guards resolve) {move : Move}
    (hnoise : move.isNoise resolve world.coordinator.config.ignoredPaths = true) :
    world.step move = (world, []) := by
  cases move with
  | raw event =>
    have hwatcher : world.watcher.notice world.now event = world.watcher := by
      unfold Watcher.notice
      split
      · rfl
      · rename_i watch hwatch
        have hbookkeeping : event.isBookkeeping resolve world.coordinator.config.ignoredPaths =
          true := hnoise
        rw [h.ignored watch hwatch, isRelevant_withResolved, hbookkeeping]
        rfl
    simp only [World.step, hwatcher]
  | _ => cases hnoise

theorem Guards.run_filter (h : world.Guards resolve) (moves : List Move) :
    world.run (moves.filter fun move =>
      !move.isNoise resolve world.coordinator.config.ignoredPaths) = world.run moves := by
  induction moves generalizing world with
  | nil => rfl
  | cons move rest ih =>
    have hrest := ih (h.step move)
    rw [step_coordinator] at hrest
    cases hnoise : move.isNoise resolve world.coordinator.config.ignoredPaths with
    | true =>
      rw [h.noise hnoise] at hrest
      rw [List.filter_cons_of_neg (by simp [hnoise]), run_cons, h.noise hnoise]
      exact hrest
    | false =>
      rw [List.filter_cons_of_pos (by simp [hnoise]), run_cons, run_cons, hrest]

end World

end ReplicaSync
