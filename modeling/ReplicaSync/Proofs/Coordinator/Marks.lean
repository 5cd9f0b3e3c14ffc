import ReplicaSync.Proofs.Coordinator.Thinning

/-!
# The mark on the gate

A request that is deferred leaves a mark on the gate. Nothing looks at it but the end of a pass, so
everything else is done alike with and without it; and a pass that ends alike although the gate is
marked begins no other. Main statements: `start_alike`, `resume_alike`, `wake_alike`.
-/

namespace ReplicaSync

/-- What the tasks share, but for the mark on the gate. -/
def Shared.unmarked (shared : Shared) : Shared :=
  { shared with gate := { shared.gate with pending := false } }

/-- The moment, but for the mark on the gate. -/
def Moment.unmarked (moment : Moment) : Moment := { moment with shared := moment.shared.unmarked }

/-- The stretches differ at most in the mark that they leave on the gate. -/
structure RequestStep.Alike (step other : RequestStep) : Prop where
  shared : step.shared.unmarked = other.shared.unmarked
  state : step.state = other.state
  acts : step.acts = other.acts

/-- The stretches differ at most in the mark that they leave on the gate. -/
structure TaskStep.Alike (step other : TaskStep) : Prop where
  shared : step.shared.unmarked = other.shared.unmarked
  task : step.task = other.task
  acts : step.acts = other.acts

theorem Shared.eq_of_unmarked {shared other : Shared} (h : shared.unmarked = other.unmarked)
    (hpending : shared.gate.pending = other.gate.pending) : shared = other := by
  obtain ⟨⟨state, pending⟩, passes⟩ := shared
  obtain ⟨⟨_, mark⟩, _⟩ := other
  cases h
  cases hpending
  rfl

section Stretches

variable {coordinator : Coordinator} {now : Nat} {shared other : Shared} {task : Task}

/-! ### Requests -/

theorem request_alike (h : shared.unmarked = other.unmarked) (policy : TriggerPolicy)
    (trigger : Trigger) :
    (Flight.request policy shared trigger).Alike (Flight.request policy other trigger) := by
  obtain ⟨⟨state, pending⟩, passes⟩ := shared
  obtain ⟨⟨_, mark⟩, _⟩ := other
  cases h
  cases state <;> cases policy <;> exact ⟨rfl, rfl, rfl⟩

theorem abandonFlight_alike (h : shared.unmarked = other.unmarked) (flight : Flight) :
    (flight.abandon shared).1.unmarked = (flight.abandon other).1.unmarked ∧
      (flight.abandon shared).2 = (flight.abandon other).2 := by
  obtain ⟨⟨state, pending⟩, passes⟩ := shared
  obtain ⟨⟨_, mark⟩, _⟩ := other
  obtain ⟨trigger, ⟨released⟩, count, passId, stage⟩ := flight
  cases h
  cases state <;> cases released <;> exact ⟨rfl, rfl⟩

/-- At the end of a pass a guard that holds a marked gate begins the next pass. -/
theorem endPass_starts (hpending : shared.gate.pending = true) {flight : Flight}
    (hguard : flight.guard.released = false) (last : PassStatus) (error : Option String)
    (acts : List Act) :
    ∃ act ∈ (Flight.endPass shared flight last error acts).acts, act.started? ≠ none := by
  have hfinish : flight.guard.finish shared.gate =
      ⟨{ shared.gate with pending := false }, flight.guard, true, none⟩ := by
    simp [Guard.finish, hguard, hpending]
  refine ⟨.event (.started (shared.passes + 1) flight.trigger.label), ?_,
    Option.some_ne_none _⟩
  simp [Flight.endPass, hfinish, Flight.takeOff]

theorem endPass_alike (h : shared.unmarked = other.unmarked)
    (hpending : shared.gate.pending = true) {flight : Flight} {last : PassStatus}
    {error : Option String} {acts : List Act}
    (hstarted : ∀ act ∈ (Flight.endPass shared flight last error acts).acts,
      act.started? = none) :
    (Flight.endPass shared flight last error acts).Alike
      (Flight.endPass other flight last error acts) := by
  cases hguard : flight.guard.released with
  | false =>
    obtain ⟨act, hmem, hstarts⟩ := endPass_starts hpending hguard last error acts
    exact (hstarts (hstarted act hmem)).elim
  | true =>
    have hfinish : ∀ gate, flight.guard.finish gate = ⟨gate, flight.guard, false, none⟩ := by
      intro gate
      simp [Guard.finish, hguard]
    unfold Flight.endPass
    simp only [hfinish, Bool.false_eq_true, if_false]
    exact ⟨h, rfl, rfl⟩

/-- With an answer a request goes on without the gate, or its pass ends. -/
theorem resumeFlight_cases (coordinator : Coordinator) (flight : Flight) (answer : Answer) :
    (∃ state acts, ∀ shared, flight.resume coordinator shared answer = ⟨shared, state, acts⟩) ∨
      ∃ last error acts, ∀ shared,
        flight.resume coordinator shared answer = Flight.endPass shared flight last error acts := by
  cases answer with
  | pulled result =>
    cases hstage : flight.stage <;> cases result <;> simp only [Flight.resume, hstage]
    case pulling.error => exact .inr ⟨_, _, _, fun _ => rfl⟩
    all_goals exact .inl ⟨_, _, fun _ => rfl⟩
  | pushed result =>
    cases hstage : flight.stage <;> cases result <;> simp only [Flight.resume, hstage]
    case pushing.error => exact .inr ⟨_, _, _, fun _ => rfl⟩
    case pushing.ok result =>
      -- only a change with a channel at hand has the request wait once more
      simp only [Flight.afterPush]
      cases PassOutcome.ofPush result with
      | changes changes =>
        cases coordinator.hasChannel with
        | true => exact .inl ⟨_, _, fun _ => rfl⟩
        | false => exact .inr ⟨_, _, _, fun _ => rfl⟩
      | noChanges | failed => exact .inr ⟨_, _, _, fun _ => rfl⟩
    all_goals exact .inl ⟨_, _, fun _ => rfl⟩
  | replied result =>
    cases hstage : flight.stage <;> cases result <;> simp only [Flight.resume, hstage]
    case announcing.ok | announcing.error => exact .inr ⟨_, _, _, fun _ => rfl⟩
    all_goals exact .inl ⟨_, _, fun _ => rfl⟩

theorem resumeFlight_alike (h : shared.unmarked = other.unmarked)
    (hpending : shared.gate.pending = true) {flight : Flight} {answer : Answer}
    (hstarted : ∀ act ∈ (flight.resume coordinator shared answer).acts, act.started? = none) :
    (flight.resume coordinator shared answer).Alike (flight.resume coordinator other answer) := by
  rcases resumeFlight_cases coordinator flight answer with
    ⟨state, acts, hresume⟩ | ⟨last, error, acts, hresume⟩
  · rw [hresume, hresume]
    exact ⟨h, rfl, rfl⟩
  · rw [hresume] at hstarted
    rw [hresume, hresume]
    exact endPass_alike h hpending hstarted

/-! ### Tasks -/

theorem afterRequest_alike (h : shared.unmarked = other.unmarked) (outcome : RequestOutcome)
    (acts : List Act) :
    (Task.afterRequest coordinator now shared task outcome acts).Alike
      (Task.afterRequest coordinator now other task outcome acts) := by
  unfold Task.afterRequest
  cases task.errand with
  | request trigger => exact ⟨h, rfl, rfl⟩
  | change | message => cases Task.failure? outcome <;> exact ⟨h, rfl, rfl⟩
  | «loop» forever => cases task.cancelled <;> exact ⟨h, rfl, rfl⟩

theorem ofRequest_alike {step next : RequestStep} (h : step.Alike next) (acts : List Act) :
    (Task.ofRequest coordinator now task acts step).Alike
      (Task.ofRequest coordinator now task acts next) := by
  unfold Task.ofRequest
  rw [h.state, h.acts]
  cases next.state with
  | flying flight => exact ⟨h.shared, rfl, rfl⟩
  | settled outcome => exact afterRequest_alike h.shared outcome _

theorem turn_alike (h : shared.unmarked = other.unmarked) (acts : List Act) :
    (Task.turn coordinator now shared task acts).Alike
      (Task.turn coordinator now other task acts) := by
  unfold Task.turn
  split
  · exact ⟨h, rfl, rfl⟩
  · exact ofRequest_alike (request_alike h _ _) acts

theorem startWatcher_alike (h : shared.unmarked = other.unmarked) (acts : List Act) :
    (Task.startWatcher coordinator now shared task acts).Alike
      (Task.startWatcher coordinator now other task acts) := by
  unfold Task.startWatcher
  split
  · exact ⟨h, rfl, rfl⟩
  · exact turn_alike h _

theorem start_alike (h : shared.unmarked = other.unmarked) (errand : Errand) (cancelled : Bool) :
    (Task.start coordinator now shared errand cancelled).Alike
      (Task.start coordinator now other errand cancelled) := by
  unfold Task.start
  cases errand with
  | request | change | message => exact ofRequest_alike (request_alike h _ _) _
  | «loop» forever =>
    simp only
    split
    · exact ⟨h, rfl, rfl⟩
    · exact startWatcher_alike h _

theorem abandon_alike (h : shared.unmarked = other.unmarked) (task : Task) (ending : Ending) :
    (task.abandon shared ending).Alike (task.abandon other ending) := by
  unfold Task.abandon
  split
  · exact ⟨h, rfl, rfl⟩
  · rename_i flight hstage
    obtain ⟨hshared, hacts⟩ := abandonFlight_alike h flight
    refine ⟨hshared, rfl, ?_⟩
    simp only [Task.finish, hacts]
  · exact ⟨h, rfl, rfl⟩

theorem cancel_alike (h : shared.unmarked = other.unmarked) (task : Task) :
    (task.cancel shared).Alike (task.cancel other) := by
  unfold Task.cancel
  split <;> exact ⟨h, rfl, rfl⟩

theorem wake_alike (h : shared.unmarked = other.unmarked) (task : Task) :
    (task.wake coordinator now shared).Alike (task.wake coordinator now other) := by
  unfold Task.wake
  split
  · split
    · exact turn_alike h []
    · exact ⟨h, rfl, rfl⟩
  · exact ⟨h, rfl, rfl⟩

theorem started_of_ofRequest {step : RequestStep} {act : Act} (h : act ∈ step.acts) :
    act ∈ (Task.ofRequest coordinator now task [] step).acts := by
  unfold Task.ofRequest
  split
  · exact h
  · rw [afterRequest_acts]
    exact List.mem_append_left _ h

/-- An answer after which no pass begins is taken alike although the gate is marked. -/
theorem resume_alike (h : shared.unmarked = other.unmarked)
    (hpending : shared.gate.pending = true) {answer : Answer}
    (hstarted : ∀ act ∈ (task.resume coordinator now shared answer).acts, act.started? = none) :
    (task.resume coordinator now shared answer).Alike
      (task.resume coordinator now other answer) := by
  unfold Task.resume at hstarted ⊢
  cases hstage : task.stage with
  | flying flight =>
    simp only [hstage] at hstarted ⊢
    refine ofRequest_alike (resumeFlight_alike h hpending fun act hmem => ?_) []
    exact hstarted act (started_of_ofRequest hmem)
  | subscribing =>
    cases answer with
    | replied result => exact startWatcher_alike h _
    | pulled | pushed => exact ⟨h, rfl, rfl⟩
  | watching =>
    cases answer with
    | replied result => exact turn_alike h _
    | pulled | pushed => exact ⟨h, rfl, rfl⟩
  | ready | sleeping | «over» => exact ⟨h, rfl, rfl⟩

end Stretches

end ReplicaSync
