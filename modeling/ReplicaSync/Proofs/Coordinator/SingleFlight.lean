import ReplicaSync.Proofs.Coordinator.Course
import ReplicaSync.Proofs.Coordinator.History

/-!
# One flight at a time

Whatever the order in which tasks move, are answered, panic or are dropped: at most one of them
owns the gate, the calls of the pipeline come pass by pass, and a request is refused if and only
if another task owns the gate in the very move in which it is made. Main statement:
`single_flight`.
-/

namespace ReplicaSync

/-! ### Owners -/

theorem World.Shows.owns_unique {world : World} {airspace : Airspace} (h : world.Shows airspace)
    {a b : Nat} (ha : world.Owns a) (hb : world.Owns b) : a = b := by
  obtain ⟨owner, hairspace, rfl⟩ := (h.owns_iff a).mp ha
  obtain ⟨other, hother, rfl⟩ := (h.owns_iff b).mp hb
  rw [hairspace] at hother
  cases hother
  rfl

theorem World.Shows.running_iff {world : World} {airspace : Airspace} (h : world.Shows airspace) :
    world.shared.gate.state = .running ↔ ∃ owner, world.Owns owner := by
  rw [h.shared]
  cases airspace with
  | clear passes =>
    constructor
    · intro hrunning
      cases hrunning
    · rintro ⟨number, hnumber⟩
      obtain ⟨owner, hairspace, _⟩ := (h.owns_iff number).mp hnumber
      cases hairspace
  | taken owner =>
    constructor
    · intro _
      exact ⟨owner.number, (h.owns_iff owner.number).mpr ⟨owner, rfl, rfl⟩⟩
    · intro _
      rfl

/-! ### Calls of a pass -/

/-- The pass whose pull goes well in this move. -/
def World.pulledBy (world : World) : Move → List Nat
  | .answer number (.pulled (.ok _)) =>
    match world.flight? number with
    | some flight => if flight.stage = .pulling then [flight.passId] else []
    | none => []
  | _ => []

/-- The passes whose pull goes well in a run. -/
def World.pulledPasses (world : World) : List Move → List Nat
  | [] => []
  | move :: rest => world.pulledBy move ++ (world.step move).1.pulledPasses rest

/-- The calls of a pass: the push comes if the pull went well. -/
def callsOfPass (pulled : List Nat) (passId : Nat) : List Call :=
  if passId ∈ pulled then [.pull, .push] else [.pull]

theorem World.pulledPasses_snoc (world : World) (moves : List Move) (move : Move) :
    world.pulledPasses (moves ++ [move]) =
      world.pulledPasses moves ++ (world.run moves).1.pulledBy move := by
  induction moves generalizing world with
  | nil => simp [World.pulledPasses, World.run]
  | cons first rest ih => simp [World.pulledPasses, World.run, ih]

/-- The pass whose pull goes well with this answer. -/
def Airspace.pulledBy : Airspace → Option Answer → List Nat
  | .taken owner, some (.pulled (.ok _)) =>
    if owner.stage = .pulling then [owner.passId] else []
  | _, _ => []

theorem World.Shows.pulledBy_eq {world : World} {airspace : Airspace} (h : world.Shows airspace)
    (move : Move) : world.pulledBy move = airspace.pulledBy (airspace.hears move) := by
  unfold World.pulledBy
  split
  · rename_i number result
    rw [h.flight? number]
    cases airspace with
    | clear passes => rfl
    | taken owner =>
      by_cases hnumber : owner.number = number
      · simp [Airspace.flight?, Airspace.hears, Airspace.heard, Airspace.pulledBy, hnumber,
          Owner.flight]
      · simp [Airspace.flight?, Airspace.hears, Airspace.heard, Airspace.pulledBy, hnumber]
  · rename_i hmove
    unfold Airspace.pulledBy
    split
    · rename_i owner result hheard
      cases move with
      | answer number answer =>
        simp only [Airspace.hears, Airspace.heard] at hheard
        split at hheard
        · cases hheard
          exact (hmove number result rfl).elim
        · cases hheard
      | _ => cases hheard
    · rfl

theorem flatMap_callsOfPass {pulled ids : List Nat} {passId : Nat} (h : passId ∉ ids) :
    ids.flatMap (callsOfPass (pulled ++ [passId])) = ids.flatMap (callsOfPass pulled) := by
  induction ids with
  | nil => rfl
  | cons first rest ih =>
    rw [List.mem_cons, not_or] at h
    have hfirst : callsOfPass (pulled ++ [passId]) first = callsOfPass pulled first := by
      simp [callsOfPass, Ne.symm h.1]
    rw [List.flatMap_cons, List.flatMap_cons, hfirst, ih h.2]

/-- The passes begun and the calls made so far, given the passes whose pull went well. -/
structure CallsTell (pulled : List Nat) (notes : List Note) (airspace : Airspace) : Prop where
  started : startedPasses notes = List.range' 1 airspace.passes
  calls : pipelineCalls notes = (List.range' 1 airspace.passes).flatMap (callsOfPass pulled)
  bound : ∀ passId ∈ pulled, passId ≤ airspace.passes
  positive : ∀ owner, airspace = .taken owner → 0 < owner.passId
  unpulled : ∀ owner, airspace = .taken owner → owner.stage = .pulling → owner.passId ∉ pulled

namespace CallsTell

variable {coordinator : Coordinator} {pulled : List Nat} {notes : List Note}

theorem new : CallsTell [] [] (.clear 0) where
  started := rfl
  calls := rfl
  bound := fun _ hmem => nomatch hmem
  positive := fun _ hother => nomatch hother
  unpulled := fun _ hother => nomatch hother

theorem quiet {before after : Airspace} {acts : List Act} {time number : Nat}
    (h : CallsTell pulled notes before) (hstarted : acts.filterMap Act.started? = [])
    (hphase : acts.filterMap Act.phase? = []) (hpasses : after.passes = before.passes)
    (hpositive : ∀ owner, after = .taken owner → 0 < owner.passId)
    (hunpulled : ∀ owner, after = .taken owner → owner.stage = .pulling →
      owner.passId ∉ pulled) :
    CallsTell pulled (notes ++ Note.ofActs time number acts) after where
  started := by rw [startedPasses_append, hstarted, List.append_nil, hpasses, h.started]
  calls := by rw [pipelineCalls_append, hphase, List.append_nil, hpasses, h.calls]
  bound := hpasses ▸ h.bound
  positive := hpositive
  unpulled := hunpulled

theorem nextPass {before : Airspace} {owner : Owner} {acts : List Act} {time number : Nat}
    (h : CallsTell pulled notes before) (hpassId : owner.passId = before.passes + 1)
    (hstarted : acts.filterMap Act.started? = [owner.passId])
    (hphase : acts.filterMap Act.phase? = [.pull]) :
    CallsTell pulled (notes ++ Note.ofActs time number acts) (.taken owner) := by
  have hnew : owner.passId ∉ pulled := by
    intro hmem
    have hle := h.bound _ hmem
    omega
  have hcalls : callsOfPass pulled owner.passId = [.pull] := if_neg hnew
  have hrange : List.range' 1 owner.passId = List.range' 1 before.passes ++ [owner.passId] := by
    rw [hpassId, List.range'_1_concat, Nat.add_comm 1]
  constructor
  · rw [startedPasses_append, hstarted, h.started]
    exact hrange.symm
  · rw [pipelineCalls_append, hphase, h.calls]
    simp only [Airspace.passes, hrange, List.flatMap_append, List.flatMap_singleton, hcalls]
  · intro passId hmem
    have hle := h.bound passId hmem
    simp only [Airspace.passes]
    omega
  · intro other hother
    cases hother
    omega
  · intro other hother _
    cases hother
    exact hnew

theorem pulledOk {owner : Owner} {time number : Nat}
    (h : CallsTell pulled notes (.taken owner)) (hstage : owner.stage = .pulling) :
    CallsTell (pulled ++ [owner.passId]) (notes ++ Note.ofActs time number [.call .push])
      (.taken { owner with stage := .pushing }) := by
  have hpositive := h.positive owner rfl
  have hunpulled := h.unpulled owner rfl hstage
  have hrange : List.range' 1 owner.passId =
      List.range' 1 (owner.passId - 1) ++ [owner.passId] := by
    have hconcat : List.range' 1 (owner.passId - 1 + 1) =
        List.range' 1 (owner.passId - 1) ++ [1 + (owner.passId - 1)] := List.range'_1_concat
    rw [Nat.sub_add_cancel hpositive, Nat.add_sub_cancel' hpositive] at hconcat
    exact hconcat
  have hearlier : owner.passId ∉ List.range' 1 (owner.passId - 1) := by
    rw [List.mem_range'_1]
    omega
  have hbefore : callsOfPass pulled owner.passId = [.pull] := if_neg hunpulled
  have hnow : callsOfPass (pulled ++ [owner.passId]) owner.passId = [.pull, .push] :=
    if_pos (by simp)
  constructor
  · rw [startedPasses_append, h.started]
    exact List.append_nil _
  · rw [pipelineCalls_append, h.calls]
    simp only [Airspace.passes, hrange, List.flatMap_append, List.flatMap_singleton,
      flatMap_callsOfPass hearlier, hbefore, hnow]
    simp [Act.phase?]
  · intro passId hmem
    rcases List.mem_append.mp hmem with hold | hnew
    · exact h.bound passId hold
    · exact Nat.le_of_eq (List.mem_singleton.mp hnew)
  · intro other hother
    cases hother
    exact hpositive
  · intro other hother hpulling
    cases hother
    cases hpulling

/-- The answer that ends a pass is not a pull that went well. -/
theorem pulledBy_verdict {owner : Owner} {answer : Answer} {events : List SyncEvent}
    {last : PassStatus} {error : Option String}
    (h : Verdict coordinator owner.passId owner.stage answer events last error) :
    (Airspace.taken owner).pulledBy (some answer) = [] := by
  generalize hstage : owner.stage = stage at h
  unfold Airspace.pulledBy
  cases h <;> rfl

theorem leg {before after : Airspace} {heard : Option Answer} {number : Nat} {acts : List Act}
    (h : CallsTell pulled notes before) (hleg : Leg coordinator before heard number acts after)
    (time : Nat) :
    CallsTell (pulled ++ before.pulledBy heard) (notes ++ Note.ofActs time number acts) after := by
  have hnone : before.pulledBy none = [] := by
    cases before <;> rfl
  cases hleg with
  | quiet _ _ _ hheard =>
    have hpulled : before.pulledBy heard = [] := by
      unfold Airspace.pulledBy
      split
      · rename_i owner result
        have hawaits := hheard owner rfl _ rfl
        rw [if_neg]
        intro hstage
        rw [hstage] at hawaits
        cases hawaits
      · rfl
    rw [hpulled, List.append_nil]
    exact h.quiet rfl rfl rfl h.positive h.unpulled
  | leave _ _ ending hloss hground =>
    rw [hnone, List.append_nil]
    exact h.quiet rfl rfl rfl h.positive h.unpulled
  | enter passes _ trigger =>
    rw [hnone, List.append_nil]
    exact h.nextPass rfl rfl rfl
  | refuse owner _ trigger hother =>
    rw [hnone, List.append_nil]
    refine h.quiet ?_ rfl rfl ?_ ?_
    · cases coordinator.config.policy <;> rfl
    · intro other hother
      cases hother
      exact h.positive owner rfl
    · intro other hother
      cases hother
      exact h.unpulled owner rfl
  | pulled owner result hstage =>
    have hpulled : (Airspace.taken owner).pulledBy (some (.pulled (.ok result))) =
        [owner.passId] := if_pos hstage
    rw [hpulled]
    exact h.pulledOk hstage
  | uploaded owner result hstage huploaded hchannel =>
    have hpulled : (Airspace.taken owner).pulledBy (some (.pushed (.ok result))) = [] := rfl
    rw [hpulled, List.append_nil]
    refine h.quiet rfl rfl rfl ?_ ?_
    · intro other hother
      cases hother
      exact h.positive owner rfl
    · intro other hother hpulling
      cases hother
      cases hpulling
  | followUp owner answer events last error hpending hverdict =>
    rw [pulledBy_verdict hverdict, List.append_nil]
    refine h.nextPass rfl ?_ ?_
    · rw [List.filterMap_append, List.filterMap_eq_nil_iff.mpr hverdict.started?_eq_none]
      rfl
    · rw [List.filterMap_append, filterMap_phase?_events]
      rfl
  | land owner answer events last error hpending hverdict =>
    rw [pulledBy_verdict hverdict, List.append_nil]
    refine h.quiet ?_ ?_ rfl (fun _ hother => nomatch hother) (fun _ hother => nomatch hother)
    · rw [List.filterMap_append, List.filterMap_eq_nil_iff.mpr hverdict.started?_eq_none]
      rfl
    · rw [List.filterMap_append, filterMap_phase?_events]
      rfl
  | abandon owner ending hloss =>
    rw [hnone, List.append_nil]
    exact h.quiet rfl rfl rfl (fun _ hother => nomatch hother) (fun _ hother => nomatch hother)

end CallsTell

theorem World.callsTell (coordinator : Coordinator) (resolve : Option (Path → Option Path))
    (bus : EventBus) (moves : List Move) :
    let start := World.new coordinator resolve bus
    ∃ airspace, (start.run moves).1.Shows airspace ∧
      CallsTell (start.pulledPasses moves) (Note.signals (start.run moves).2) airspace := by
  intro start
  refine World.course_induction coordinator resolve bus
    (P := fun moves notes airspace => CallsTell (start.pulledPasses moves) notes airspace)
    CallsTell.new ?_ moves
  intro moves move notes airspace time number acts after hshows hleg htell
  rw [World.pulledPasses_snoc, hshows.pulledBy_eq]
  exact htell.leg hleg time

/-! ### Requests -/

/-- How a move treats requests. -/
structure World.TreatsRequests (world : World) (move : Move) : Prop where
  /-- A request that finds no owner is let in: its task owns the gate and has called the pull. -/
  letsIn : ∀ time number trigger, ⟨time, some number, .request trigger⟩ ∈ (world.step move).2 →
    (∀ owner, ¬ world.Owns owner) →
    (world.step move).1.Owns number ∧
      ⟨time, some number, .call .pull⟩ ∈ (world.step move).2 ∧
      ∀ outcome, ⟨time, some number, .settle outcome⟩ ∉ (world.step move).2
  /-- A request that finds an owner is answered in the same move, and the owner stays. -/
  refuses : ∀ time number trigger, ⟨time, some number, .request trigger⟩ ∈ (world.step move).2 →
    ∀ owner, world.Owns owner →
    owner ≠ number ∧ (world.step move).1.Owns owner ∧ ¬ (world.step move).1.Owns number ∧
      ⟨time, some number, .settle world.coordinator.config.policy.refused⟩ ∈ (world.step move).2
  /-- A refusal answers a request of the same move that found another owner. -/
  answers : ∀ time number outcome, outcome = .dropped ∨ outcome = .deferred →
    ⟨time, some number, .settle outcome⟩ ∈ (world.step move).2 →
    (∃ trigger, ⟨time, some number, .request trigger⟩ ∈ (world.step move).2) ∧
      ∃ owner, owner ≠ number ∧ world.Owns owner

theorem World.Shows.treatsRequests {world : World} {airspace : Airspace}
    (h : world.Shows airspace) (move : Move) : world.TreatsRequests move := by
  obtain ⟨mover, acts, after, hleg, hnotes, hafter⟩ := World.step_leg h move
  have hmem : ∀ {time number : Nat} {act : Act}, act.isSignal = true →
      (⟨time, some number, act⟩ ∈ (world.step move).2 ↔
        time = world.now ∧ number = mover ∧ act ∈ acts) := by
    intro time number act hsignal
    rw [← Note.mem_signals hsignal, hnotes, Note.mem_ofActs]
  constructor
  · intro time number trigger hrequest hfree
    obtain ⟨rfl, rfl, hact⟩ := (hmem rfl).mp hrequest
    rcases hleg.of_request hact with ⟨passes, _, rfl, rfl⟩ | ⟨owner, rfl, _⟩
    · refine ⟨(hafter.owns_iff number).mpr ⟨_, rfl, rfl⟩, (hmem rfl).mpr ⟨rfl, rfl, ?_⟩, ?_⟩
      · simp
      · intro outcome hsettle
        simpa using ((hmem rfl).mp hsettle).2.2
    · exact (hfree owner.number ((h.owns_iff owner.number).mpr ⟨owner, rfl, rfl⟩)).elim
  · intro time number trigger hrequest other hother
    obtain ⟨rfl, rfl, hact⟩ := (hmem rfl).mp hrequest
    obtain ⟨owner, howner, rfl⟩ := (h.owns_iff other).mp hother
    rcases hleg.of_request hact with ⟨passes, rfl, _⟩ | ⟨_, hbefore, hne, rfl, rfl⟩
    · cases howner
    · rw [howner] at hbefore
      cases hbefore
      refine ⟨hne.symm, (hafter.owns_iff _).mpr ⟨_, rfl, rfl⟩, ?_, (hmem rfl).mpr ⟨rfl, rfl, ?_⟩⟩
      · intro howns
        obtain ⟨_, hlast, hnumber⟩ := (hafter.owns_iff number).mp howns
        cases hlast
        exact hne hnumber.symm
      · simp
  · intro time number outcome hrefused hsettle
    obtain ⟨rfl, rfl, hact⟩ := (hmem rfl).mp hsettle
    obtain ⟨owner, trigger, rfl, hne, _, rfl, _⟩ := hleg.of_refused hrefused hact
    refine ⟨⟨trigger, (hmem rfl).mpr ⟨rfl, rfl, ?_⟩⟩, owner.number, hne.symm, ?_⟩
    · simp
    · exact (h.owns_iff owner.number).mpr ⟨owner, rfl, rfl⟩

/-- In every run at most one task owns the gate, and the gate is closed exactly while one does;
the calls of the pipeline are those of the passes one after the other, with a push after the pull
if and only if the pull went well; and a request is refused, in the move in which it is made, if
and only if another task owns the gate. -/
theorem single_flight (coordinator : Coordinator) (resolve : Option (Path → Option Path))
    (bus : EventBus) (moves : List Move) :
    let start := World.new coordinator resolve bus
    let world := (start.run moves).1
    let notes := (start.run moves).2
    (∀ a b, world.Owns a → world.Owns b → a = b) ∧
      (world.shared.gate.state = .running ↔ ∃ owner, world.Owns owner) ∧
      pipelineCalls notes =
        (startedPasses notes).flatMap (callsOfPass (start.pulledPasses moves)) ∧
      (startedPasses notes).Nodup ∧
      ∀ move, world.TreatsRequests move := by
  intro start world notes
  obtain ⟨airspace, hshows, htell⟩ := World.callsTell coordinator resolve bus moves
  -- the account speaks of signals, which have the passes and the calls of all notes
  have hstarted := htell.started
  have hcalls := htell.calls
  rw [startedPasses_signals] at hstarted
  rw [pipelineCalls_signals, ← hstarted] at hcalls
  refine ⟨fun _ _ => hshows.owns_unique, hshows.running_iff, hcalls, ?_, hshows.treatsRequests⟩
  rw [hstarted]
  exact List.nodup_range'

end ReplicaSync
