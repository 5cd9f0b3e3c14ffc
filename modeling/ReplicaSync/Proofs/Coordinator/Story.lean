import ReplicaSync.Proofs.Coordinator.Course
import ReplicaSync.Proofs.Coordinator.Pages

/-!
# The story of a pass

What a pass does is settled by the answers that it hears: it calls the pull, after a pull that went
well the push, after a push that uploaded something the announcement, and with the last answer it
tells how it ended. Main statement: `World.stories_run`, that every page of the log book is such a
story and that nothing of a pass happens outside its page.
-/

namespace ReplicaSync

/-! ### What passes do and hear -/

/-- The act belongs to a pass: a call that serves it, or an event about it. -/
def Act.ofPass : Act → Bool
  | .call .pull | .call .push | .call (.announce _ _) => true
  | .publish (.sync event) => event.ofPass
  | _ => false

/-- The calls that serve passes and the events about passes, whoever made them. -/
def passDeeds (notes : List Note) : List Act := (notes.map Note.act).filter Act.ofPass

def PassLog.deeds (page : PassLog) : List Act := passDeeds page.notes

/-- The answer that a pass hears in a move, with the number of the pass. -/
def World.answeredBy (world : World) : Move → List (Nat × Answer)
  | .answer number answer =>
    match world.flight? number with
    | some flight => if flight.stage.awaits answer then [(flight.passId, answer)] else []
    | none => []
  | _ => []

/-- The answers that passes hear in a run, in their order. -/
def World.answered (world : World) : List Move → List (Nat × Answer)
  | [] => []
  | move :: rest => world.answeredBy move ++ (world.step move).1.answered rest

/-- The answers that one pass heard. -/
def answersOf (passId : Nat) (answered : List (Nat × Answer)) : List Answer :=
  (answered.filter (·.1 = passId)).map Prod.snd

section Lists

variable {passId : Nat}

theorem passDeeds_append (a b : List Note) : passDeeds (a ++ b) = passDeeds a ++ passDeeds b := by
  simp [passDeeds]

theorem passDeeds_ofActs (time number : Nat) (acts : List Act) :
    passDeeds (Note.ofActs time number acts) = acts.filter Act.ofPass := by
  have hacts : (Note.ofActs time number acts).map Note.act = acts := by
    simp [Note.ofActs, Function.comp_def]
  rw [passDeeds, hacts]

theorem passDeeds_signals (notes : List Note) :
    passDeeds (Note.signals notes) = passDeeds notes := by
  have hsignal : ∀ act : Act, act.ofPass = true → act.isSignal = true := by
    intro act hact
    unfold Act.ofPass at hact
    split at hact <;> first | rfl | cases hact
  unfold passDeeds Note.signals
  rw [List.filter_map, List.filter_map, List.filter_filter]
  congr 1
  refine List.filter_congr fun note _ => ?_
  cases hdeed : note.act.ofPass with
  | true => simp [hdeed, hsignal note.act hdeed]
  | false => simp [hdeed]

theorem PassLog.deeds_write (page : PassLog) (notes : List Note) :
    (page.write notes).deeds = page.deeds ++ passDeeds notes :=
  passDeeds_append page.notes notes

theorem answersOf_append (a b : List (Nat × Answer)) :
    answersOf passId (a ++ b) = answersOf passId a ++ answersOf passId b := by
  simp [answersOf]

theorem answersOf_own (heard : List Answer) :
    answersOf passId (heard.map (Prod.mk passId)) = heard := by
  induction heard with
  | nil => rfl
  | cons answer rest ih => simpa [answersOf] using ih

theorem answersOf_eq_nil {answered : List (Nat × Answer)}
    (h : ∀ entry ∈ answered, entry.1 ≠ passId) : answersOf passId answered = [] := by
  rw [answersOf, List.map_eq_nil_iff, List.filter_eq_nil_iff]
  intro entry hmem
  simpa using h entry hmem

end Lists

theorem World.answered_snoc (world : World) (moves : List Move) (move : Move) :
    world.answered (moves ++ [move]) =
      world.answered moves ++ (world.run moves).1.answeredBy move := by
  induction moves generalizing world with
  | nil => simp [World.answered, World.run]
  | cons first rest ih => simp [World.answered, World.run, ih]

/-- The pass of the owner of the gate hears the answer, if it waits for one like it. -/
def Airspace.answeredBy : Airspace → Option Answer → List (Nat × Answer)
  | .taken owner, some answer =>
    if owner.stage.awaits answer then [(owner.passId, answer)] else []
  | _, _ => []

/-- An answer that the pass does not wait for is not heard by it. -/
theorem Airspace.answeredBy_unheard {airspace : Airspace} {heard : Option Answer}
    (h : ∀ owner, airspace.owner? = some owner →
      ∀ answer, heard = some answer → owner.stage.awaits answer = false) :
    airspace.answeredBy heard = [] := by
  cases airspace with
  | clear passes => rfl
  | taken owner =>
    cases heard with
    | none => rfl
    | some answer => simp [Airspace.answeredBy, h owner rfl answer rfl]

theorem World.Shows.answeredBy_eq {world : World} {airspace : Airspace} (h : world.Shows airspace)
    (move : Move) : world.answeredBy move = airspace.answeredBy (airspace.hears move) := by
  cases move with
  | answer number answer =>
    simp only [World.answeredBy, h.flight? number, Airspace.hears, Airspace.heard]
    cases airspace with
    | clear passes => rfl
    | taken owner =>
      by_cases hnumber : owner.number = number
      · simp [Airspace.flight?, hnumber, Airspace.answeredBy, Owner.flight]
      · simp [Airspace.flight?, hnumber, Airspace.answeredBy]
  | _ => cases airspace <;> rfl

/-! ### Stories -/

/-- What a pass that waits at this stage heard and did. -/
inductive Reaches (coordinator : Coordinator) (passId : Nat) :
    FlightStage → List Answer → List Act → Prop where
  | pulling : Reaches coordinator passId .pulling [] [.call .pull]
  | pushing (pull : PullResult) :
    Reaches coordinator passId .pushing [.pulled (.ok pull)] [.call .pull, .call .push]
  | announcing (pull : PullResult) (push : PushResult) (huploaded : push.uploaded = true)
      (hchannel : coordinator.hasChannel = true) :
    Reaches coordinator passId .announcing [.pulled (.ok pull), .pushed (.ok push)]
      [.call .pull, .call .push, .event (.completed passId true 0),
        .call (.announce coordinator.config.channelKey Flight.changeMarker)]

/-- What a pass heard and did, if it waits or was given up where it waited, and if it ended. -/
inductive PassStory (coordinator : Coordinator) (passId : Nat) : List Answer → List Act → Prop where
  | waits (stage : FlightStage) (answers : List Answer) (deeds : List Act)
      (h : Reaches coordinator passId stage answers deeds) :
    PassStory coordinator passId answers deeds
  | ended (stage : FlightStage) (answers : List Answer) (deeds : List Act) (answer : Answer)
      (events : List SyncEvent) (last : PassStatus) (error : Option String)
      (h : Reaches coordinator passId stage answers deeds)
      (hverdict : Verdict coordinator passId stage answer events last error) :
    PassStory coordinator passId (answers ++ [answer]) (deeds ++ events.map Act.event)

theorem Verdict.awaits {coordinator : Coordinator} {passId : Nat} {stage : FlightStage}
    {answer : Answer} {events : List SyncEvent} {last : PassStatus} {error : Option String}
    (h : Verdict coordinator passId stage answer events last error) :
    stage.awaits answer = true := by
  cases h <;> rfl

theorem Verdict.filter_ofPass {coordinator : Coordinator} {passId : Nat} {stage : FlightStage}
    {answer : Answer} {events : List SyncEvent} {last : PassStatus} {error : Option String}
    (h : Verdict coordinator passId stage answer events last error) :
    (events.map Act.event).filter Act.ofPass = events.map Act.event := by
  rcases h.events_eq with rfl | ⟨event, rfl, hevent⟩
  · rfl
  · simp [Act.ofPass, hevent]

/-! ### Stories in the log book -/

/-- The page is a story of its pass. -/
def PassLog.Tells (coordinator : Coordinator) (answered : List (Nat × Answer)) (page : PassLog) :
    Prop :=
  PassStory coordinator page.number (answersOf page.number answered) page.deeds

/-- Each page of the book is the story of its pass, and the pages have all that passes did. -/
structure Recounts (coordinator : Coordinator) (answered : List (Nat × Answer))
    (notes : List Note) (airspace : Airspace) : Prop where
  heard : ∀ entry ∈ answered, entry.1 ≤ airspace.passes
  deeds : passDeeds notes = (logBook notes).reverse.flatMap PassLog.deeds
  clear : ∀ passes, airspace = .clear passes →
    ∀ page ∈ logBook notes, page.number ≤ passes ∧ page.Tells coordinator answered
  taken : ∀ owner, airspace = .taken owner → ∃ page older, logBook notes = page :: older ∧
    page.number = owner.passId ∧
    Reaches coordinator owner.passId owner.stage (answersOf owner.passId answered) page.deeds ∧
    ∀ earlier ∈ older, earlier.number < owner.passId ∧ earlier.Tells coordinator answered

section Books

variable {coordinator : Coordinator} {answered : List (Nat × Answer)} {notes : List Note}
variable {time number : Nat} {acts : List Act}

/-- What another pass hears does not matter. -/
theorem PassLog.Tells.later {page : PassLog} (h : page.Tells coordinator answered) {other : Nat}
    (hother : other ≠ page.number) (heard : List Answer) :
    page.Tells coordinator (answered ++ heard.map (Prod.mk other)) := by
  have hnone : answersOf page.number (heard.map (Prod.mk other)) = [] := by
    refine answersOf_eq_nil fun entry hmem => ?_
    obtain ⟨answer, _, rfl⟩ := List.mem_map.mp hmem
    exact hother
  unfold PassLog.Tells
  rw [answersOf_append, hnone, List.append_nil]
  exact h

theorem deeds_extend (book : List PassLog) (notes : List Note)
    (h : book = [] → passDeeds notes = []) :
    (PassLog.extend book notes).reverse.flatMap PassLog.deeds =
      book.reverse.flatMap PassLog.deeds ++ passDeeds notes := by
  cases book with
  | nil => simp [PassLog.extend, h]
  | cons page older =>
    simp only [PassLog.extend, List.reverse_cons, List.flatMap_append, List.flatMap_singleton,
      PassLog.deeds_write, List.append_assoc]

/-- A page on which nothing of a pass was written tells what it told before. -/
theorem tells_extend {book : List PassLog} (hnotes : passDeeds notes = []) {bound : Nat}
    (h : ∀ page ∈ book, page.number ≤ bound ∧ page.Tells coordinator answered) :
    ∀ page ∈ PassLog.extend book notes, page.number ≤ bound ∧
      page.Tells coordinator answered := by
  cases book with
  | nil => exact h
  | cons first older =>
    rw [List.forall_mem_cons] at h
    refine List.forall_mem_cons.mpr ⟨⟨h.1.1, ?_⟩, h.2⟩
    unfold PassLog.Tells
    rw [PassLog.deeds_write, hnotes, List.append_nil]
    exact h.1.2

theorem Recounts.new (coordinator : Coordinator) : Recounts coordinator [] [] (.clear 0) where
  heard := by simp
  deeds := rfl
  clear := fun _ _ => List.forall_mem_nil _
  taken := by simp

/-- While nobody owns the gate nothing of a pass happens. -/
theorem Recounts.idle {passes : Nat} (h : Recounts coordinator answered notes (.clear passes))
    (hsignals : signals acts = acts) (hacts : acts.filter Act.ofPass = [])
    (hstarted : ∀ act ∈ acts, act.started? = none) :
    Recounts coordinator answered (notes ++ Note.ofActs time number acts) (.clear passes) := by
  have hdeeds : passDeeds (Note.ofActs time number acts) = [] := by
    rw [passDeeds_ofActs, hacts]
  have hbook : logBook (notes ++ Note.ofActs time number acts) =
      PassLog.extend (logBook notes) (Note.ofActs time number acts) := by
    rw [logBook_ofActs hsignals, foldl_stay hstarted]
  refine ⟨h.heard, ?_, ?_, by simp⟩
  · rw [passDeeds_append, h.deeds, hbook, deeds_extend _ _ fun _ => hdeeds]
  · rintro _ ⟨⟩
    rw [hbook]
    exact tells_extend hdeeds (h.clear passes rfl)

theorem Recounts.book_ne_nil {owner : Owner}
    (h : Recounts coordinator answered notes (.taken owner)) : logBook notes ≠ [] := by
  obtain ⟨page, older, hbook, _⟩ := h.taken owner rfl
  exact hbook ▸ List.cons_ne_nil page older

theorem Recounts.heard_more {owner : Owner}
    (h : Recounts coordinator answered notes (.taken owner)) (heard : List Answer) :
    ∀ entry ∈ answered ++ heard.map (Prod.mk owner.passId), entry.1 ≤ owner.passId := by
  intro entry hmem
  rcases List.mem_append.mp hmem with hold | hnew
  · exact h.heard entry hold
  · obtain ⟨answer, _, rfl⟩ := List.mem_map.mp hnew
    exact Nat.le_refl _

/-- The running pass goes on, with an answer or without one. -/
theorem Recounts.goesOn {owner next : Owner} {heard : List Answer}
    (h : Recounts coordinator answered notes (.taken owner)) (hpass : next.passId = owner.passId)
    (hsignals : signals acts = acts) (hstarted : ∀ act ∈ acts, act.started? = none)
    (hreaches : ∀ answers deeds, Reaches coordinator owner.passId owner.stage answers deeds →
      Reaches coordinator owner.passId next.stage (answers ++ heard)
        (deeds ++ acts.filter Act.ofPass)) :
    Recounts coordinator (answered ++ heard.map (Prod.mk owner.passId))
      (notes ++ Note.ofActs time number acts) (.taken next) := by
  obtain ⟨page, older, hbook, hnumber, hpage, holder⟩ := h.taken owner rfl
  have hnew : logBook (notes ++ Note.ofActs time number acts) =
      page.write (Note.ofActs time number acts) :: older := by
    rw [logBook_ofActs hsignals, foldl_stay hstarted, hbook]
    rfl
  refine ⟨?_, ?_, by simp, ?_⟩
  · rw [Airspace.passes, hpass]
    exact h.heard_more heard
  · rw [passDeeds_append, h.deeds, hnew, hbook]
    exact (deeds_extend (page :: older) _ (absurd · (List.cons_ne_nil page older))).symm
  · rintro _ ⟨⟩
    refine ⟨_, older, hnew, hnumber.trans hpass.symm, ?_, ?_⟩
    · rw [hpass, answersOf_append, answersOf_own, PassLog.deeds_write, passDeeds_ofActs]
      exact hreaches _ _ hpage
    · intro earlier hearlier
      obtain ⟨hlt, htells⟩ := holder earlier hearlier
      exact ⟨hpass ▸ hlt, htells.later (Nat.ne_of_gt hlt) heard⟩

/-- The running pass goes on while something else happens. -/
theorem Recounts.silent {owner next : Owner}
    (h : Recounts coordinator answered notes (.taken owner)) (hpass : next.passId = owner.passId)
    (hstage : next.stage = owner.stage) (hsignals : signals acts = acts)
    (hstarted : ∀ act ∈ acts, act.started? = none) (hacts : acts.filter Act.ofPass = []) :
    Recounts coordinator answered (notes ++ Note.ofActs time number acts) (.taken next) := by
  have hgoes : Recounts coordinator (answered ++ [].map (Prod.mk owner.passId))
      (notes ++ Note.ofActs time number acts) (.taken next) := by
    refine h.goesOn hpass hsignals hstarted fun answers deeds hreaches => ?_
    rw [hacts, hstage, List.append_nil, List.append_nil]
    exact hreaches
  rw [List.map_nil, List.append_nil] at hgoes
  exact hgoes

/-- The running pass ends or is given up; its page is a whole story then. -/
theorem Recounts.closes {owner : Owner} {heard : List Answer}
    (h : Recounts coordinator answered notes (.taken owner))
    (hstory : ∀ answers deeds, Reaches coordinator owner.passId owner.stage answers deeds →
      PassStory coordinator owner.passId (answers ++ heard) (deeds ++ acts.filter Act.ofPass)) :
    ∀ page ∈ PassLog.extend (logBook notes) (Note.ofActs time number acts),
      page.number ≤ owner.passId ∧
        page.Tells coordinator (answered ++ heard.map (Prod.mk owner.passId)) := by
  obtain ⟨page, older, hbook, hnumber, hpage, holder⟩ := h.taken owner rfl
  rw [hbook]
  refine List.forall_mem_cons.mpr ⟨⟨Nat.le_of_eq hnumber, ?_⟩, fun earlier hearlier => ?_⟩
  · show PassStory coordinator page.number (answersOf page.number _) (page.write _).deeds
    rw [hnumber, answersOf_append, answersOf_own, PassLog.deeds_write, passDeeds_ofActs]
    exact hstory _ _ hpage
  · obtain ⟨hlt, htells⟩ := holder earlier hearlier
    exact ⟨Nat.le_of_lt hlt, htells.later (Nat.ne_of_gt hlt) heard⟩

/-- The gate is given back with the end of the running pass. -/
theorem Recounts.ends {owner : Owner} {heard : List Answer}
    (h : Recounts coordinator answered notes (.taken owner)) (hsignals : signals acts = acts)
    (hstarted : ∀ act ∈ acts, act.started? = none)
    (hstory : ∀ answers deeds, Reaches coordinator owner.passId owner.stage answers deeds →
      PassStory coordinator owner.passId (answers ++ heard) (deeds ++ acts.filter Act.ofPass)) :
    Recounts coordinator (answered ++ heard.map (Prod.mk owner.passId))
      (notes ++ Note.ofActs time number acts) (.clear owner.passId) := by
  have hnew : logBook (notes ++ Note.ofActs time number acts) =
      PassLog.extend (logBook notes) (Note.ofActs time number acts) := by
    rw [logBook_ofActs hsignals, foldl_stay hstarted]
  refine ⟨h.heard_more heard, ?_, ?_, by simp⟩
  · rw [passDeeds_append, h.deeds, hnew, deeds_extend _ _ fun hnil => ?_]
    exact (h.book_ne_nil hnil).elim
  · rintro _ ⟨⟩
    rw [hnew]
    exact h.closes hstory

/-- The next pass begins, after acts by which the one before was closed. -/
theorem Recounts.begins (before : List Act) (owner : Owner) {label : String}
    (hstage : owner.stage = .pulling) (hstarted : ∀ act ∈ before, act.started? = none)
    (hsignals : signals before = before)
    (hheard : ∀ entry ∈ answered, entry.1 < owner.passId)
    (hdeeds : passDeeds notes = (logBook notes).reverse.flatMap PassLog.deeds)
    (hnil : logBook notes = [] → before.filter Act.ofPass = [])
    (hpages : ∀ page ∈ PassLog.extend (logBook notes) (Note.ofActs time number before),
      page.number < owner.passId ∧ page.Tells coordinator answered) :
    Recounts coordinator answered
      (notes ++ Note.ofActs time number
        (before ++ [.event (.started owner.passId label), .call .pull])) (.taken owner) := by
  have hbook : logBook (notes ++ Note.ofActs time number
      (before ++ [.event (.started owner.passId label), .call .pull])) =
      ⟨owner.passId, some number, Note.ofActs time number [.call .pull]⟩ ::
        PassLog.extend (logBook notes) (Note.ofActs time number before) := by
    rw [logBook_ofActs (by simp [hsignals, Act.isSignal]), foldl_nextPass before hstarted]
  have hpull : passDeeds (Note.ofActs time number [.call .pull]) = [.call .pull] := rfl
  have hbefore : logBook notes = [] → passDeeds (Note.ofActs time number before) = [] := by
    rw [passDeeds_ofActs]
    exact hnil
  refine ⟨fun entry hmem => Nat.le_of_lt (hheard entry hmem), ?_, by simp, ?_⟩
  · rw [hbook, List.reverse_cons, List.flatMap_append, deeds_extend _ _ hbefore, passDeeds_append,
      hdeeds, passDeeds_ofActs, passDeeds_ofActs, List.filter_append, List.append_assoc]
    rfl
  · rintro _ ⟨⟩
    refine ⟨_, _, hbook, rfl, ?_, hpages⟩
    have hnone : answersOf owner.passId answered = [] :=
      answersOf_eq_nil fun entry hmem => Nat.ne_of_lt (hheard entry hmem)
    rw [hnone, hstage]
    exact .pulling

end Books

/-! ### Courses -/

theorem airspace_answeredBy {owner : Owner} {answer : Answer}
    (h : owner.stage.awaits answer = true) :
    (Airspace.taken owner).answeredBy (some answer) = [answer].map (Prod.mk owner.passId) :=
  if_pos h

theorem Verdict.story {coordinator : Coordinator} {passId : Nat} {stage : FlightStage}
    {answer : Answer} {events : List SyncEvent} {last : PassStatus} {error : Option String}
    {acts : List Act} (h : Verdict coordinator passId stage answer events last error)
    (hacts : acts.filter Act.ofPass = events.map Act.event) (answers : List Answer)
    (deeds : List Act) (hreaches : Reaches coordinator passId stage answers deeds) :
    PassStory coordinator passId (answers ++ [answer]) (deeds ++ acts.filter Act.ofPass) := by
  rw [hacts]
  exact .ended stage answers deeds answer events last error hreaches h

theorem Recounts.tells {coordinator : Coordinator} {answered : List (Nat × Answer)}
    {notes : List Note} {airspace : Airspace} (h : Recounts coordinator answered notes airspace) :
    ∀ page ∈ logBook notes, page.Tells coordinator answered := by
  intro page hmem
  cases airspace with
  | clear passes => exact (h.clear passes rfl page hmem).2
  | taken owner =>
    obtain ⟨current, older, hbook, hnumber, hreaches, holder⟩ := h.taken owner rfl
    rw [hbook] at hmem
    rcases List.mem_cons.mp hmem with rfl | hearlier
    · unfold PassLog.Tells
      rw [hnumber]
      exact .waits owner.stage _ _ hreaches
    · exact (holder page hearlier).2

theorem TriggerPolicy.filter_refused (policy : TriggerPolicy) (trigger : Trigger) :
    [Act.request trigger, .event (policy.refusal trigger), .settle policy.refused].filter
      Act.ofPass = [] := by
  cases policy <;> rfl

theorem Recounts.leg {coordinator : Coordinator} {answered : List (Nat × Answer)}
    {notes : List Note} {before after : Airspace} {heard : Option Answer} {number : Nat}
    {acts : List Act} (h : Recounts coordinator answered notes before)
    (hleg : Leg coordinator before heard number acts after) (time : Nat) :
    Recounts coordinator (answered ++ before.answeredBy heard)
      (notes ++ Note.ofActs time number acts) after := by
  have hnone : before.answeredBy none = [] := by
    cases before <;> rfl
  have hsignals := hleg.signals_eq
  cases hleg with
  | quiet _ _ _ hheard =>
    rw [Airspace.answeredBy_unheard hheard, List.append_nil]
    exact (List.append_nil notes).symm ▸ h
  | leave _ _ ending hloss hground =>
    rw [hnone, List.append_nil]
    cases before with
    | clear passes => exact h.idle hsignals rfl (by simp [Act.started?])
    | taken owner =>
      exact h.silent rfl rfl hsignals (by simp [Act.started?]) rfl
  | enter passes _ trigger =>
    rw [hnone, List.append_nil]
    refine Recounts.begins [.request trigger] ⟨number, trigger, 1, passes + 1, .pulling, false⟩
      rfl (by simp [Act.started?]) rfl ?_ h.deeds (fun _ => rfl) ?_
    · intro entry hmem
      exact Nat.lt_succ_of_le (h.heard entry hmem)
    · intro page hmem
      obtain ⟨hle, htells⟩ := tells_extend rfl (h.clear passes rfl) page hmem
      exact ⟨Nat.lt_succ_of_le hle, htells⟩
  | refuse owner _ trigger hother =>
    rw [hnone, List.append_nil]
    refine h.silent rfl rfl hsignals ?_ (TriggerPolicy.filter_refused _ _)
    cases coordinator.config.policy <;> simp [Act.started?, TriggerPolicy.refusal]
  | pulled owner result hstage =>
    have hawaits : owner.stage.awaits (.pulled (.ok result)) = true := by rw [hstage]; rfl
    rw [airspace_answeredBy hawaits]
    refine h.goesOn rfl hsignals (by simp [Act.started?]) fun answers deeds hreaches => ?_
    rw [hstage] at hreaches
    cases hreaches
    exact .pushing result
  | uploaded owner result hstage huploaded hchannel =>
    have hawaits : owner.stage.awaits (.pushed (.ok result)) = true := by rw [hstage]; rfl
    rw [airspace_answeredBy hawaits]
    refine h.goesOn rfl hsignals (by simp [Act.started?]) fun answers deeds hreaches => ?_
    rw [hstage] at hreaches
    cases hreaches with
    | pushing pull => exact .announcing pull result huploaded hchannel
  | followUp owner answer events last error hpending hverdict =>
    -- the answer belongs to the pass that ends, whose page is closed before the next one begins
    rw [airspace_answeredBy hverdict.awaits]
    refine Recounts.begins (events.map Act.event)
      ⟨owner.number, owner.trigger, owner.passes + 1, owner.passId + 1, .pulling, false⟩ rfl
      hverdict.started?_eq_none (signals_events events) ?_ h.deeds
      (fun hnil => (h.book_ne_nil hnil).elim) ?_
    · intro entry hmem
      exact Nat.lt_succ_of_le (h.heard_more [answer] entry hmem)
    · intro page hmem
      obtain ⟨hle, htells⟩ := h.closes (hverdict.story hverdict.filter_ofPass) page hmem
      exact ⟨Nat.lt_succ_of_le hle, htells⟩
  | land owner answer events last error hpending hverdict =>
    rw [airspace_answeredBy hverdict.awaits]
    have hland : (events.map Act.event ++
        [Act.settle (.executed ⟨owner.passes, last, error⟩)]).filter Act.ofPass =
        events.map Act.event := by
      rw [List.filter_append, hverdict.filter_ofPass]
      exact List.append_nil _
    refine h.ends hsignals ?_ (hverdict.story hland)
    intro act hmem
    rcases List.mem_append.mp hmem with hevent | hsettle
    · exact hverdict.started?_eq_none act hevent
    · cases List.mem_singleton.mp hsettle
      rfl
  | abandon owner ending hloss =>
    rw [hnone, List.append_nil]
    have hends : Recounts coordinator (answered ++ [].map (Prod.mk owner.passId))
        (notes ++ Note.ofActs time owner.number [.finish ending]) (.clear owner.passId) := by
      refine h.ends hsignals (by simp [Act.started?]) fun answers deeds hreaches => ?_
      rw [List.append_nil]
      exact .waits owner.stage answers _ ((List.append_nil deeds).symm ▸ hreaches)
    rw [List.map_nil, List.append_nil] at hends
    exact hends

/-- In every run, the deeds of passes are those on the pages of the log book, and each page is the
story of its pass. -/
theorem World.stories_run (coordinator : Coordinator) (resolve : Option (Path → Option Path))
    (bus : EventBus) (moves : List Move) :
    let start := World.new coordinator resolve bus
    let notes := (start.run moves).2
    passDeeds notes = (logBook notes).reverse.flatMap PassLog.deeds ∧
      ∀ page ∈ logBook notes, page.Tells coordinator (start.answered moves) := by
  intro start notes
  obtain ⟨airspace, -, htell⟩ := World.course_induction coordinator resolve bus
    (P := fun moves notes airspace => Recounts coordinator (start.answered moves) notes airspace)
    (Recounts.new coordinator)
    (fun moves move _ _ time _ _ _ hshows hleg htell => by
      rw [World.answered_snoc, hshows.answeredBy_eq]
      exact htell.leg hleg time) moves
  have hdeeds := htell.deeds
  have hpages := htell.tells
  rw [passDeeds_signals, logBook_signals] at hdeeds
  rw [logBook_signals] at hpages
  exact ⟨hdeeds, hpages⟩

end ReplicaSync
