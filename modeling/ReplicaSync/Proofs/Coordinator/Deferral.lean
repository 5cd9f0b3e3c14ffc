import Mathlib.Data.List.Basic
import ReplicaSync.Proofs.Coordinator.Course
import ReplicaSync.Proofs.Coordinator.Requests

/-!
# Deferred requests

A request that ran several passes ran each but the last of them because some request was deferred
during the one before, and none was deferred during the last. So every deferred request is
followed by a complete pass of the task that owned the gate, unless that task goes away. Main
statement: `deferral_accounting`.
-/

namespace ReplicaSync

/-! ### Requests that are answered -/

/-- The request whose answer comes next ran so many passes; no request was deferred during the
last of them. -/
def RanReported (channel : String) (past : List Note) (number : Nat) (report : PassReport) :
    Prop :=
  ∃ trigger last, RanPasses channel past number trigger last report.passes ∧
    last.IsComplete channel ∧ last.deferrals = 0

section Answers

variable {coordinator : Coordinator} {notes : List Note} {heard : Option Answer}
variable {number : Nat} {acts : List Act}

theorem Leg.at_executed {before after : Airspace} {report : PassReport} {a b : List Act}
    (h : Leg coordinator before heard number (a ++ .settle (.executed report) :: b) after) :
    ∃ owner answer events, before = .taken owner ∧ heard = some answer ∧
      after = .clear owner.passId ∧ number = owner.number ∧
      owner.pending = false ∧ report.passes = owner.passes ∧ a = events.map Act.event ∧
      Verdict coordinator owner.passId owner.stage answer events report.last report.error := by
  have hmem : Act.settle (.executed report) ∈ a ++ .settle (.executed report) :: b := by simp
  generalize hacts : a ++ .settle (.executed report) :: b = acts at h hmem
  cases h with
  | land owner answer events last error hpending hverdict =>
    have hevents : Act.settle (.executed report) ∉ events.map Act.event := by simp
    obtain ⟨rfl, hreport, _⟩ :=
      (List.append_cons_inj_of_notMem hevents List.not_mem_nil).mp hacts.symm
    cases hreport
    exact ⟨owner, answer, events, rfl, rfl, rfl, rfl, hpending, rfl, rfl, hverdict⟩
  | refuse owner _ trigger hother =>
    cases hpolicy : coordinator.config.policy <;> simp [hpolicy, TriggerPolicy.refused] at hmem
  | quiet | leave | enter | pulled | uploaded | followUp | abandon => simp at hmem

/-- A request is deferred only if another task owns the gate, which then owes a pass. -/
theorem Leg.at_deferred {before after : Airspace} {a b : List Act}
    (h : Leg coordinator before heard number (a ++ .settle .deferred :: b) after) :
    ∃ owner trigger, before = .taken owner ∧ number ≠ owner.number ∧
      a = [.request trigger, .event (.deferred trigger.label)] ∧ b = [] ∧
      after = .taken { owner with pending := true } := by
  obtain ⟨owner, trigger, rfl, hother, hpolicy, hacts, rfl⟩ := h.of_refused (.inr rfl) (by simp)
  -- only the coalescing policy answers so
  have hcoalesce : coordinator.config.policy = .coalesce := by
    cases h : coordinator.config.policy with
    | drop => rw [h] at hpolicy; cases hpolicy
    | coalesce => rfl
  rw [hcoalesce] at hacts
  have hfirst : Act.settle .deferred ∉ [.request trigger, .event (.deferred trigger.label)] := by
    simp
  obtain ⟨rfl, _, rfl⟩ := (List.append_cons_inj_of_notMem hfirst List.not_mem_nil).mp hacts.symm
  refine ⟨owner, trigger, rfl, hother, rfl, rfl, ?_⟩
  simp [hcoalesce]

theorem Airborne.reported {owner : Owner} {answer : Answer} {events : List SyncEvent}
    {report : PassReport} (h : Airborne coordinator.config.channelKey notes owner)
    (hpending : owner.pending = false) (hpasses : report.passes = owner.passes)
    (hverdict : Verdict coordinator owner.passId owner.stage answer events report.last
      report.error) (time : Nat) :
    RanReported coordinator.config.channelKey
      (notes ++ Note.ofActs time owner.number (events.map Act.event)) owner.number report := by
  obtain ⟨last, hran, hlast⟩ := h
  refine ⟨owner.trigger, _, ?_, hlast.complete time hverdict, ?_⟩
  · rw [hpasses]
    exact hran.stay time (signals_events events) (.of_own isBoundary_events _)
      fun book => foldl_stay hverdict.started?_eq_none book _ _
  · have hnone : ¬ 0 < last.deferrals := by
      rw [← hlast.pending, hpending]
      exact Bool.false_ne_true
    rw [PassLog.deferrals_ofActs, PassLog.count_deferred isBoundary_events]
    omega

end Answers

/-! ### Requests that are deferred -/

/-- The request of the owner of the gate is over: it was lost, or it was answered after one or
more complete passes. -/
inductive Concluded (channel : String) (owner : Nat) (after : List Note) : Prop where
  | lost (during : List Note) (time : Nat) (ending : Ending) (rest : List Note)
      (h : after = during ++ ⟨time, some owner, .finish ending⟩ :: rest)
      (hloss : ending.isLoss = true) (hduring : UnderWay (some owner) during)
  | served (during : List Note) (time : Nat) (report : PassReport) (rest : List Note)
      (h : after = during ++ ⟨time, some owner, .settle (.executed report)⟩ :: rest)
      (hduring : UnderWay (some owner) during) (hsome : logBook during ≠ [])
      (hpages : ∀ page ∈ logBook during,
        page.owner = some owner ∧ page.IsComplete channel)

/-- The request of the owner of the gate is under way: it owes a pass, or runs one that began
afterwards. -/
def Waits (channel : String) (after : List Note) (owner : Owner) : Prop :=
  UnderWay (some owner.number) after ∧
    (logBook after = [] ∧ owner.pending = true ∨
      ∃ page older, logBook after = page :: older ∧ page.IsRunning owner ∧
        ∀ earlier ∈ older, earlier.owner = some owner.number ∧ earlier.IsComplete channel)

theorem Concluded.append {channel : String} {owner : Nat} {after : List Note}
    (h : Concluded channel owner after) (notes : List Note) :
    Concluded channel owner (after ++ notes) := by
  cases h with
  | lost during time ending rest h hloss hduring =>
    refine .lost during time ending (rest ++ notes) ?_ hloss hduring
    rw [h, List.append_assoc, List.cons_append]
  | served during time report rest h hduring hsome hpages =>
    refine .served during time report (rest ++ notes) ?_ hduring hsome hpages
    rw [h, List.append_assoc, List.cons_append]

section Waiting

variable {coordinator : Coordinator} {after : List Note} {owner : Owner}
variable {heard : Option Answer} {number : Nat} {acts : List Act}

theorem Waits.leg {next : Owner} (h : Waits coordinator.config.channelKey after owner)
    (hleg : Leg coordinator (.taken owner) heard number acts (.taken next)) (time : Nat) :
    Waits coordinator.config.channelKey (after ++ Note.ofActs time number acts) next := by
  obtain ⟨hway, hbook⟩ := h
  have hnumber := hleg.same_request.1
  refine ⟨?_, ?_⟩
  · rw [hnumber]
    exact underWay_append.mpr ⟨hway, hleg.underWay time⟩
  rw [logBook_ofActs hleg.signals_eq, hnumber]
  rcases hleg.keeps_page time with
    ⟨_, hkept, hstay, hrunning⟩ | ⟨closing, fresh, _, hfresh, hnext, hdone⟩
  · rcases hbook with ⟨hnone, hpending⟩ | ⟨page, older, hbook, hpage, holder⟩
    · refine .inl ⟨?_, hkept hpending⟩
      rw [hnone, hstay]
      rfl
    · refine .inr ⟨_, older, ?_, hrunning page hpage, holder⟩
      rw [hbook, hstay]
      rfl
  · rcases hbook with ⟨hnone, hpending⟩ | ⟨page, older, hbook, hpage, holder⟩
    · refine .inr ⟨fresh, [], ?_, hfresh, List.forall_mem_nil _⟩
      rw [hnone, hnext]
      rfl
    · refine .inr ⟨fresh, page.write closing :: older, ?_, hfresh, ?_⟩
      · rw [hbook, hnext]
        rfl
      · exact List.forall_mem_cons.mpr ⟨⟨hpage.held, (hdone page hpage).1⟩, holder⟩

theorem Waits.clears {passes : Nat} (h : Waits coordinator.config.channelKey after owner)
    (hleg : Leg coordinator (.taken owner) heard number acts (.clear passes)) (time : Nat) :
    Concluded coordinator.config.channelKey owner.number
      (after ++ Note.ofActs time number acts) := by
  obtain ⟨hway, hbook⟩ := h
  obtain ⟨rfl, ⟨ending, hloss, rfl⟩ | ⟨answer, events, last, error, hpending, hverdict, rfl⟩⟩ :=
    hleg.clears
  · exact .lost after time ending [] rfl hloss hway
  · have hevents := hverdict.started?_eq_none
    -- the gate is not given back while it owes a pass, so a pass began after the deferral
    rcases hbook with ⟨_, howed⟩ | ⟨page, older, hbook, hpage, holder⟩
    · rw [hpending] at howed
      cases howed
    have hlast : logBook (after ++ Note.ofActs time owner.number (events.map Act.event)) =
        page.write (Note.ofActs time owner.number (events.map Act.event)) :: older := by
      rw [logBook_ofActs (signals_events events), hbook, foldl_stay hevents]
      rfl
    refine .served (after ++ Note.ofActs time owner.number (events.map Act.event)) time
      ⟨owner.passes, last, error⟩ [] ?_ (underWay_append.mpr ⟨hway, .of_own isBoundary_events _⟩)
      ?_ ?_
    · rw [Note.ofActs_append, List.append_assoc]
      rfl
    · rw [hlast]
      exact List.cons_ne_nil _ _
    · rw [hlast]
      exact List.forall_mem_cons.mpr ⟨⟨hpage.held, hpage.complete time hverdict⟩, holder⟩

end Waiting

/-- A request deferred after `past` found another task running a pass; the request of that task is
over by now, or it is under way and has not forgotten. -/
def DeferralKept (channel : String) (past : List Note) (number : Nat) (after : List Note)
    (airspace : Airspace) : Prop :=
  ∃ task page older, task ≠ number ∧ logBook past = page :: older ∧ page.owner = some task ∧
    page.IsOpen ∧
    (Concluded channel task after ∨
      ∃ owner, airspace = .taken owner ∧ owner.number = task ∧ Waits channel after owner)

theorem DeferralKept.leg {coordinator : Coordinator} {past after : List Note} {number : Nat}
    {airspace next : Airspace} {heard : Option Answer} {mover : Nat} {acts : List Act}
    (h : DeferralKept coordinator.config.channelKey past number after airspace)
    (hleg : Leg coordinator airspace heard mover acts next) (time : Nat) :
    DeferralKept coordinator.config.channelKey past number
      (after ++ Note.ofActs time mover acts) next := by
  obtain ⟨task, page, older, htask, hbook, hpage, hopen, hfate⟩ := h
  refine ⟨task, page, older, htask, hbook, hpage, hopen, ?_⟩
  rcases hfate with hdone | ⟨owner, rfl, rfl, hwaits⟩
  · exact .inl (hdone.append _)
  · cases next with
    | clear passes => exact .inl (hwaits.clears hleg time)
    | taken owner => exact .inr ⟨owner, rfl, hleg.same_request.1, hwaits.leg hleg time⟩

/-! ### Runs -/

/-- The account of a course: every answer that reports passes and every request that was
deferred. -/
structure Accounted (channel : String) (notes : List Note) (airspace : Airspace) : Prop
    extends Logged channel notes airspace where
  reported : ∀ past time number report after,
    notes = past ++ ⟨time, some number, .settle (.executed report)⟩ :: after →
    RanReported channel past number report
  deferred : ∀ past time number after,
    notes = past ++ ⟨time, some number, .settle .deferred⟩ :: after →
    DeferralKept channel past number after airspace

theorem Accounted.new (channel : String) : Accounted channel [] (.clear 0) where
  toLogged := .new channel
  reported := fun past _ _ _ _ h => by simp at h
  deferred := fun past _ _ _ h => by simp at h

theorem Accounted.leg {coordinator : Coordinator} {notes : List Note}
    {airspace next : Airspace} {heard : Option Answer} {mover : Nat} {acts : List Act}
    (h : Accounted coordinator.config.channelKey notes airspace)
    (hleg : Leg coordinator airspace heard mover acts next) (time : Nat) :
    Accounted coordinator.config.channelKey (notes ++ Note.ofActs time mover acts) next := by
  refine ⟨h.toLogged.leg hleg time, ?_, ?_⟩
  · intro past moment number report after hsplit
    rcases Note.append_ofActs_eq_split hsplit with
      ⟨rest, hold, _⟩ | ⟨a, b, rfl, rfl, _, _, hnumber⟩
    · exact h.reported past moment number report rest hold
    · obtain ⟨owner, _, events, rfl, _, _, rfl, hpending, hpasses, rfl, hverdict⟩ :=
        hleg.at_executed
      cases hnumber
      exact (h.airborne owner rfl).reported hpending hpasses hverdict time
  · intro past moment number after hsplit
    rcases Note.append_ofActs_eq_split hsplit with
      ⟨rest, hold, rfl⟩ | ⟨a, b, rfl, rfl, rfl, _, hnumber⟩
    · exact (h.deferred past moment number rest hold).leg hleg time
    · obtain ⟨owner, trigger, rfl, hother, rfl, rfl, rfl⟩ := hleg.at_deferred
      cases hnumber
      obtain ⟨page, older, hbook, hpage, _⟩ := h.book
      have hopen := (hpage.other time [.request trigger, .event (.deferred trigger.label)]
        owner.pending hother rfl (by simp)).isOpen
      refine ⟨owner.number, page.write _, older, hother.symm, ?_, hpage.held, hopen,
        .inr ⟨_, rfl, rfl, ?_⟩⟩
      · rw [logBook_ofActs rfl, hbook, foldl_stay (by simp [Act.started?])]
        rfl
      · exact ⟨List.forall_mem_nil _, .inl ⟨rfl, rfl⟩⟩

theorem RanReported.of_signals {channel : String} {past : List Note} {number : Nat}
    {report : PassReport} (h : RanReported channel (Note.signals past) number report) :
    RanReported channel past number report := by
  obtain ⟨trigger, last, ⟨before, asked, during, earlier, hpast, hduring, hbook, hrest⟩, hlast⟩ :=
    h
  obtain ⟨first, rest, rfl, _, rfl⟩ := signals_eq_split hpast
  rw [logBook_signals] at hbook
  exact ⟨trigger, last, ⟨first, asked, rest, earlier, rfl, underWay_signals.mp hduring, hbook,
    hrest⟩, hlast⟩

theorem Concluded.of_signals {channel : String} {owner : Nat} {after : List Note}
    (h : Concluded channel owner (Note.signals after)) : Concluded channel owner after := by
  cases h with
  | lost during time ending rest h hloss hduring =>
    obtain ⟨first, later, rfl, rfl, _⟩ := signals_eq_split h
    exact .lost first time ending later rfl hloss (underWay_signals.mp hduring)
  | served during time report rest h hduring hsome hpages =>
    obtain ⟨first, later, rfl, rfl, _⟩ := signals_eq_split h
    rw [logBook_signals] at hsome hpages
    exact .served first time report later rfl (underWay_signals.mp hduring) hsome hpages

/-- In every run, a request that is answered with so many passes ran exactly these passes, each of
them to its end; during each but the last some request was deferred, and during the last none. A
request that is deferred finds another task that runs a pass. Unless the request of that task is
lost, one or more complete passes of it follow that began after the deferral, and then its answer;
until then the gate owes a pass or such a pass has begun. -/
theorem deferral_accounting (coordinator : Coordinator) (resolve : Option (Path → Option Path))
    (bus : EventBus) (moves : List Move) :
    let world := ((World.new coordinator resolve bus).run moves).1
    let notes := ((World.new coordinator resolve bus).run moves).2
    let channel := coordinator.config.channelKey
    (∀ past time number report after,
      notes = past ++ ⟨time, some number, .settle (.executed report)⟩ :: after →
      RanReported channel past number report) ∧
    ∀ past time number after,
      notes = past ++ ⟨time, some number, .settle .deferred⟩ :: after →
      ∃ owner page older, owner ≠ number ∧ logBook past = page :: older ∧
        page.owner = some owner ∧ page.IsOpen ∧
        (Concluded channel owner after ∨
          world.Owns owner ∧ UnderWay (some owner) after ∧
            (world.shared.gate.pending = true ∨ logBook after ≠ [])) := by
  intro world notes channel
  obtain ⟨airspace, hshows, haccount⟩ := World.course_induction coordinator resolve bus
    (P := fun _ notes airspace => Accounted channel notes airspace)
    (Accounted.new channel)
    (fun _ _ _ _ time _ _ _ _ hleg haccount => haccount.leg hleg time) moves
  refine ⟨?_, ?_⟩
  · intro past time number report after hsplit
    have hsignals := signals_split hsplit rfl
    exact (haccount.reported _ _ _ _ _ hsignals).of_signals
  · intro past time number after hsplit
    have hsignals := signals_split hsplit rfl
    obtain ⟨task, page, older, htask, hbook, hpage, hopen, hfate⟩ :=
      haccount.deferred _ _ _ _ hsignals
    rw [logBook_signals] at hbook
    refine ⟨task, page, older, htask, hbook, hpage, hopen, ?_⟩
    rcases hfate with hdone | ⟨owner, rfl, rfl, hway, hwaits⟩
    · exact .inl hdone.of_signals
    · refine .inr ⟨(hshows.owns_iff _).mpr ⟨owner, rfl, rfl⟩, underWay_signals.mp hway, ?_⟩
      rw [logBook_signals] at hwaits
      rcases hwaits with ⟨_, hpending⟩ | ⟨page, older, hafter, _⟩
      · exact .inl (hshows.shared ▸ hpending)
      · exact .inr (hafter ▸ List.cons_ne_nil _ _)

end ReplicaSync
