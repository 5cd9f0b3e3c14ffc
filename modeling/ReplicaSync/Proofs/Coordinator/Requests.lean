import ReplicaSync.Proofs.Coordinator.Pages

/-!
# The request that owns the gate

A request that was let in runs pass after pass until it is answered. Since it was made its task
made no other request, the pages of the log book are those of its passes, and the gate owes a pass
if and only if a request was deferred during the running one. Main statement: `Airborne.leg`, that
this holds for as long as the gate is kept.
-/

namespace ReplicaSync

/-! ### The passes of one request -/

/-- The request of a task and its passes since: the page of the last one, and before it only
complete pages of passes during which a request was deferred. -/
def RanPasses (channel : String) (notes : List Note) (number : Nat) (trigger : Trigger)
    (last : PassLog) (passes : Nat) : Prop :=
  ∃ before asked during earlier,
    notes = before ++ ⟨asked, some number, .request trigger⟩ :: during ∧
      UnderWay (some number) during ∧
      logBook during = last :: earlier ∧ earlier.length + 1 = passes ∧
      last.owner = some number ∧
      ∀ page ∈ earlier, page.owner = some number ∧ page.IsComplete channel ∧ 0 < page.deferrals

/-- The request that owns the gate has run the passes that it counts. -/
def Airborne (channel : String) (notes : List Note) (owner : Owner) : Prop :=
  ∃ last, RanPasses channel notes owner.number owner.trigger last owner.passes ∧
    last.IsRunning owner

section Legs

variable {coordinator : Coordinator} {owner next : Owner} {heard : Option Answer}
variable {number : Nat} {acts : List Act}

theorem Leg.same_request (h : Leg coordinator (.taken owner) heard number acts (.taken next)) :
    next.number = owner.number ∧ next.trigger = owner.trigger := by
  cases h <;> exact ⟨rfl, rfl⟩

theorem Leg.underWay (h : Leg coordinator (.taken owner) heard number acts (.taken next))
    (time : Nat) : UnderWay (some owner.number) (Note.ofActs time number acts) := by
  cases h with
  | quiet => exact .of_own (List.forall_mem_nil _) _
  | leave _ _ ending hloss hground =>
    refine .of_other ?_ _
    intro hsame
    exact ne_of_flight?_eq_none hground (Option.some.inj hsame).symm
  | refuse _ _ trigger hother =>
    refine .of_other ?_ _
    intro hsame
    exact hother (Option.some.inj hsame).symm
  | pulled | uploaded => exact .of_own (by simp [Act.isBoundary]) _
  | followUp =>
    refine .of_own ?_ _
    intro act hact
    rcases List.mem_append.mp hact with hevent | hnext
    · exact isBoundary_events act hevent
    · rcases List.mem_cons.mp hnext with rfl | hcall
      · rfl
      · cases List.mem_singleton.mp hcall
        rfl

end Legs

/-! ### Requests that own the gate -/

section Flights

variable {coordinator : Coordinator} {channel : String} {notes : List Note}

theorem RanPasses.stay {number passes : Nat} {trigger : Trigger} {last : PassLog}
    (h : RanPasses channel notes number trigger last passes) {mover : Nat} {acts : List Act}
    (time : Nat) (hsignals : signals acts = acts)
    (hway : UnderWay (some number) (Note.ofActs time mover acts))
    (hstay : ∀ book, (Note.ofActs time mover acts).foldl PassLog.enter book =
      PassLog.extend book (Note.ofActs time mover acts)) :
    RanPasses channel (notes ++ Note.ofActs time mover acts) number trigger
      (last.write (Note.ofActs time mover acts)) passes := by
  obtain ⟨before, asked, during, earlier, rfl, hduring, hbook, hpasses, howner, hearlier⟩ := h
  refine ⟨before, asked, during ++ Note.ofActs time mover acts, earlier, ?_,
    underWay_append.mpr ⟨hduring, hway⟩, ?_, hpasses, howner, hearlier⟩
  · rw [List.append_assoc, List.cons_append]
  · rw [logBook_ofActs hsignals, hbook, hstay]
    rfl

theorem Airborne.new (number passId time : Nat) (trigger : Trigger) :
    Airborne channel
      (notes ++ Note.ofActs time number
        [.request trigger, .event (.started passId trigger.label), .call .pull])
      ⟨number, trigger, 1, passId, .pulling, false⟩ := by
  refine ⟨_, ⟨notes, time, Note.ofActs time number
    [.event (.started passId trigger.label), .call .pull], [], rfl, ?_, ?_, rfl, rfl,
    List.forall_mem_nil _⟩, PassLog.isRunning_new number trigger 1 passId time⟩
  · exact .of_own (by simp [Act.isBoundary]) _
  · rw [← List.nil_append (Note.ofActs _ _ _), logBook_ofActs rfl]
    exact foldl_nextPass [] (List.forall_mem_nil _) [] time number passId trigger.label

theorem Airborne.leg {owner next : Owner} {heard : Option Answer} {number : Nat}
    {acts : List Act} (h : Airborne coordinator.config.channelKey notes owner)
    (hleg : Leg coordinator (.taken owner) heard number acts (.taken next)) (time : Nat) :
    Airborne coordinator.config.channelKey (notes ++ Note.ofActs time number acts) next := by
  obtain ⟨last, hran, hlast⟩ := h
  have hway := hleg.underWay time
  -- the pass goes on with the same page, or the page closes behind the next one
  rcases hleg.keeps_page time with
    ⟨hpasses, _, hstay, hrunning⟩ | ⟨closing, fresh, hpasses, hfresh, hnext, hdone⟩
  · refine ⟨_, ?_, hrunning last hlast⟩
    rw [hleg.same_request.1, hleg.same_request.2, hpasses]
    exact hran.stay time hleg.signals_eq hway hstay
  · obtain ⟨before, asked, during, earlier, rfl, hduring, hbook, hcount, howner, hearlier⟩ := hran
    rw [← hleg.same_request.1] at hway hduring howner hearlier ⊢
    refine ⟨fresh, ⟨before, asked, during ++ Note.ofActs time number acts,
      last.write closing :: earlier, ?_, underWay_append.mpr ⟨hduring, hway⟩, ?_, ?_, ?_, ?_⟩,
      hfresh⟩
    · rw [List.append_assoc, List.cons_append, hleg.same_request.1, hleg.same_request.2]
    · rw [logBook_ofActs hleg.signals_eq, hbook, hnext]
      rfl
    · rw [List.length_cons, hcount, hpasses]
    · exact hfresh.held
    · exact List.forall_mem_cons.mpr ⟨⟨howner, hdone last hlast⟩, hearlier⟩

end Flights

/-! ### Courses -/

/-- The log book of a course, and the request in the air. -/
structure Logged (channel : String) (notes : List Note) (airspace : Airspace) : Prop where
  book : BookShows channel (logBook notes) airspace
  airborne : ∀ owner, airspace = .taken owner → Airborne channel notes owner

theorem Logged.new (channel : String) : Logged channel [] (.clear 0) where
  book := List.forall_mem_nil _
  airborne := fun _ hother => nomatch hother

theorem Logged.leg {coordinator : Coordinator} {notes : List Note} {before after : Airspace}
    {heard : Option Answer} {number : Nat} {acts : List Act}
    (h : Logged coordinator.config.channelKey notes before)
    (hleg : Leg coordinator before heard number acts after) (time : Nat) :
    Logged coordinator.config.channelKey (notes ++ Note.ofActs time number acts) after := by
  refine ⟨h.book.leg hleg time, ?_⟩
  rintro owner rfl
  cases before with
  | taken earlier => exact (h.airborne earlier rfl).leg hleg time
  | clear passes =>
    cases hleg with
    | enter _ _ trigger => exact .new number (passes + 1) time trigger

end ReplicaSync
