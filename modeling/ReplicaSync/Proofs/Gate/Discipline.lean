import Mathlib.Data.List.Induction
import Mathlib.Data.List.Nodup
import ReplicaSync.Rehearsal.Gate

/-!
# The discipline of guards

However the calls on a gate follow one another, also calls on guards that gave the gate back long
ago: the gate is taken if and only if one guard holds it, no other guard can give it back, and one
more pass is owed if and only if a request was deferred during the running one. A guard that is
dropped takes the debt with it. Main statement: `gate_discipline`.
-/

namespace ReplicaSync
namespace GateRehearsal

/-! ### Calls and answers -/

/-- A gate and its guards after some calls. -/
def after (r : GateRehearsal) : List GateCall → GateRehearsal
  | [] => r
  | call :: rest => (r.call call).1.after rest

/-- Calls with their answers. -/
def history (r : GateRehearsal) (calls : List GateCall) : List (GateCall × GateAnswer) :=
  calls.zip ((r.run calls).map Prod.fst)

/-- A request was refused under the coalescing policy since the last one was let in and since the
last pass that was to be followed by another. -/
def Owes (history : List (GateCall × GateAnswer)) : Prop :=
  ∃ before name answer since, history = before ++ (.enter name .coalesce, answer) :: since ∧
    answer ≠ .entered ∧ ∀ entry ∈ since, entry.2 ≠ .entered ∧ entry.2 ≠ .finished true

/-- The guards that have not given the gate back. -/
def holders (r : GateRehearsal) : List (String × Guard) :=
  r.guards.filter fun entry => !entry.2.released

variable {r : GateRehearsal} {name : String} {guard : Guard}

theorem after_concat (calls : List GateCall) (call : GateCall) :
    r.after (calls ++ [call]) = ((r.after calls).call call).1 := by
  induction calls generalizing r with
  | nil => rfl
  | cons first rest ih => exact ih

theorem history_concat (calls : List GateCall) (call : GateCall) :
    r.history (calls ++ [call]) = r.history calls ++ [(call, ((r.after calls).call call).2)] := by
  induction calls generalizing r with
  | nil => rfl
  | cons first rest ih =>
    have hrest := ih (r := (r.call first).1)
    simp only [history, List.cons_append, run, List.map_cons, List.zip_cons_cons, after] at hrest ⊢
    rw [hrest]

theorem owes_concat {history : List (GateCall × GateAnswer)} {call : GateCall}
    {answer : GateAnswer} :
    Owes (history ++ [(call, answer)]) ↔
      (∃ name, call = .enter name .coalesce) ∧ answer ≠ .entered ∨
        Owes history ∧ answer ≠ .entered ∧ answer ≠ .finished true := by
  constructor
  · rintro ⟨before, name, reply, since, hsplit, hrefused, hsince⟩
    rcases List.eq_nil_or_concat' since with rfl | ⟨since, last, rfl⟩
    · have hlast := (List.append_inj' hsplit rfl).2
      cases hlast
      exact .inl ⟨⟨name, rfl⟩, hrefused⟩
    · rw [← List.cons_append, ← List.append_assoc] at hsplit
      obtain ⟨rfl, hlast⟩ := List.append_inj' hsplit rfl
      cases hlast
      obtain ⟨hsince, hlast⟩ := List.forall_mem_append.mp hsince
      exact .inr ⟨⟨before, name, reply, since, rfl, hrefused, hsince⟩,
        hlast _ (List.mem_singleton_self _)⟩
  · rintro (⟨⟨name, rfl⟩, hrefused⟩ | ⟨⟨before, name, reply, since, rfl, hrefused, hsince⟩, hlast⟩)
    · exact ⟨history, name, answer, [], rfl, hrefused, List.forall_mem_nil _⟩
    · refine ⟨before, name, reply, since ++ [(call, answer)], ?_, hrefused, ?_⟩
      · rw [List.append_assoc, List.cons_append]
      · exact List.forall_mem_append.mpr ⟨hsince, List.forall_mem_singleton.mpr hlast⟩

/-! ### Guards by name -/

theorem lookup_without {other : String} (hother : other ≠ name) (guards : List (String × Guard)) :
    (guards.filter fun entry => entry.1 ≠ name).lookup other = guards.lookup other := by
  induction guards with
  | nil => rfl
  | cons first rest ih =>
    obtain ⟨key, kept⟩ := first
    by_cases hkey : key = name
    · have hmiss : (other == key) = false := by
        rw [hkey]
        exact beq_false_of_ne hother
      rw [List.filter_cons_of_neg (by simpa using hkey), ih, List.lookup_cons, hmiss]
    · rw [List.filter_cons_of_pos (by simpa using hkey), List.lookup_cons, List.lookup_cons, ih]

theorem guard?_keep_self : (r.keep name guard).guard? name = some guard := by
  simp [keep, guard?]

theorem guard?_keep_other {other : String} (hother : other ≠ name) :
    (r.keep name guard).guard? other = r.guard? other := by
  have hmiss : (other == name) = false := beq_false_of_ne hother
  unfold keep guard?
  rw [List.lookup_cons, hmiss]
  exact lookup_without hother r.guards

theorem guard?_giveUp_other {other : String} (hother : other ≠ name) :
    (r.giveUp name).guard? other = r.guard? other := by
  unfold giveUp
  split
  · exact lookup_without hother r.guards
  · rfl

theorem filter_comm (guards : List (String × Guard)) (p q : String × Guard → Bool) :
    (guards.filter p).filter q = (guards.filter q).filter p := by
  rw [List.filter_filter, List.filter_filter]
  exact List.filter_congr fun entry _ => Bool.and_comm _ _

theorem holders_keep : (r.keep name guard).holders =
    (if guard.released then [] else [(name, guard)]) ++
      r.holders.filter fun entry => entry.1 ≠ name := by
  unfold holders keep
  rw [List.filter_cons, filter_comm]
  cases guard.released <;> rfl

theorem holders_giveUp :
    (r.giveUp name).holders = r.holders.filter fun entry => entry.1 ≠ name := by
  unfold giveUp holders
  split
  · exact filter_comm _ _ _
  · rename_i hnone
    have habsent : ∀ entry ∈ r.guards, entry.1 ≠ name := by
      intro entry hmem heq
      have hmiss := List.lookup_eq_none_iff.mp hnone entry hmem
      simp [heq] at hmiss
    refine (List.filter_eq_self.mpr fun entry hmem => ?_).symm
    exact decide_eq_true (habsent entry (List.mem_filter.mp hmem).1)

theorem names_without {guards : List (String × Guard)} (h : (guards.map Prod.fst).Nodup) :
    ((guards.filter fun entry => entry.1 ≠ name).map Prod.fst).Nodup :=
  h.sublist (List.filter_sublist.map Prod.fst)

theorem names_keep (h : (r.guards.map Prod.fst).Nodup) :
    ((r.keep name guard).guards.map Prod.fst).Nodup := by
  unfold keep
  rw [List.map_cons, List.nodup_cons]
  refine ⟨?_, names_without h⟩
  simp

theorem names_giveUp (h : (r.guards.map Prod.fst).Nodup) :
    ((r.giveUp name).guards.map Prod.fst).Nodup := by
  unfold giveUp
  split
  · exact names_without h
  · exact h

/-! ### Calls on a guard -/

theorem finish_spent (gate : Gate) :
    (⟨true⟩ : Guard).finish gate = ⟨gate, ⟨true⟩, false, none⟩ := rfl

theorem finish_live (pending : Bool) : (⟨false⟩ : Guard).finish ⟨.running, pending⟩ =
    ⟨⟨if pending then .running else .idle, false⟩, ⟨!pending⟩, pending, none⟩ := by
  cases pending <;> rfl

theorem abandon_live (pending : Bool) :
    (⟨false⟩ : Guard).abandon ⟨.running, pending⟩ = (.new, none) := rfl

theorem call_finish (h : r.guard? name = some guard) :
    r.call (.finish name) =
      (({ r with gate := (guard.finish r.gate).gate } : GateRehearsal).keep name
        (guard.finish r.gate).guard, .finished (guard.finish r.gate).again) := by
  simp only [call, h]

theorem call_drop (h : r.guard? name = some guard) :
    r.call (.drop name) = (r.giveUp name, .released) := by
  simp only [call, h]

theorem gate_giveUp (h : r.guard? name = some guard) :
    (r.giveUp name).gate = (guard.abandon r.gate).1 := by
  simp only [giveUp, h]

/-! ### The holder -/

/-- What holds of a gate and its guards after this history: the gate is free and nobody holds it, or
one guard does, and one more pass is owed as the history tells. -/
structure Sound (history : List (GateCall × GateAnswer)) (r : GateRehearsal) : Prop where
  names : (r.guards.map Prod.fst).Nodup
  held : r.gate = .new ∧ r.holders = [] ∨
    ∃ name pending, r.gate = ⟨.running, pending⟩ ∧ r.holders = [(name, ⟨false⟩)] ∧
      (pending = true ↔ Owes history)

variable {history : List (GateCall × GateAnswer)}

theorem mem_guards (h : r.guard? name = some guard) : (name, guard) ∈ r.guards := by
  obtain ⟨before, since, hsplit, _⟩ := List.lookup_eq_some_iff.mp h
  rw [hsplit]
  exact List.mem_append_right _ List.mem_cons_self

theorem Sound.holder (h : Sound history r) (hlive : r.guard? name = some ⟨false⟩) :
    ∃ pending, r.gate = ⟨.running, pending⟩ ∧ r.holders = [(name, ⟨false⟩)] ∧
      (pending = true ↔ Owes history) := by
  have hmem : (name, ⟨false⟩) ∈ r.holders := List.mem_filter.mpr ⟨mem_guards hlive, rfl⟩
  rcases h.held with ⟨_, hnone⟩ | ⟨holder, pending, hgate, hholder, howes⟩
  · rw [hnone] at hmem
    cases hmem
  · rw [hholder] at hmem
    cases List.mem_singleton.mp hmem
    exact ⟨pending, hgate, hholder, howes⟩

/-- A guard that gave the gate back has no namesake that holds it. -/
theorem Sound.spent (h : Sound history r) (hspent : r.guard? name = some ⟨true⟩) :
    (r.holders.filter fun entry => entry.1 ≠ name) = r.holders := by
  rw [List.filter_eq_self]
  intro entry hentry
  obtain ⟨hmem, hlive⟩ := List.mem_filter.mp hentry
  have hother : entry.1 ≠ name := by
    intro hsame
    have hentry : entry = (name, ⟨true⟩) :=
      List.inj_on_of_nodup_map h.names hmem (mem_guards hspent) hsame
    rw [hentry] at hlive
    cases hlive
  exact decide_eq_true hother

/-- The gate and its holder stay, and the call neither defers a request nor begins a pass. -/
theorem Sound.keeps {next : GateRehearsal} {call : GateCall} {answer : GateAnswer}
    (h : Sound history r) (hnames : (next.guards.map Prod.fst).Nodup) (hgate : next.gate = r.gate)
    (hholders : next.holders = r.holders) (hcall : ∀ name, call ≠ .enter name .coalesce)
    (hanswer : answer ≠ .entered ∧ answer ≠ .finished true) :
    Sound (history ++ [(call, answer)]) next := by
  refine ⟨hnames, ?_⟩
  rw [hgate, hholders]
  refine h.held.imp_right ?_
  rintro ⟨name, pending, hrunning, hholder, howes⟩
  refine ⟨name, pending, hrunning, hholder, ?_⟩
  rw [owes_concat, howes]
  constructor
  · exact fun hold => .inr ⟨hold, hanswer⟩
  · rintro (⟨⟨name, hdefers⟩, _⟩ | ⟨hold, _⟩)
    · exact (hcall name hdefers).elim
    · exact hold

/-! ### Calls -/

theorem call_enter_running {policy : TriggerPolicy} {pending : Bool}
    (hgate : r.gate = ⟨.running, pending⟩) :
    r.call (.enter name policy) = match policy with
      | .drop => (r, .dropped)
      | .coalesce => ({ r with gate := ⟨.running, true⟩ }, .deferred) := by
  obtain ⟨gate, guards⟩ := r
  subst hgate
  cases policy <;> rfl

theorem call_enter_free {policy : TriggerPolicy} (hgate : r.gate = .new) :
    r.call (.enter name policy) =
      ((({ r with gate := ⟨.running, false⟩ } : GateRehearsal).giveUp name).keep name ⟨false⟩,
        .entered) := by
  obtain ⟨gate, guards⟩ := r
  subst hgate
  rfl

/-- A guard that nobody holds is given up without a trace on the gate. -/
theorem giveUp_unheld (h : r.holders = []) : (r.giveUp name).gate = r.gate := by
  cases hguard : r.guard? name with
  | none => simp only [giveUp, hguard]
  | some guard =>
    have hspent : guard.released = true := by
      have hmem := List.filter_eq_nil_iff.mp h _ (mem_guards hguard)
      simpa using hmem
    rw [gate_giveUp hguard]
    simp only [Guard.abandon, hspent, if_true]

theorem Sound.enter (h : Sound history r) (name : String) (policy : TriggerPolicy) :
    Sound (history ++ [(.enter name policy, (r.call (.enter name policy)).2)])
      (r.call (.enter name policy)).1 := by
  rcases h.held with ⟨hgate, hnone⟩ | ⟨holder, pending, hgate, hholder, howes⟩
  · -- a free gate is taken; an older guard of that name has given it back before
    rw [call_enter_free hgate]
    refine ⟨names_keep (names_giveUp h.names), .inr ⟨name, false, ?_, ?_, ?_⟩⟩
    · exact giveUp_unheld (r := { r with gate := ⟨.running, false⟩ }) hnone
    · have hothers : ({ r with gate := ⟨.running, false⟩ } : GateRehearsal).holders = [] := hnone
      rw [holders_keep, holders_giveUp, hothers]
      rfl
    · simp [owes_concat]
  · rw [call_enter_running hgate]
    cases policy with
    | drop => exact h.keeps h.names rfl rfl (by simp) (by simp)
    | coalesce =>
      refine ⟨h.names, .inr ⟨holder, true, rfl, hholder, ?_⟩⟩
      simp [owes_concat]

theorem Sound.finish (h : Sound history r) (name : String) :
    Sound (history ++ [(.finish name, (r.call (.finish name)).2)])
      (r.call (.finish name)).1 := by
  cases hguard : r.guard? name with
  | none =>
    simp only [call, hguard]
    exact h.keeps h.names rfl rfl (by simp) (by simp)
  | some guard =>
    obtain ⟨released⟩ := guard
    rw [call_finish hguard]
    have hnames := @names_keep { r with gate := ((⟨released⟩ : Guard).finish r.gate).gate } name
      ((⟨released⟩ : Guard).finish r.gate).guard h.names
    cases released with
    | true =>
      refine h.keeps hnames rfl ?_ (by simp) (by simp [finish_spent])
      exact holders_keep.trans (h.spent hguard)
    | false =>
      obtain ⟨pending, hgate, hholder, _⟩ := h.holder hguard
      have hothers : (r.holders.filter fun entry => entry.1 ≠ name) = [] := by
        rw [hholder]
        simp
      rw [hgate, finish_live] at hnames ⊢
      refine ⟨hnames, ?_⟩
      have hholders : ∀ gate : Gate, (({ r with gate } : GateRehearsal).keep name
          ⟨!pending⟩).holders = if !pending then [] else [(name, ⟨!pending⟩)] := by
        intro gate
        have hsame : ({ r with gate } : GateRehearsal).holders = r.holders := rfl
        rw [holders_keep, hsame, hothers, List.append_nil]
      rw [hholders]
      cases pending with
      | true => exact .inr ⟨name, false, rfl, rfl, by simp [owes_concat]⟩
      | false => exact .inl ⟨rfl, rfl⟩

theorem Sound.drop (h : Sound history r) (name : String) :
    Sound (history ++ [(.drop name, (r.call (.drop name)).2)]) (r.call (.drop name)).1 := by
  cases hguard : r.guard? name with
  | none =>
    simp only [call, hguard]
    exact h.keeps h.names rfl rfl (by simp) (by simp)
  | some guard =>
    obtain ⟨released⟩ := guard
    have hnames := @names_giveUp r name h.names
    have hgate := gate_giveUp hguard
    rw [call_drop hguard]
    cases released with
    | true => exact h.keeps hnames hgate (holders_giveUp.trans (h.spent hguard)) (by simp) (by simp)
    | false =>
      obtain ⟨pending, hrunning, hholder, _⟩ := h.holder hguard
      refine ⟨hnames, .inl ⟨?_, ?_⟩⟩
      · rw [hgate, hrunning, abandon_live]
      · rw [holders_giveUp, hholder]
        simp

theorem Sound.call (h : Sound history r) (call : GateCall) :
    Sound (history ++ [(call, (r.call call).2)]) (r.call call).1 := by
  cases call with
  | enter name policy => exact h.enter name policy
  | finish name => exact h.finish name
  | drop name => exact h.drop name

theorem sound_new : Sound [] new := ⟨List.nodup_nil, .inl ⟨rfl, rfl⟩⟩

theorem sound_after (calls : List GateCall) : Sound (new.history calls) (new.after calls) := by
  -- the history grows at its end, so the induction is on the calls from last to first
  induction calls using List.reverseRecOn with
  | nil => exact sound_new
  | append_singleton calls call ih =>
    rw [history_concat, after_concat]
    exact ih.call call

/-! ### Any sequence of calls -/

/-- What finishing and dropping do with a guard that is kept under this name. -/
structure Treats (r : GateRehearsal) (name : String) (guard : Guard) : Prop where
  /-- A guard that gave the gate back changes nothing. -/
  spent : guard.released = true →
    (r.call (.finish name)).2 = .finished false ∧ (r.call (.finish name)).1.gate = r.gate ∧
      (r.call (.finish name)).1.guard? name = some guard ∧
      (r.call (.drop name)).1.gate = r.gate
  /-- The holder goes on if a pass is owed, which it then is no more; otherwise it gives the gate
  back. -/
  finishes : guard.released = false →
    (r.call (.finish name)).2 = .finished r.gate.pending ∧
      (r.call (.finish name)).1.gate = ⟨if r.gate.pending then .running else .idle, false⟩ ∧
      (r.call (.finish name)).1.guard? name = some ⟨!r.gate.pending⟩
  drops : guard.released = false → (r.call (.drop name)).1.gate = ⟨.idle, false⟩
  others : ∀ other, other ≠ name →
    (r.call (.finish name)).1.guard? other = r.guard? other ∧
      (r.call (.drop name)).1.guard? other = r.guard? other
  /-- The gate never complains that it was idle already. -/
  quiet : (guard.finish r.gate).complaint = none ∧ (guard.abandon r.gate).2 = none

theorem Sound.treats (h : Sound history r) (hguard : r.guard? name = some guard) :
    r.Treats name guard := by
  obtain ⟨released⟩ := guard
  have hothers : ∀ other, other ≠ name →
      (r.call (.finish name)).1.guard? other = r.guard? other ∧
        (r.call (.drop name)).1.guard? other = r.guard? other := by
    intro other hother
    rw [call_finish hguard, call_drop hguard]
    exact ⟨guard?_keep_other hother, guard?_giveUp_other hother⟩
  have hgate := gate_giveUp hguard
  cases released with
  | true =>
    refine ⟨fun _ => ?_, by simp, by simp, hothers, rfl, rfl⟩
    rw [call_finish hguard, call_drop hguard]
    exact ⟨rfl, rfl, guard?_keep_self, hgate⟩
  | false =>
    obtain ⟨pending, hrunning, _, _⟩ := h.holder hguard
    refine ⟨by simp, fun _ => ?_, fun _ => ?_, hothers, ?_⟩
    · rw [call_finish hguard, hrunning, finish_live]
      exact ⟨rfl, rfl, guard?_keep_self⟩
    · rw [call_drop hguard, hgate, hrunning, abandon_live]
      rfl
    · rw [hrunning, finish_live, abandon_live]
      exact ⟨rfl, rfl⟩

/-- A guard whose name is taken by the next holder has given the gate back before. -/
theorem Sound.replaced (h : Sound history r) (hguard : r.guard? name = some guard)
    {policy : TriggerPolicy} {gate : Gate} {fresh : Guard}
    (henter : r.gate.enter policy = (gate, .entered fresh)) : (guard.abandon gate).2 = none := by
  obtain ⟨released⟩ := guard
  cases released with
  | true => rfl
  | false =>
    obtain ⟨pending, hrunning, _, _⟩ := h.holder hguard
    rw [hrunning] at henter
    cases policy <;> cases henter

theorem Sound.state (h : Sound history r) :
    r.holders.length ≤ 1 ∧ (r.gate.state = .running ↔ r.holders.length = 1) ∧
      (r.gate.pending = true → r.gate.state = .running) ∧
      (r.gate.pending = true ↔ r.gate.state = .running ∧ Owes history) := by
  rcases h.held with ⟨hgate, hholders⟩ | ⟨name, pending, hgate, hholders, howes⟩
  · simp [hgate, hholders, Gate.new]
  · simp [hgate, hholders, howes]

/-- After any calls on a gate, under either policy and on any guards: at most one guard has not
given the gate back, and the gate is taken if and only if one has not. One more pass is owed if and
only if the gate is taken and a request was deferred since the last one was let in and since the
last pass that was to be followed by another. A guard that gave the gate back changes nothing any
more; the holder goes on if and only if a pass is owed, and gives the gate back otherwise. No guard
gives back a gate that is idle, also one that is given up because another takes its name. -/
theorem gate_discipline (calls : List GateCall) :
    let r := new.after calls
    r.holders.length ≤ 1 ∧
    (r.gate.state = .running ↔ r.holders.length = 1) ∧
    (r.gate.pending = true → r.gate.state = .running) ∧
    (r.gate.pending = true ↔ r.gate.state = .running ∧ Owes (new.history calls)) ∧
    (∀ name guard, r.guard? name = some guard → r.Treats name guard) ∧
    ∀ name guard policy gate fresh, r.guard? name = some guard →
      r.gate.enter policy = (gate, .entered fresh) → (guard.abandon gate).2 = none := by
  intro r
  have hsound : Sound (new.history calls) r := sound_after calls
  obtain ⟨hone, hrunning, howed, howes⟩ := hsound.state
  exact ⟨hone, hrunning, howed, howes, fun _ _ hguard => hsound.treats hguard,
    fun _ _ _ _ _ hguard henter => hsound.replaced hguard henter⟩

/-- A debt does not outlast the guard that is dropped with it. -/
theorem debt_dropped_with_guard :
    ¬ ∀ calls, (new.after calls).gate.pending = true ↔ Owes (new.history calls) := by
  intro h
  have howes : Owes (new.history [.enter "a" .coalesce, .enter "b" .coalesce, .drop "a"]) :=
    ⟨[(.enter "a" .coalesce, .entered)], "b", .deferred, [(.drop "a", .released)],
      by decide +kernel, by decide, by decide⟩
  have hpending := (h _).mpr howes
  revert hpending
  decide +kernel

end GateRehearsal
end ReplicaSync
