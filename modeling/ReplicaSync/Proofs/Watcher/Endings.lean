import ReplicaSync.Proofs.Watcher.Stints

/-!
# The end of a watch

A stop, or a start that succeeds, ends the watch that is there, and the batch that it is still
collecting goes with it. So a change is reported if the quiet period of its batch is over by then,
and otherwise it is lost. Main statement: `changes_kept_to_the_end`.
-/

namespace ReplicaSync

namespace WatcherRehearsal

variable {debounce : Duration} {disk : Disk} {before during rest : List WatcherInstruction}
variable {root : Path} {ignored : List Path}

/-- The callbacks that are spawned with the number of a start are those of the watch that it made,
until that watch ends. -/
theorem mem_firings_iff :
    let earlier := (new debounce disk).after before
    let r := (earlier.carryOut (.start root ignored)).1
    earlier.faults = .none → r.keepsWatch during = true →
      (∀ next ∈ rest.head?, (r.after during).endsWatch next = true) →
        ∀ time, ⟨time, earlier.starts⟩ ∈
            (new debounce disk).firings (before ++ .start root ignored :: (during ++ rest)) ↔
          ⟨time, earlier.starts⟩ ∈ r.firings during := by
  intro earlier r hfaults hkeeps hends time
  have hnow : earlier.starts < (r.after during).starts := by
    refine Nat.lt_of_lt_of_le ?_ (starts_after r during)
    rw [(earlier.begun root ignored hfaults).2.2]
    exact Nat.lt_succ_self _
  have hbefore : ⟨time, earlier.starts⟩ ∉ (new debounce disk).firings before := fun hmem =>
    Nat.lt_irrefl _ (((numbered_new debounce disk).after before).2 _ hmem).2
  have hrest : ⟨time, earlier.starts⟩ ∉ (r.after during).firings rest := by
    cases rest with
    | nil => exact List.not_mem_nil
    | cons next rest =>
      have hended := hends next rfl
      rw [firings_cons, (carryOut_watchEnds hended).silent, List.nil_append]
      intro hmem
      have hlow := (((numbered_ended hended).after rest).2 _ hmem).1
      exact Nat.lt_irrefl _ (Nat.lt_of_lt_of_le hnow hlow)
  have hstart : (earlier.carryOut (.start root ignored)).2.firings = [] :=
    (earlier.start_outcome root ignored).1
  rw [firings_append, firings_cons, hstart, List.nil_append, firings_append, List.mem_append,
    List.mem_append]
  tauto

end WatcherRehearsal

/-- Whether a watch reports a change is settled when the watch ends. Every change that a watch takes
in belongs to a batch with a quiet period of its own. If the quiet period is over by the time at
which the watch is stopped or replaced, the callback is spawned behind the change, at the end of the
quiet period. If it is not, the watch never spawns its callback behind the change, whatever comes
later. -/
theorem changes_kept_to_the_end (debounce : Duration) (disk : Disk)
    (before during rest : List WatcherInstruction) (root : Path) (ignored : List Path) :
    let earlier := (WatcherRehearsal.new debounce disk).after before
    let r := (earlier.carryOut (.start root ignored)).1
    let firings := (WatcherRehearsal.new debounce disk).firings
      (before ++ .start root ignored :: (during ++ rest))
    earlier.faults = .none → r.keepsWatch during = true →
      (∀ next ∈ rest.head?, (r.after during).endsWatch next = true) →
        (cutAtGaps debounce.ticks (r.changes during)).flatten = r.changes during ∧
          ∀ batch ∈ cutAtGaps debounce.ticks (r.changes during), ∃ ending,
            quietEnd? debounce.ticks batch = some ending ∧
              (ending ≤ (r.after during).now → ⟨ending, earlier.starts⟩ ∈ firings) ∧
              ∀ time ∈ batch, time + debounce.ticks ≤ ending ∧
                ((r.after during).now < ending →
                  ∀ firing ∈ firings, firing.number = earlier.starts → firing.time ≤ time) := by
  intro earlier r firings hfaults hkeeps hends
  refine ⟨List.flatten_splitBy _ _, fun batch hbatch => ?_⟩
  have hmem : ∀ time, ⟨time, earlier.starts⟩ ∈ firings ↔
      time ∈ quietEnds debounce.ticks (r.changes during) ∧ time ≤ (r.after during).now := by
    intro time
    rw [WatcherRehearsal.mem_firings_iff hfaults hkeeps hends,
      WatcherRehearsal.firings_begun debounce disk before root ignored hfaults hkeeps,
      List.mem_map_of_injective fun _ _ heq => congrArg Firing.time heq, List.mem_filter,
      decide_eq_true_iff]
  have hsettled : r.IsSettled :=
    WatcherRehearsal.isSettled_of_due (earlier.begun root ignored hfaults).2.1
  have hsorted := (WatcherRehearsal.punctual_during hsettled hkeeps).sorted
  obtain ⟨ending, hover, hall⟩ := endsAt_cutAtGaps hsorted batch hbatch
  refine ⟨ending, hover, fun hby => ?_, fun time htime => ⟨(hall time htime).late, ?_⟩⟩
  · exact (hmem ending).mpr ⟨List.mem_filterMap.mpr ⟨batch, hbatch, hover⟩, hby⟩
  · intro hnot firing hfiring hown
    obtain ⟨hin, hby⟩ := (hmem firing.time).mp (by rw [← hown]; exact hfiring)
    -- a later callback would come at the end of a quiet period that is over
    by_contra hlater
    have hle := (hall time htime).first firing.time hin (Nat.lt_of_not_le hlater)
    omega

/-- A watch that took the place of another one reports its first change, and not its second one,
whose quiet period is cut short by a stop. -/
theorem changes_kept_to_the_end_replaced :
    let firings := (WatcherRehearsal.new (.ofMillis 100) ⟨[]⟩).firings
      [.start ⟨[Path.slash]⟩ [], .raw someChange, .advance 30, .start ⟨[Path.slash]⟩ [],
        .raw someChange, .advance 100, .raw someChange, .advance 50, .stop, .advance 100]
    ⟨130, 1⟩ ∈ firings ∧ ∀ firing ∈ firings, firing.number = 1 → firing.time ≤ 130 := by
  have hbatches := (changes_kept_to_the_end (.ofMillis 100) ⟨[]⟩
    [.start ⟨[Path.slash]⟩ [], .raw someChange, .advance 30]
    [.raw someChange, .advance 100, .raw someChange, .advance 50] [.stop, .advance 100]
    ⟨[Path.slash]⟩ [] (by decide +kernel) (by decide +kernel)
    (fun next hnext => by cases hnext; rfl)).2
  obtain ⟨first, hfirst, hkept, -⟩ := hbatches [30] (by decide +kernel)
  obtain ⟨second, hsecond, -, hlost⟩ := hbatches [130] (by decide +kernel)
  have hfirst : first = 130 := (Option.some.inj hfirst).symm
  have hsecond : second = 230 := (Option.some.inj hsecond).symm
  subst hfirst hsecond
  exact ⟨hkept (by decide +kernel), (hlost 130 (by decide +kernel)).2 (by decide +kernel)⟩

/-- A change that was taken in, and that nothing ever reports. -/
theorem change_lost_at_the_end :
    ((WatcherRehearsal.new (.ofMillis 100) ⟨[]⟩).carryOut (.start ⟨[Path.slash]⟩ [])).1.changes
        [.raw someChange] = [0] ∧
      (WatcherRehearsal.new (.ofMillis 100) ⟨[]⟩).firings
        [.start ⟨[Path.slash]⟩ [], .raw someChange, .stop, .advance 100] = [] := by
  decide +kernel

end ReplicaSync
