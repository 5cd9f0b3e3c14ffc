import ReplicaSync.Proofs.Coordinator.Cadence
import ReplicaSync.Proofs.Coordinator.EventGrammar
import ReplicaSync.Proofs.Coordinator.Story

/-!
# Announcements of changes

A pass announces a change if and only if announcements are enabled and its push uploaded a file
that is new, changed or deleted. It announces once, after it told that it was completed, and tells
of the announcement if and only if the channel took it. Main statement: `announces_changes`.
-/

namespace ReplicaSync

/-! ### Passes that upload something -/

/-- The pull went well, and the push applied changes with a file that is new, changed or
deleted. -/
def Uploads (answers : List Answer) : Prop :=
  ∃ pull push rest, answers = .pulled (.ok pull) :: .pushed (.ok push) :: rest ∧
    push.code = .appliedChanges ∧
    (push.changes.newFiles ≠ [] ∨ push.changes.changedFiles ≠ [] ∨
      push.changes.deletedFiles ≠ [])

/-- The act announces a change, or tells that one was announced. -/
def Act.announces : Act → Bool
  | .call (.announce _ _) | .publish (.sync (.announced _)) => true
  | _ => false

theorem PushResult.uploaded_iff (push : PushResult) :
    push.uploaded = true ↔ push.code = .appliedChanges ∧
      (push.changes.newFiles ≠ [] ∨ push.changes.changedFiles ≠ [] ∨
        push.changes.deletedFiles ≠ []) := by
  simp only [PushResult.uploaded, ChangeSet.hasChanges, Bool.and_eq_true, Bool.or_eq_true,
    Bool.not_eq_true', List.isEmpty_eq_false_iff, decide_eq_true_eq, or_assoc]

theorem uploads_cons_iff {pull : PullResult} {push : PushResult} {rest : List Answer} :
    Uploads (.pulled (.ok pull) :: .pushed (.ok push) :: rest) ↔ push.uploaded = true := by
  rw [PushResult.uploaded_iff]
  constructor
  · rintro ⟨_, _, _, heq, hcode, hfiles⟩
    cases heq
    exact ⟨hcode, hfiles⟩
  · rintro ⟨hcode, hfiles⟩
    exact ⟨pull, push, rest, rfl, hcode, hfiles⟩

theorem not_uploads_of_pulled {pull : Except AdapterError PullResult} :
    ¬ Uploads [.pulled pull] := by
  rintro ⟨_, _, _, heq, _⟩
  cases heq

theorem not_uploads_of_pushFailed {pull : PullResult} {cause : AdapterError} :
    ¬ Uploads [.pulled (.ok pull), .pushed (.error cause)] := by
  rintro ⟨_, _, _, heq, _⟩
  cases heq

/-! ### Announcements in the story of a pass -/

/-- What a pass did when it calls the announcement. -/
def announcing (coordinator : Coordinator) (passId : Nat) : List Act :=
  [.call .pull, .call .push, .event (.completed passId true 0),
    .call (.announce coordinator.config.channelKey Flight.changeMarker)]

section Stories

variable {coordinator : Coordinator} {passId : Nat} {answers : List Answer} {deeds : List Act}

/-- A pass that uploads something with a channel at hand announces it once. -/
theorem PassStory.of_uploads (h : PassStory coordinator passId answers deeds)
    (hchannel : coordinator.hasChannel = true) (huploads : Uploads answers) :
    .replied (.ok ()) ∈ answers ∧
        deeds = announcing coordinator passId ++
          [.event (.announced coordinator.config.channelKey)] ∨
      .replied (.ok ()) ∉ answers ∧ deeds = announcing coordinator passId := by
  cases h with
  | waits stage _ _ hreaches =>
    cases hreaches with
    | pulling | pushing => obtain ⟨_, _, _, heq, _⟩ := huploads; cases heq
    | announcing pull push => exact .inr ⟨by simp, rfl⟩
  | ended stage before _ answer events last error hreaches hverdict =>
    cases hreaches with
    | pulling => cases hverdict with
      | pullFailed => exact (not_uploads_of_pulled huploads).elim
    | pushing pull =>
      cases hverdict with
      | pushFailed => exact (not_uploads_of_pushFailed huploads).elim
      | unchanged push hnone =>
        rw [uploads_cons_iff.mp huploads] at hnone
        cases hnone
      | changed push _ hno =>
        -- with a channel at hand a change is not told without announcing it
        rw [hchannel] at hno
        cases hno
    | announcing pull push =>
      cases hverdict with
      | announced => exact .inl ⟨by simp, rfl⟩
      | unannounced cause => exact .inr ⟨by simp, rfl⟩

/-- Any other pass announces nothing. -/
theorem PassStory.of_not_uploads (h : PassStory coordinator passId answers deeds)
    (hnone : ¬ (coordinator.hasChannel = true ∧ Uploads answers)) :
    deeds.filter Act.announces = [] := by
  cases h with
  | waits stage _ _ hreaches =>
    cases hreaches with
    | pulling | pushing => rfl
    | announcing pull push huploaded hchannel =>
      exact (hnone ⟨hchannel, uploads_cons_iff.mpr huploaded⟩).elim
  | ended stage before _ answer events last error hreaches hverdict =>
    cases hreaches with
    | pulling => cases hverdict; rfl
    | pushing pull => cases hverdict <;> rfl
    | announcing pull push huploaded hchannel =>
      exact (hnone ⟨hchannel, uploads_cons_iff.mpr huploaded⟩).elim

end Stories

/-! ### Runs -/

/-- A coordinator has a channel if and only if announcements are enabled, whatever it is given. -/
theorem Coordinator.build_ok {config : WatchConfig} {watcher channel : Bool}
    {coordinator : Coordinator} {records : List LogRecord}
    (h : Coordinator.build config watcher channel = .ok (coordinator, records)) :
    coordinator.config = config ∧ coordinator.hasChannel = config.announces := by
  unfold Coordinator.build at h
  split at h
  · cases h
  · unfold WatchConfig.announces
    split at h <;> cases h <;> simp [*]

/-- What a pass does, given the answers that it heard, as far as announcements go. -/
structure AnnouncesChanges (config : WatchConfig) (passId : Nat) (answers : List Answer)
    (deeds : List Act) : Prop where
  /-- The channel took the announcement. -/
  taken : config.announces = true → Uploads answers → .replied (.ok ()) ∈ answers →
    deeds = [.call .pull, .call .push, .event (.completed passId true 0),
      .call (.announce config.repository.toHex "1"),
      .event (.announced config.repository.toHex)]
  /-- The channel refused the announcement, or has not answered. -/
  untaken : config.announces = true → Uploads answers → .replied (.ok ()) ∉ answers →
    deeds = [.call .pull, .call .push, .event (.completed passId true 0),
      .call (.announce config.repository.toHex "1")]
  /-- There is nothing to announce, or announcements are disabled. -/
  silent : ¬ (config.announces = true ∧ Uploads answers) → deeds.filter Act.announces = []

/-- In every run of a coordinator that was built, with a channel or without one, every pass has its
page in the log book, from its beginning to that of the next pass, and everything that passes do is
on these pages; and each pass announces its change as the configuration and the answers that it
heard demand. -/
theorem announces_changes {config : WatchConfig} {watcher channel : Bool}
    {coordinator : Coordinator} {records : List LogRecord}
    (hbuild : Coordinator.build config watcher channel = .ok (coordinator, records))
    (resolve : Option (Path → Option Path)) (bus : EventBus) (moves : List Move) :
    let start := World.new coordinator resolve bus
    let notes := (start.run moves).2
    (logBook notes).map PassLog.number = (startedPasses notes).reverse ∧
      passDeeds notes = (logBook notes).reverse.flatMap PassLog.deeds ∧
      ∀ page ∈ logBook notes, AnnouncesChanges config page.number
        (answersOf page.number (start.answered moves)) page.deeds := by
  intro start notes
  obtain ⟨hdeeds, hpages⟩ := World.stories_run coordinator resolve bus moves
  obtain ⟨rfl, hchannel⟩ := Coordinator.build_ok hbuild
  refine ⟨logBook_numbers notes, hdeeds, fun page hpage => ?_⟩
  have hstory : PassStory coordinator page.number _ page.deeds := hpages page hpage
  constructor
  · intro hannounces huploads htaken
    rcases hstory.of_uploads (hchannel.trans hannounces) huploads with ⟨_, h⟩ | ⟨hnone, _⟩
    · exact h
    · exact (hnone htaken).elim
  · intro hannounces huploads huntaken
    rcases hstory.of_uploads (hchannel.trans hannounces) huploads with ⟨htaken, _⟩ | ⟨_, h⟩
    · exact (huntaken htaken).elim
    · exact h
  · rw [← hchannel]
    exact hstory.of_not_uploads

/-- A configuration under which changes are announced. -/
def WatchConfig.announcing : WatchConfig :=
  { (Coordinator.withInterval (.ofMillis 1000)).config with announcements := some ⟨"hub", 1883⟩ }

theorem announces_changes_once :
    let start := World.new ⟨.announcing, false, true⟩ none (.new .standard)
    let moves : List Move := [.start (.request .timer) false, .answer 0 (.pulled (.ok .noChanges)),
      .answer 0 (.pushed (.ok ⟨.appliedChanges, ⟨["a"], [], [], []⟩⟩)),
      .answer 0 (.replied (.ok ()))]
    Coordinator.build .announcing false true = .ok (⟨.announcing, false, true⟩, []) ∧
      ∃ page ∈ logBook (start.run moves).2, page.deeds =
        [.call .pull, .call .push, .event (.completed 1 true 0), .call (.announce "ab" "1"),
          .event (.announced "ab")] := by
  intro start moves
  have hbuild : Coordinator.build .announcing false true =
      .ok (⟨.announcing, false, true⟩, []) := by rfl
  obtain ⟨page, hpage, hnumber⟩ :
      ∃ page, page ∈ logBook (start.run moves).2 ∧ page.number = 1 :=
    ⟨_, List.mem_cons_self, rfl⟩
  have hanswers : answersOf 1 (start.answered moves) =
      [.pulled (.ok .noChanges), .pushed (.ok ⟨.appliedChanges, ⟨["a"], [], [], []⟩⟩),
        .replied (.ok ())] := by rfl
  have hchanges := (announces_changes hbuild none (.new .standard) moves).2.2 page hpage
  rw [hnumber, hanswers] at hchanges
  refine ⟨hbuild, page, hpage, hchanges.taken rfl ?_ (by simp)⟩
  exact uploads_cons_iff.mpr rfl

end ReplicaSync
