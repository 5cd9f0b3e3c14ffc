import ReplicaSync.Coordinator.Basic
import ReplicaSync.Proofs.Config.LastSettings
import ReplicaSync.Proofs.Identity.Codec

/-!
# Which settings are accepted

What becomes of settings depends on the last one of each kind alone, so settings of different kinds
may be given in any order, and one that is replaced does no harm. Settings are accepted exactly if
nothing is wrong with the last ones; of several faults the one that comes first is reported. What
was accepted is accepted again, and lacks nothing to build a coordinator from it but a channel for
announcements. Main statement: `settings_accepted`.
-/

namespace ReplicaSync

/-! ### Faults -/

/-- What can be wrong with settings. -/
inductive Complains (settings : List Setting) : SetupError → Prop where
  | localDirMissing (h : lastOf .localDir settings = none) :
    Complains settings (.config .localDirMissing)
  | repositoryMissing (h : lastOf .repository settings = none) :
    Complains settings (.config .repositoryMissing)
  | repositoryInvalid {setting : Setting} {fault : IdentityFault}
    (h : lastOf .repository settings = some setting)
    (hfault : setting.identity? = some (.error fault)) : Complains settings (.identity fault)
  | localDirEmpty (h : lastOf .localDir settings = some (.localDir ⟨[]⟩)) :
    Complains settings (.config .localDirEmpty)
  | intervalZero {setting : Setting} {span : Duration}
    (h : lastOf .interval settings = some setting) (hspan : setting.span? = some span)
    (hzero : span.isZero = true) : Complains settings (.config .intervalZero)
  | hostBlank {setting : Setting} {endpoint : Endpoint}
    (h : lastOf .announcements settings = some setting)
    (hendpoint : setting.endpoint? = some endpoint)
    (hblank : Text.isBlankText endpoint.host = true) : Complains settings (.config .hostBlank)
  | portZero {setting : Setting} {endpoint : Endpoint}
    (h : lastOf .announcements settings = some setting)
    (hendpoint : setting.endpoint? = some endpoint) (hzero : endpoint.port = 0) :
    Complains settings (.config .portZero)

/-- The place of a fault in the order in which faults are reported. -/
def SetupError.place : SetupError → Nat
  | .config .localDirMissing => 0
  | .config .repositoryMissing => 1
  | .identity _ => 2
  | .config .localDirEmpty => 3
  | .config .intervalZero => 4
  | .config .hostBlank => 5
  | .config .portZero => 6
  | _ => 7

namespace Draft

/-- The same faults, read off a draft. -/
def HasFault (draft : Draft) : SetupError → Prop
  | .config .localDirMissing => draft.localDir = none
  | .config .repositoryMissing => draft.repository = none
  | .identity fault => draft.repository = some (.error fault)
  | .config .localDirEmpty => draft.localDir = some ⟨[]⟩
  | .config .intervalZero => ∃ span, draft.interval = some span ∧ span.isZero = true
  | .config .hostBlank =>
    ∃ endpoint, draft.announcements = some endpoint ∧ Text.isBlankText endpoint.host = true
  | .config .portZero => ∃ endpoint, draft.announcements = some endpoint ∧ endpoint.port = 0
  | _ => False

variable {draft : Draft} {settings : List Setting} {localDir : Path} {repository : Identity}
  {fault : SetupError}

theorem isZero_fill (draft : Draft) (localDir : Path) (repository : Identity) :
    (draft.fill localDir repository).interval.isZero = true ↔
      ∃ span, draft.interval = some span ∧ span.isZero = true := by
  cases hinterval : draft.interval with
  | none => simp [fill, hinterval, defaultInterval, Duration.ofMillis, Duration.isZero]
  | some span => simp [fill, hinterval]

/-- Where each fault stands, and what it says of the draft. -/
theorem HasFault.place_cases (h : draft.HasFault fault) :
    fault.place = 0 ∧ fault = .config .localDirMissing ∧ draft.localDir = none ∨
    fault.place = 1 ∧ fault = .config .repositoryMissing ∧ draft.repository = none ∨
    fault.place = 2 ∧ (∃ cause, fault = .identity cause ∧
      draft.repository = some (.error cause)) ∨
    fault.place = 3 ∧ fault = .config .localDirEmpty ∧ draft.localDir = some ⟨[]⟩ ∨
    fault.place = 4 ∧ fault = .config .intervalZero ∧
      (∃ span, draft.interval = some span ∧ span.isZero = true) ∨
    fault.place = 5 ∧ fault = .config .hostBlank ∧
      (∃ endpoint, draft.announcements = some endpoint ∧
        Text.isBlankText endpoint.host = true) ∨
    fault.place = 6 ∧ fault = .config .portZero ∧
      (∃ endpoint, draft.announcements = some endpoint ∧ endpoint.port = 0) := by
  cases fault with
  | config cause => cases cause <;> simp_all [HasFault, SetupError.place]
  | identity cause => simp_all [HasFault, SetupError.place]
  | internal text => exact h.elim

/-- A configuration that is filled in is refused for the first fault in its values. -/
theorem validate_fill {cause : ConfigFault}
    (h : (draft.fill localDir repository).validate = .error cause)
    (hlocalDir : draft.localDir = some localDir)
    (hrepository : draft.repository = some (.ok repository)) :
    draft.HasFault (.config cause) ∧
      ∀ other, draft.HasFault other → (SetupError.config cause).place ≤ other.place := by
  unfold WatchConfig.validate at h
  -- every fault of an earlier place is ruled out by what the draft holds or by an earlier check
  split at h
  · rename_i hempty
    cases h
    have hbytes : localDir = ⟨[]⟩ := congrArg Path.mk hempty
    refine ⟨hlocalDir.trans (congrArg some hbytes), fun other hother => ?_⟩
    have hcases := hother.place_cases
    show 3 ≤ other.place
    grind
  · rename_i hfull
    have hlocal : draft.localDir ≠ some ⟨[]⟩ := by
      rw [hlocalDir]
      rintro ⟨⟩
      exact hfull rfl
    split at h
    · rename_i hzero
      cases h
      refine ⟨(isZero_fill _ _ _).mp hzero, fun other hother => ?_⟩
      have hcases := hother.place_cases
      show 4 ≤ other.place
      grind
    · rename_i hpositive
      rw [isZero_fill] at hpositive
      split at h
      · rename_i endpoint hendpoint
        have hendpoint : draft.announcements = some endpoint := hendpoint
        unfold Endpoint.validate at h
        split at h
        · rename_i hblank
          cases h
          refine ⟨⟨endpoint, hendpoint, hblank⟩, fun other hother => ?_⟩
          have hcases := hother.place_cases
          show 5 ≤ other.place
          grind
        · rename_i hhost
          split at h
          · rename_i hport
            cases h
            refine ⟨⟨endpoint, hendpoint, hport⟩, fun other hother => ?_⟩
            have hcases := hother.place_cases
            show 6 ≤ other.place
            grind
          · cases h
      · cases h

/-- A draft is refused for the first of its faults. -/
theorem build_error (h : draft.build = .error fault) :
    draft.HasFault fault ∧ ∀ other, draft.HasFault other → fault.place ≤ other.place := by
  unfold build at h
  split at h
  · rename_i hlocalDir
    cases h
    exact ⟨hlocalDir, fun other _ => Nat.zero_le _⟩
  · rename_i hlocalDir hrepository
    cases h
    refine ⟨hrepository, fun other hother => ?_⟩
    have hcases := hother.place_cases
    show 1 ≤ other.place
    grind
  · rename_i hlocalDir hrepository
    cases h
    refine ⟨hrepository, fun other hother => ?_⟩
    have hcases := hother.place_cases
    show 2 ≤ other.place
    grind
  · rename_i localDir repository hlocalDir hrepository
    simp only at h
    split at h
    · cases h
    · rename_i hvalid
      cases h
      exact validate_fill hvalid hlocalDir hrepository

theorem HasFault.eq_of_place {other : SetupError} (h : draft.HasFault fault)
    (hother : draft.HasFault other) (hplace : fault.place = other.place) : fault = other := by
  have hcases := hother.place_cases
  rcases h.place_cases with h | h | h | h | h | h | h <;> grind

theorem no_fault_of_build {config : WatchConfig} (h : draft.build = .ok config) :
    ¬ draft.HasFault fault := by
  intro hfault
  obtain ⟨localDir, repository, hlocalDir, hrepository, rfl, hvalid⟩ := build_ok h
  have hinterval := isZero_fill draft localDir repository
  have hannouncements : (draft.fill localDir repository).announcements = draft.announcements := rfl
  have hdir : (draft.fill localDir repository).localDir = localDir := rfl
  have hcases := hfault.place_cases
  unfold WatchConfig.validate Endpoint.validate at hvalid
  grind

/-- The faults that are reported are the first ones. -/
theorem build_error_iff : draft.build = .error fault ↔
    draft.HasFault fault ∧ ∀ other, draft.HasFault other → fault.place ≤ other.place := by
  refine ⟨build_error, fun ⟨hfault, hfirst⟩ => ?_⟩
  cases hbuild : draft.build with
  | ok config => exact (no_fault_of_build hbuild hfault).elim
  | error cause =>
    obtain ⟨hcause, hleast⟩ := build_error hbuild
    have hplace : cause.place = fault.place :=
      Nat.le_antisymm (hleast fault hfault) (hfirst cause hcause)
    rw [hcause.eq_of_place hfault hplace]

theorem localDir_eq_none_iff :
    (ofSettings settings).localDir = none ↔ lastOf .localDir settings = none := by
  rw [localDir_ofSettings, Option.bind_eq_none_iff]
  refine ⟨fun h => ?_, fun h setting hlast => by rw [h] at hlast; cases hlast⟩
  cases hlast : lastOf .localDir settings with
  | none => rfl
  | some setting => exact (Setting.path?_ne_none (kind_of_lastOf hlast) (h setting hlast)).elim

theorem repository_eq_none_iff :
    (ofSettings settings).repository = none ↔ lastOf .repository settings = none := by
  rw [repository_ofSettings, Option.bind_eq_none_iff]
  refine ⟨fun h => ?_, fun h setting hlast => by rw [h] at hlast; cases hlast⟩
  cases hlast : lastOf .repository settings with
  | none => rfl
  | some setting => exact (Setting.identity?_ne_none (kind_of_lastOf hlast) (h setting hlast)).elim

/-- What is wrong with settings is what is wrong with the draft that they leave. -/
theorem hasFault_ofSettings_iff :
    (ofSettings settings).HasFault fault ↔ Complains settings fault := by
  constructor
  · intro h
    rcases h.place_cases with ⟨_, rfl, h⟩ | ⟨_, rfl, h⟩ | ⟨_, cause, rfl, hcause⟩ | ⟨_, rfl, h⟩ |
      ⟨_, rfl, span, h, hzero⟩ | ⟨_, rfl, endpoint, h, hblank⟩ | ⟨_, rfl, endpoint, h, hport⟩
    · exact .localDirMissing (localDir_eq_none_iff.mp h)
    · exact .repositoryMissing (repository_eq_none_iff.mp h)
    · rw [repository_ofSettings, Option.bind_eq_some_iff] at hcause
      obtain ⟨setting, hlast, hcause⟩ := hcause
      exact .repositoryInvalid hlast hcause
    · exact .localDirEmpty (localDir_eq_some_iff.mp h)
    · rw [interval_ofSettings, Option.bind_eq_some_iff] at h
      obtain ⟨setting, hlast, hspan⟩ := h
      exact .intervalZero hlast hspan hzero
    · rw [announcements_ofSettings, Option.bind_eq_some_iff] at h
      obtain ⟨setting, hlast, hendpoint⟩ := h
      exact .hostBlank hlast hendpoint hblank
    · rw [announcements_ofSettings, Option.bind_eq_some_iff] at h
      obtain ⟨setting, hlast, hendpoint⟩ := h
      exact .portZero hlast hendpoint hport
  · intro h
    cases h with
    | localDirMissing h => exact localDir_eq_none_iff.mpr h
    | repositoryMissing h => exact repository_eq_none_iff.mpr h
    | repositoryInvalid h hfault =>
      exact repository_ofSettings.trans (Option.bind_eq_some_iff.mpr ⟨_, h, hfault⟩)
    | localDirEmpty h => exact localDir_eq_some_iff.mpr h
    | intervalZero h hspan hzero =>
      exact ⟨_, interval_ofSettings.trans (Option.bind_eq_some_iff.mpr ⟨_, h, hspan⟩), hzero⟩
    | hostBlank h hendpoint hblank =>
      exact ⟨_, announcements_ofSettings.trans
        (Option.bind_eq_some_iff.mpr ⟨_, h, hendpoint⟩), hblank⟩
    | portZero h hendpoint hport =>
      exact ⟨_, announcements_ofSettings.trans
        (Option.bind_eq_some_iff.mpr ⟨_, h, hendpoint⟩), hport⟩

end Draft

/-! ### Accepted settings -/

/-- The identity is there and not empty; in hexadecimal form it consists of digits, two to a
byte. -/
inductive Setting.GivesIdentity : Setting → Prop where
  | identity {id : Identity} : GivesIdentity (.repository id)
  | bytes {bytes : List UInt8} (h : bytes ≠ []) : GivesIdentity (.repositoryBytes bytes)
  | hex {text : String} (hne : text ≠ "") (heven : text.toUTF8.toList.length % 2 = 0)
    (hdigits : ∀ b ∈ text.toUTF8.toList, Hex.IsDigit b) : GivesIdentity (.repositoryHex text)

inductive Setting.GivesTime : Setting → Prop where
  | span {span : Duration} (h : 0 < span.secs ∨ 0 < span.nanos) : GivesTime (.interval span)
  | millis {ms : Nat} (h : 0 < ms) : GivesTime (.intervalMillis ms)

structure Endpoint.IsUsable (endpoint : Endpoint) : Prop where
  host : ∃ c ∈ endpoint.host.toList, Text.isBlank c = false
  port : endpoint.port ≠ 0

/-- What settings have to be like. -/
structure Acceptable (settings : List Setting) : Prop where
  localDir : ∃ path, lastOf .localDir settings = some (.localDir path) ∧ path.bytes ≠ []
  repository : ∃ setting, lastOf .repository settings = some setting ∧ setting.GivesIdentity
  interval : ∀ setting, lastOf .interval settings = some setting → setting.GivesTime
  announcements : ∀ setting, lastOf .announcements settings = some setting →
    ∀ endpoint, setting.endpoint? = some endpoint → endpoint.IsUsable

section Accepted

variable {settings : List Setting} {setting : Setting} {fault : SetupError}

theorem Setting.givesIdentity_iff :
    setting.GivesIdentity ↔ ∃ id, setting.identity? = some (.ok id) := by
  constructor
  · intro h
    cases h with
    | identity => exact ⟨_, rfl⟩
    | bytes h => exact ⟨_, congrArg some (Identity.ofBytes_of_ne_nil h)⟩
    | hex hne heven hdigits =>
      obtain ⟨id, hread⟩ := Identity.ofHex_ok_iff.mpr ⟨hne, heven, hdigits⟩
      exact ⟨id, congrArg some hread⟩
  · rintro ⟨id, h⟩
    cases setting with
    | repository => exact .identity
    | repositoryBytes bytes =>
      refine .bytes ?_
      rintro rfl
      cases h
    | repositoryHex text =>
      obtain ⟨hne, heven, hdigits⟩ := Identity.ofHex_ok_iff.mp ⟨id, Option.some.inj h⟩
      exact .hex hne heven hdigits
    | _ => cases h

theorem isZero_eq_false_iff {span : Duration} :
    span.isZero = false ↔ 0 < span.secs ∨ 0 < span.nanos := by
  simp only [Duration.isZero, Bool.and_eq_false_iff, decide_eq_false_iff_not]
  omega

theorem Setting.givesTime_iff :
    setting.GivesTime ↔ ∃ span, setting.span? = some span ∧ span.isZero = false := by
  have hmillis : ∀ ms, (Duration.ofMillis ms).isZero = false ↔ 0 < ms := by
    intro ms
    rw [isZero_eq_false_iff]
    show 0 < ms / 1000 ∨ 0 < ms % 1000 * 1000000 ↔ 0 < ms
    omega
  constructor
  · intro h
    cases h with
    | span h => exact ⟨_, rfl, isZero_eq_false_iff.mpr h⟩
    | millis h => exact ⟨_, rfl, (hmillis _).mpr h⟩
  · rintro ⟨span, h, hpositive⟩
    cases setting with
    | interval span =>
      cases h
      exact .span (isZero_eq_false_iff.mp hpositive)
    | intervalMillis ms =>
      cases h
      exact .millis ((hmillis ms).mp hpositive)
    | _ => cases h

theorem Endpoint.isUsable_iff {endpoint : Endpoint} : endpoint.IsUsable ↔
    Text.isBlankText endpoint.host = false ∧ endpoint.port ≠ 0 := by
  constructor
  · rintro ⟨⟨c, hc, hblank⟩, hport⟩
    exact ⟨List.all_eq_false.mpr ⟨c, hc, by simp [hblank]⟩, hport⟩
  · rintro ⟨hhost, hport⟩
    obtain ⟨c, hc, hblank⟩ := List.all_eq_false.mp hhost
    exact ⟨⟨c, hc, by simpa using hblank⟩, hport⟩

/-- Settings are as they have to be if nothing is wrong with them. -/
theorem acceptable_iff : Acceptable settings ↔ ∀ fault, ¬ Complains settings fault := by
  constructor
  · rintro ⟨⟨path, hpath, hne⟩, ⟨setting, hsetting, hidentity⟩, hinterval, hannouncements⟩ fault h
    cases h with
    | localDirMissing h => simp [h] at hpath
    | repositoryMissing h => simp [h] at hsetting
    | repositoryInvalid h hfault =>
      rw [h] at hsetting
      cases hsetting
      obtain ⟨id, hid⟩ := Setting.givesIdentity_iff.mp hidentity
      rw [hid] at hfault
      cases hfault
    | localDirEmpty h =>
      rw [h] at hpath
      cases hpath
      exact hne rfl
    | intervalZero h hspan hzero =>
      obtain ⟨span, hspan', hpositive⟩ := Setting.givesTime_iff.mp (hinterval _ h)
      grind
    | hostBlank h hendpoint hblank =>
      have := (Endpoint.isUsable_iff.mp (hannouncements _ h _ hendpoint)).1
      grind
    | portZero h hendpoint hzero =>
      exact (hannouncements _ h _ hendpoint).port hzero
  · intro h
    refine ⟨?_, ?_, fun setting hlast => ?_, fun setting hlast endpoint hendpoint => ?_⟩
    · cases hlast : lastOf .localDir settings with
      | none => exact (h _ (.localDirMissing hlast)).elim
      | some setting =>
        have hkind := kind_of_lastOf hlast
        cases setting with
        | localDir path =>
          refine ⟨path, rfl, fun hempty => ?_⟩
          have hpath : path = ⟨[]⟩ := congrArg Path.mk hempty
          exact h _ (.localDirEmpty (hpath ▸ hlast))
        | _ => cases hkind
    · cases hlast : lastOf .repository settings with
      | none => exact (h _ (.repositoryMissing hlast)).elim
      | some setting =>
        refine ⟨setting, rfl, Setting.givesIdentity_iff.mpr ?_⟩
        cases hidentity : setting.identity? with
        | none => exact (Setting.identity?_ne_none (kind_of_lastOf hlast) hidentity).elim
        | some result =>
          cases result with
          | ok id => exact ⟨id, rfl⟩
          | error fault => exact (h _ (.repositoryInvalid hlast hidentity)).elim
    · refine Setting.givesTime_iff.mpr ?_
      cases hspan : setting.span? with
      | none => exact (Setting.span?_ne_none (kind_of_lastOf hlast) hspan).elim
      | some span =>
        refine ⟨span, rfl, ?_⟩
        cases hzero : span.isZero with
        | false => rfl
        | true => exact (h _ (.intervalZero hlast hspan hzero)).elim
    · refine Endpoint.isUsable_iff.mpr ⟨?_, fun hport => h _ (.portZero hlast hendpoint hport)⟩
      cases hblank : Text.isBlankText endpoint.host with
      | false => rfl
      | true => exact (h _ (.hostBlank hlast hendpoint hblank)).elim

end Accepted

namespace WatchConfig

variable {settings : List Setting} {config : WatchConfig} {fault : SetupError}

theorem ofSettings_eq_of_last {one other : List Setting}
    (h : ∀ kind, lastOf kind one = lastOf kind other) : ofSettings one = ofSettings other := by
  rw [ofSettings, ofSettings, ReplicaSync.ofSettings_eq_of_last h]

theorem ofSettings_error_iff : ofSettings settings = .error fault ↔
    Complains settings fault ∧ ∀ other, Complains settings other → fault.place ≤ other.place := by
  simp only [← Draft.hasFault_ofSettings_iff]
  exact Draft.build_error_iff

theorem ofSettings_ok_iff : (∃ config, ofSettings settings = .ok config) ↔ Acceptable settings := by
  rw [acceptable_iff]
  constructor
  · rintro ⟨config, hbuild⟩ fault hfault
    exact Draft.no_fault_of_build hbuild (Draft.hasFault_ofSettings_iff.mpr hfault)
  · intro hnone
    cases hbuild : ofSettings settings with
    | ok config => exact ⟨config, rfl⟩
    | error fault => exact (hnone fault (ofSettings_error_iff.mp hbuild).1).elim

/-- What is wrong with a configuration that is accepted: its announcements lack a channel. -/
theorem build_coordinator (hvalid : config.validate = .ok ()) (watcher channel : Bool) :
    ((∃ error, Coordinator.build config watcher channel = .error error) ↔
      config.announces = true ∧ channel = false) ∧
    ∀ endpoint, config.announcements = some endpoint →
      Coordinator.build config watcher false =
        .error (.config (.channelMissing endpoint.address)) := by
  unfold Coordinator.build announces
  rw [hvalid]
  cases config.announcements with
  | none => cases channel <;> simp
  | some endpoint => cases channel <;> simp

end WatchConfig

/-- The outcome depends on the last setting of each kind alone: neighbours of different kinds may
change places, and a setting does not count if another of its kind follows, whatever it holds.
Settings are accepted if and only if the last ones are as they have to be, and otherwise the first
fault is reported. An accepted configuration is accepted again, and a coordinator is built from it
unless it announces changes and there is no channel. -/
theorem settings_accepted :
    (∀ one other, (∀ kind, lastOf kind one = lastOf kind other) →
      WatchConfig.ofSettings one = WatchConfig.ofSettings other) ∧
    (∀ before one other after, one.kind ≠ other.kind →
      WatchConfig.ofSettings (before ++ one :: other :: after) =
        WatchConfig.ofSettings (before ++ other :: one :: after)) ∧
    (∀ before one between other after, one.kind = other.kind →
      WatchConfig.ofSettings (before ++ one :: (between ++ other :: after)) =
        WatchConfig.ofSettings (before ++ (between ++ other :: after))) ∧
    (∀ settings, (∃ config, WatchConfig.ofSettings settings = .ok config) ↔ Acceptable settings) ∧
    (∀ settings fault, WatchConfig.ofSettings settings = .error fault ↔
      Complains settings fault ∧
        ∀ other, Complains settings other → fault.place ≤ other.place) ∧
    ∀ settings config, WatchConfig.ofSettings settings = .ok config →
      config.validate = .ok () ∧ ∀ watcher channel,
        ((∃ error, Coordinator.build config watcher channel = .error error) ↔
          config.announces = true ∧ channel = false) ∧
        ∀ endpoint, config.announcements = some endpoint →
          Coordinator.build config watcher false =
            .error (.config (.channelMissing endpoint.address)) := by
  refine ⟨fun _ _ => WatchConfig.ofSettings_eq_of_last, fun before one other after hkind => ?_,
    fun before one between other after hkind => ?_, fun _ => WatchConfig.ofSettings_ok_iff,
    fun _ _ => WatchConfig.ofSettings_error_iff, fun settings config hbuild => ?_⟩
  · exact WatchConfig.ofSettings_eq_of_last fun _ => lastOf_swap hkind before after
  · exact WatchConfig.ofSettings_eq_of_last fun _ => lastOf_replaced hkind before between after
  · obtain ⟨_, _, _, _, _, hvalid⟩ := Draft.build_ok hbuild
    exact ⟨hvalid, WatchConfig.build_coordinator hvalid⟩

/-- An empty identity does no harm once it is replaced; if it is not, it is reported before the
empty directory. -/
theorem settings_accepted_replaced :
    let directory : Setting := .localDir ⟨[0x64]⟩
    let endpoint : Setting := .announcements "h" 80
    let settings := [directory, endpoint, .repositoryBytes [0xAB]]
    WatchConfig.ofSettings (.repositoryBytes [] :: settings) = WatchConfig.ofSettings settings ∧
      WatchConfig.ofSettings [endpoint, directory, .repositoryBytes [0xAB]] =
        WatchConfig.ofSettings settings ∧
      WatchConfig.ofSettings [.repositoryBytes [0xAB], directory, endpoint] =
        WatchConfig.ofSettings settings ∧
      Acceptable settings ∧
      WatchConfig.ofSettings [.repositoryBytes [], .localDir ⟨[]⟩] = .error (.identity .empty) ∧
      Complains [.repositoryBytes [], .localDir ⟨[]⟩] (.config .localDirEmpty) ∧
      (SetupError.identity .empty).place ≤ (SetupError.config .localDirEmpty).place ∧
      ∃ config, WatchConfig.ofSettings settings = .ok config ∧ config.validate = .ok () ∧
        Coordinator.build config false false = .error (.config (.channelMissing "h:80")) := by
  intro directory endpoint settings
  have hbuild : WatchConfig.ofSettings settings =
      .ok ((Draft.ofSettings settings).fill ⟨[0x64]⟩ ⟨[0xAB], by decide⟩) := by
    rfl
  have hempty : WatchConfig.ofSettings [.repositoryBytes [], .localDir ⟨[]⟩] =
      .error (.identity .empty) := by
    rfl
  have hdir : Complains [.repositoryBytes [], .localDir ⟨[]⟩] (.config .localDirEmpty) :=
    .localDirEmpty rfl
  obtain ⟨hlast, hswap, hreplaced, haccepted, hrefused, hconfig⟩ := settings_accepted
  obtain ⟨hvalid, hcoordinator⟩ := hconfig settings _ hbuild
  refine ⟨hreplaced [] _ [directory, endpoint] _ [] rfl,
    hswap [] endpoint directory [.repositoryBytes [0xAB]] (by decide), ?_,
    (haccepted settings).mp ⟨_, hbuild⟩, hempty, hdir, ((hrefused _ _).mp hempty).2 _ hdir, _,
    hbuild, hvalid, (hcoordinator false false).2 ⟨"h", 80⟩ rfl⟩
  exact hlast _ _ fun kind => by cases kind <;> rfl

end ReplicaSync
