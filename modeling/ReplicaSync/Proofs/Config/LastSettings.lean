import ReplicaSync.Config.Draft

/-!
# The last setting of each kind

Each kind of settings has its own content in a draft: a setting replaces the content of its kind
and leaves all others alone. So a draft holds of each kind what the last setting of that kind put
there, however the settings of different kinds follow one another. Main statements:
`content_ofSettings` and `ofSettings_eq_of_last`.
-/

namespace ReplicaSync

/-! ### Kinds -/

/-- The kinds of settings. Those of one kind replace each other. -/
inductive SettingKind where
  | localDir
  | appDir
  | cacheDir
  | databaseDir
  | logDir
  | repository
  | interval
  | announcements
  | policy
  | debounce
  deriving DecidableEq

def Setting.kind : Setting → SettingKind
  | .localDir _ => .localDir
  | .appDir _ => .appDir
  | .cacheDir _ => .cacheDir
  | .databaseDir _ => .databaseDir
  | .logDir _ => .logDir
  | .repository _ | .repositoryBytes _ | .repositoryHex _ => .repository
  | .interval _ | .intervalMillis _ => .interval
  | .announcements _ _ | .announcementEndpoint _ => .announcements
  | .policy _ => .policy
  | .debounce _ => .debounce

/-- The last setting of a kind. -/
def lastOf (kind : SettingKind) (settings : List Setting) : Option Setting :=
  settings.reverse.find? fun setting => setting.kind = kind

section Last

variable {kind : SettingKind} {setting one other : Setting} {settings : List Setting}

theorem lastOf_append (front back : List Setting) :
    lastOf kind (front ++ back) = (lastOf kind back).or (lastOf kind front) := by
  rw [lastOf, List.reverse_append, List.find?_append]
  rfl

theorem lastOf_cons : lastOf kind (setting :: settings) =
    (lastOf kind settings).or (if setting.kind = kind then some setting else none) := by
  have hone : lastOf kind [setting] = if setting.kind = kind then some setting else none := by
    simp [lastOf, List.find?_singleton]
  rw [← List.singleton_append, lastOf_append, hone]

theorem lastOf_eq_none_iff : lastOf kind settings = none ↔ ∀ s ∈ settings, s.kind ≠ kind := by
  simp [lastOf]

theorem kind_of_lastOf (h : lastOf kind settings = some setting) : setting.kind = kind := by
  simpa using List.find?_some h

/-- Neighbours of different kinds may change places. -/
theorem lastOf_swap (h : one.kind ≠ other.kind) (before after : List Setting) :
    lastOf kind (before ++ one :: other :: after) =
      lastOf kind (before ++ other :: one :: after) := by
  rw [lastOf_append, lastOf_append, lastOf_cons, lastOf_cons, lastOf_cons, lastOf_cons]
  by_cases hone : one.kind = kind
  · have hother : other.kind ≠ kind := fun heq => h (hone.trans heq.symm)
    simp [hone, hother]
  · simp [hone]

/-- A setting does not count if another of its kind follows. -/
theorem lastOf_replaced (h : one.kind = other.kind) (before between after : List Setting) :
    lastOf kind (before ++ one :: (between ++ other :: after)) =
      lastOf kind (before ++ (between ++ other :: after)) := by
  rw [lastOf_append, lastOf_append, lastOf_cons]
  by_cases hone : one.kind = kind
  · have hsome : (lastOf kind (between ++ other :: after)).isSome := by
      rw [lastOf_append, lastOf_cons, if_pos (h.symm.trans hone)]
      simp
    obtain ⟨last, hlast⟩ := Option.isSome_iff_exists.mp hsome
    rw [hlast]
    rfl
  · rw [if_neg hone, Option.or_none]

end Last

/-! ### Contents -/

/-- What a draft holds of a kind. -/
def SettingKind.Content : SettingKind → Type
  | .localDir | .appDir | .cacheDir | .databaseDir | .logDir => Option Path
  | .repository => Option (Except IdentityFault Identity)
  | .interval | .debounce => Option Duration
  | .announcements => Option Endpoint
  | .policy => TriggerPolicy

namespace Draft

/-- What the draft holds of a kind. -/
def content (draft : Draft) : (kind : SettingKind) → kind.Content
  | .localDir => draft.localDir
  | .appDir => draft.appDir
  | .cacheDir => draft.cacheDir
  | .databaseDir => draft.databaseDir
  | .logDir => draft.logDir
  | .repository => draft.repository
  | .interval => draft.interval
  | .announcements => draft.announcements
  | .policy => draft.policy
  | .debounce => draft.debounce

/-- A draft is what it holds of the kinds. -/
theorem ext_content {one other : Draft} (h : ∀ kind, one.content kind = other.content kind) :
    one = other := by
  obtain ⟨_, _, _, _, _, _, _, _, _, _⟩ := one
  obtain ⟨_, _, _, _, _, _, _, _, _, _⟩ := other
  have hlocalDir := h .localDir
  have happDir := h .appDir
  have hcacheDir := h .cacheDir
  have hdatabaseDir := h .databaseDir
  have hlogDir := h .logDir
  have hrepository := h .repository
  have hinterval := h .interval
  have hannouncements := h .announcements
  have hpolicy := h .policy
  have hdebounce := h .debounce
  simp only [content] at *
  subst_vars
  rfl

/-- A setting replaces the content of its kind, whatever it was, and leaves the others alone. -/
theorem content_set (draft : Draft) (setting : Setting) (kind : SettingKind) :
    (draft.set setting).content kind =
      if setting.kind = kind then (empty.set setting).content kind else draft.content kind := by
  cases setting <;> cases kind <;> rfl

/-- A draft holds of each kind what the last setting of that kind put there. -/
theorem content_foldl_set (draft : Draft) (settings : List Setting) (kind : SettingKind) :
    (settings.foldl set draft).content kind =
      ((lastOf kind settings).map fun setting => (empty.set setting).content kind).getD
        (draft.content kind) := by
  induction settings generalizing draft with
  | nil => rfl
  | cons setting rest ih =>
    rw [List.foldl_cons, ih, lastOf_cons, content_set]
    cases lastOf kind rest with
    | some last => rfl
    | none => split <;> rfl

theorem content_ofSettings (settings : List Setting) (kind : SettingKind) :
    (ofSettings settings).content kind =
      ((lastOf kind settings).map fun setting => (empty.set setting).content kind).getD
        (empty.content kind) := content_foldl_set empty settings kind

end Draft

/-- Settings that agree in the last one of each kind leave the same draft. -/
theorem ofSettings_eq_of_last {one other : List Setting}
    (h : ∀ kind, lastOf kind one = lastOf kind other) :
    Draft.ofSettings one = Draft.ofSettings other :=
  Draft.ext_content fun kind => by rw [Draft.content_ofSettings, Draft.content_ofSettings, h]

/-! ### What settings hold -/

namespace Setting

/-- The directory that a setting gives. -/
def path? : Setting → Option Path
  | .localDir path | .appDir path | .cacheDir path | .databaseDir path | .logDir path => some path
  | _ => none

/-- The identity that a setting gives the repository, or what is wrong with it. -/
def identity? : Setting → Option (Except IdentityFault Identity)
  | .repository id => some (.ok id)
  | .repositoryBytes bytes => some (Identity.ofBytes bytes)
  | .repositoryHex text => some (Identity.ofHex text)
  | _ => none

/-- The time between passes that a setting gives. -/
def span? : Setting → Option Duration
  | .interval span => some span
  | .intervalMillis ms => some (.ofMillis ms)
  | _ => none

/-- The endpoint that a setting gives; it may also take the endpoint away. -/
def endpoint? : Setting → Option Endpoint
  | .announcements host port => some ⟨host, port⟩
  | .announcementEndpoint endpoint => endpoint
  | _ => none

variable {setting : Setting}

theorem path?_ne_none (h : setting.kind = .localDir) : setting.path? ≠ none := by
  cases setting <;> simp_all [kind, path?]

theorem identity?_ne_none (h : setting.kind = .repository) : setting.identity? ≠ none := by
  cases setting <;> simp_all [kind, identity?]

theorem span?_ne_none (h : setting.kind = .interval) : setting.span? ≠ none := by
  cases setting <;> simp_all [kind, span?]

end Setting

namespace Draft

variable {settings : List Setting}

/-- What a draft holds of a kind, read off the last setting of that kind. -/
theorem content_eq_bind {α : Type} {kind : SettingKind} {read : Setting → Option α}
    {field : Draft → Option α} (hempty : field empty = none)
    (hread : ∀ setting, setting.kind = kind → field (empty.set setting) = read setting)
    (hcontent : field (ofSettings settings) =
      ((lastOf kind settings).map fun setting => field (empty.set setting)).getD (field empty)) :
    field (ofSettings settings) = (lastOf kind settings).bind read := by
  rw [hcontent, hempty]
  cases hlast : lastOf kind settings with
  | none => rfl
  | some setting => exact hread setting (kind_of_lastOf hlast)

theorem localDir_ofSettings :
    (ofSettings settings).localDir = (lastOf .localDir settings).bind Setting.path? :=
  content_eq_bind rfl
    (fun setting hkind => by
      cases setting with
      | localDir path => rfl
      | _ => cases hkind)
    (content_ofSettings settings .localDir)

theorem localDir_eq_some_iff {path : Path} : (ofSettings settings).localDir = some path ↔
    lastOf .localDir settings = some (.localDir path) := by
  rw [localDir_ofSettings, Option.bind_eq_some_iff]
  constructor
  · rintro ⟨setting, hlast, hpath⟩
    have hkind := kind_of_lastOf hlast
    cases setting with
    | localDir path =>
      cases hpath
      exact hlast
    | _ => cases hkind
  · exact fun hlast => ⟨_, hlast, rfl⟩

theorem repository_ofSettings :
    (ofSettings settings).repository = (lastOf .repository settings).bind Setting.identity? :=
  content_eq_bind rfl (fun setting _ => by cases setting <;> rfl)
    (content_ofSettings settings .repository)

theorem interval_ofSettings :
    (ofSettings settings).interval = (lastOf .interval settings).bind Setting.span? :=
  content_eq_bind rfl (fun setting _ => by cases setting <;> rfl)
    (content_ofSettings settings .interval)

theorem announcements_ofSettings : (ofSettings settings).announcements =
    (lastOf .announcements settings).bind Setting.endpoint? :=
  content_eq_bind rfl (fun setting _ => by cases setting <;> rfl)
    (content_ofSettings settings .announcements)

/-- What is built is the draft, filled in, and it is accepted once more. -/
theorem build_ok {draft : Draft} {config : WatchConfig} (h : draft.build = .ok config) :
    ∃ localDir repository, draft.localDir = some localDir ∧
      draft.repository = some (.ok repository) ∧ draft.fill localDir repository = config ∧
      config.validate = .ok () := by
  unfold build at h
  split at h
  · cases h
  · cases h
  · cases h
  · rename_i localDir repository hlocalDir hrepository
    simp only at h
    split at h
    · rename_i hvalid
      cases h
      exact ⟨localDir, repository, hlocalDir, hrepository, rfl, hvalid⟩
    · cases h

end Draft

end ReplicaSync
