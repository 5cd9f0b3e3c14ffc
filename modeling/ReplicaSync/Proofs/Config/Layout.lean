import ReplicaSync.Proofs.Config.LastSettings
import ReplicaSync.Proofs.Path.Components

/-!
# Where the program keeps its own files

Directories that are not set lie inside the application directory, and this one inside the
directory that is kept in step, whatever these two look like: a name that is joined to a path is
one more component of it. So under the default layout exactly what lies under the application
directory is ignored. Main statement: `default_layout_ignored`.
-/

namespace ReplicaSync

/-! ### Default directories -/

theorem Path.ofString_bytes (s : String) : (Path.ofString s).bytes = Text.Utf8.encode s.toList :=
  Text.Utf8.toUTF8_toList s

namespace Draft

/-- The names of the default directories. -/
theorem isName_default {name : String} (h : name ∈ [".syncany", "cache", "db", "logs"]) :
    Path.IsName (Path.ofString name).bytes := by
  rw [Path.ofString_bytes]
  simp only [List.mem_cons, List.not_mem_nil, or_false] at h
  rcases h with rfl | rfl | rfl | rfl <;> exact ⟨by decide +kernel, by decide +kernel⟩

/-- A directory that is not set is one component below its parent. -/
theorem components_directory {parent : Path} {name : String}
    (h : name ∈ [".syncany", "cache", "db", "logs"]) :
    (directory none parent name).components =
      parent.components ++ [.name (Path.ofString name).bytes] :=
  Path.components_join_name (isName_default h)

theorem directory_isUnder {parent : Path} {name : String}
    (h : name ∈ [".syncany", "cache", "db", "logs"]) :
    (directory none parent name).isUnder parent = true := by
  rw [Path.isUnder_iff, components_directory h]
  exact List.prefix_append _ _

variable {settings : List Setting}

/-- Nothing is set of a kind that has no setting. -/
theorem content_eq_empty {kind : SettingKind} (h : ∀ s ∈ settings, s.kind ≠ kind) :
    (ofSettings settings).content kind = empty.content kind := by
  rw [content_ofSettings, lastOf_eq_none_iff.mpr h]
  rfl

end Draft

/-! ### What is ignored -/

namespace WatchConfig

variable {settings : List Setting} {config : WatchConfig} {kind : SettingKind}

/-- The directories that no setting names are the default ones. -/
theorem directories_of_build (h : WatchConfig.ofSettings settings = .ok config) :
    ((∀ s ∈ settings, s.kind ≠ .appDir) →
      config.appDir = Draft.directory none config.localDir ".syncany") ∧
    ((∀ s ∈ settings, s.kind ≠ .cacheDir) →
      config.cacheDir = Draft.directory none config.appDir "cache") ∧
    ((∀ s ∈ settings, s.kind ≠ .databaseDir) →
      config.databaseDir = Draft.directory none config.appDir "db") ∧
    ((∀ s ∈ settings, s.kind ≠ .logDir) →
      config.logDir = Draft.directory none config.appDir "logs") := by
  obtain ⟨localDir, repository, _, _, rfl, _⟩ := Draft.build_ok h
  have hunset : ∀ {kind}, (∀ s ∈ settings, s.kind ≠ kind) →
      (Draft.ofSettings settings).content kind = Draft.empty.content kind :=
    Draft.content_eq_empty
  refine ⟨fun h => ?_, fun h => ?_, fun h => ?_, fun h => ?_⟩
  · have hnone : (Draft.ofSettings settings).appDir = none := hunset h
    simp only [Draft.fill, hnone]
  · have hnone : (Draft.ofSettings settings).cacheDir = none := hunset h
    simp only [Draft.fill, hnone]
  · have hnone : (Draft.ofSettings settings).databaseDir = none := hunset h
    simp only [Draft.fill, hnone]
  · have hnone : (Draft.ofSettings settings).logDir = none := hunset h
    simp only [Draft.fill, hnone]

/-- The directory that is kept in step is the one that was set last, and so is the application
directory if it was set. -/
theorem chosen_of_build (h : WatchConfig.ofSettings settings = .ok config) :
    lastOf .localDir settings = some (.localDir config.localDir) ∧
      ∀ path, lastOf .appDir settings = some (.appDir path) → config.appDir = path := by
  obtain ⟨localDir, repository, hlocalDir, _, rfl, _⟩ := Draft.build_ok h
  constructor
  · exact Draft.localDir_eq_some_iff.mp hlocalDir
  · intro path hlast
    have hcontent := Draft.content_ofSettings settings .appDir
    rw [hlast] at hcontent
    have happDir : (Draft.ofSettings settings).appDir = some path := hcontent
    simp only [Draft.fill, happDir]
    rfl

/-- If the other directories lie under the application directory, what lies under it is ignored and
nothing else. -/
theorem isIgnored_of_nested (hcache : config.cacheDir.isUnder config.appDir = true)
    (hdatabase : config.databaseDir.isUnder config.appDir = true)
    (hlog : config.logDir.isUnder config.appDir = true) (p : Path) :
    p.isIgnored config.ignoredPaths = p.isUnder config.appDir := by
  rw [Bool.eq_iff_iff, Path.isIgnored_iff]
  constructor
  · rintro ⟨base, hbase, hunder⟩
    simp only [ignoredPaths, List.mem_cons, List.not_mem_nil, or_false] at hbase
    rcases hbase with rfl | rfl | rfl | rfl
    · exact hunder
    · exact Path.isUnder_trans hunder hcache
    · exact Path.isUnder_trans hunder hdatabase
    · exact Path.isUnder_trans hunder hlog
  · intro hunder
    exact ⟨config.appDir, List.mem_cons_self, hunder⟩

theorem ignored_foldl_join {dir : Path} (hdir : dir ∈ config.ignoredPaths) {parts : List Path}
    (hparts : ∀ q ∈ parts, q.isAbsolute = false) :
    (parts.foldl Path.join dir).isIgnored config.ignoredPaths = true :=
  Path.isIgnored_iff.mpr ⟨dir, hdir, Path.isUnder_foldl_join hparts⟩

end WatchConfig

/-- Let a configuration be built from any settings; it has the directories that were set last. If no
setting names a directory for the cache, the database or the logs, a path is ignored if and only if
it lies under the application directory; and if none names this directory either, it is `.syncany`
inside the directory that is kept in step, and lies under it. Whatever is set, each of the four
directories is ignored, and so is every path that relative paths lead to from it. -/
theorem default_layout_ignored {settings : List Setting} {config : WatchConfig}
    (h : WatchConfig.ofSettings settings = .ok config) :
    (lastOf .localDir settings = some (.localDir config.localDir) ∧
      ∀ path, lastOf .appDir settings = some (.appDir path) → config.appDir = path) ∧
    ((∀ s ∈ settings, s.kind ≠ .cacheDir ∧ s.kind ≠ .databaseDir ∧ s.kind ≠ .logDir) →
      (∀ p : Path, p.isIgnored config.ignoredPaths = p.isUnder config.appDir) ∧
      ((∀ s ∈ settings, s.kind ≠ .appDir) →
        let standard := config.localDir.join (.ofString ".syncany")
        (∀ p : Path, p.isIgnored config.ignoredPaths = p.isUnder standard) ∧
          standard.isUnder config.localDir = true)) ∧
    ∀ dir ∈ config.ignoredPaths, dir.isIgnored config.ignoredPaths = true ∧
      ∀ parts : List Path, (∀ q ∈ parts, q.isAbsolute = false) →
        (parts.foldl Path.join dir).isUnder dir = true ∧
          (parts.foldl Path.join dir).isIgnored config.ignoredPaths = true := by
  obtain ⟨happ, hcache, hdatabase, hlog⟩ := WatchConfig.directories_of_build h
  refine ⟨WatchConfig.chosen_of_build h, fun hunset => ?_, fun dir hdir =>
    ⟨?_, fun parts hparts => ?_⟩⟩
  · have hignored : ∀ p : Path, p.isIgnored config.ignoredPaths = p.isUnder config.appDir := by
      apply WatchConfig.isIgnored_of_nested
      · rw [hcache fun s hs => (hunset s hs).1]
        exact Draft.directory_isUnder (by decide)
      · rw [hdatabase fun s hs => (hunset s hs).2.1]
        exact Draft.directory_isUnder (by decide)
      · rw [hlog fun s hs => (hunset s hs).2.2]
        exact Draft.directory_isUnder (by decide)
    refine ⟨hignored, fun hstandard => ?_⟩
    have hdir : config.appDir = config.localDir.join (.ofString ".syncany") := happ hstandard
    have hunder : config.appDir.isUnder config.localDir = true := by
      rw [happ hstandard]
      exact Draft.directory_isUnder (by decide)
    rw [← hdir]
    exact ⟨hignored, hunder⟩
  · exact Path.isIgnored_iff.mpr ⟨dir, hdir, Path.isUnder_refl dir⟩
  · exact ⟨Path.isUnder_foldl_join hparts, WatchConfig.ignored_foldl_join hdir hparts⟩

/-- A relative directory that is written with a dot in front and slashes at its end. -/
theorem default_layout_ignored_relative :
    let directory : Path := ⟨[0x2E, 0x2F, 0x64, 0x61, 0x74, 0x61, 0x2F, 0x2F]⟩
    let settings : List Setting := [.repositoryBytes [0xAB], .localDir directory]
    directory = .ofString "./data//" ∧ ∃ config, WatchConfig.ofSettings settings = .ok config ∧
      (Path.ofString "./data/.syncany/db/x").isIgnored config.ignoredPaths = true ∧
      (Path.ofString "./data/.syncany-notes").isIgnored config.ignoredPaths = false ∧
      ((config.cacheDir.join (.ofString "..")).join (.ofString "x")).isIgnored
        config.ignoredPaths = true := by
  intro directory settings
  have hbuild : WatchConfig.ofSettings settings =
      .ok (Draft.empty.fill directory ⟨[0xAB], by decide⟩) := by
    rfl
  obtain ⟨_, hdefault, hjoined⟩ := default_layout_ignored hbuild
  obtain ⟨hexact, _⟩ := (hdefault (by decide)).2 (by decide)
  refine ⟨by decide +kernel, _, hbuild, ?_, ?_, ?_⟩
  · rw [hexact]
    decide +kernel
  · rw [hexact]
    decide +kernel
  · exact ((hjoined _ (by simp [WatchConfig.ignoredPaths])).2
      [.ofString "..", .ofString "x"] (by decide +kernel)).2

end ReplicaSync
