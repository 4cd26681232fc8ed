import SourceAudit.Cli.Run
import SourceAudit.Proofs.Config.Search
import SourceAudit.Proofs.Rule.Set

/-!
# Loading from `.` and from the working directory

A scan starts from `.` unless it is told otherwise, while rules are listed and explained from the path of the working
directory.

* `loadFile_join`, `load_resolvePaths` : a rule file is the same from both, and so are the rules of a configuration;
* `configDirectory_dot`, `configDirectory_workingDirectory` : the search for a configuration starts there;
* `exists_config` : where both searches find one file, they give one configuration;
* `load_agrees_iff` : both load the same exactly if they find the same file, which they do unless the only
  configurations are above the working directory.
-/

namespace SourceAudit.Cli

open SourceAudit.Path (ofNames segments isIdle)

variable {fs : FileSystem}

/-! ## Rule files -/

theorem exists_step_of_read {p : Path} {text : String} (h : fs.WellPlaced) (hrel : p.isAbsolute = false)
    (hread : fs.read (Path.join "." p) = .ok text) : ∃ s ∈ segments p.toList, isIdle s = false := by
  by_contra hidle
  have hall : ∀ s ∈ segments p.toList, isIdle s = true := by
    intro s hs
    by_contra hs'
    exact hidle ⟨s, hs, Bool.eq_false_iff.mpr hs'⟩
  obtain ⟨entries, hdir⟩ := h.directory
  have hplace : fs.resolve (Path.join "." p) = .ok fs.cwd := by
    rw [h.resolve_join_dot hrel, FileSystem.follow_all_idle hall (by rw [List.reverse_reverse, hdir]), Except.map,
      List.reverse_reverse]
  rw [FileSystem.read, FileSystem.get_of_resolve hplace hdir] at hread
  cases hread

theorem loadFile_of_error {p : Path} {e : FileError} (h : fs.read p = .error e) :
    Rule.loadFile fs p = .error (.unreadable e) := by
  unfold Rule.loadFile
  rw [h]
  simp only [Except.mapError, bind, Except.bind]

theorem loadFile_of_ok {p : Path} {text : String} (h : fs.read p = .ok text) :
    Rule.loadFile fs p = if Rule.isYamlFile p then Rule.parseYaml text else Rule.parseToml text := by
  unfold Rule.loadFile
  rw [h]
  simp only [Except.mapError, bind, Except.bind]

theorem loadFile_join (h : fs.WellPlaced) (p : Path) :
    Rule.loadFile fs (Path.join "." p) = Rule.loadFile fs (fs.workingDirectory.join p) := by
  cases hrel : p.isAbsolute with
  | true => rw [Path.join_of_isAbsolute _ hrel, Path.join_of_isAbsolute _ hrel]
  | false =>
    have hread := FileSystem.read_congr (h.resolve_join p)
    cases htext : fs.read (Path.join "." p) with
    | error e => rw [loadFile_of_error htext, loadFile_of_error (hread ▸ htext)]
    | ok text =>
      -- the file is named by a step of the path, so both paths end in the same one
      have hextension : Path.extension? (Path.join "." p) = Path.extension? (fs.workingDirectory.join p) :=
        Path.extension?_join h.names hrel (exists_step_of_read h hrel htext)
      rw [loadFile_of_ok htext, loadFile_of_ok (hread ▸ htext), Rule.isYamlFile, Rule.isYamlFile, hextension]

/-- The rules of the files of a configuration are the same from `.` and from the path of the working directory. -/
theorem load_resolvePaths (h : fs.WellPlaced) (config : Config) (extra : List Path) :
    (RuleSet.load fs ((config.resolvePaths ".").rules.paths ++ extra)).1 =
      (RuleSet.load fs ((config.resolvePaths fs.workingDirectory).rules.paths ++ extra)).1 := by
  have hsources : RuleSet.sources fs ((config.resolvePaths ".").rules.paths ++ extra) =
      RuleSet.sources fs ((config.resolvePaths fs.workingDirectory).rules.paths ++ extra) := by
    unfold RuleSet.sources Config.resolvePaths
    dsimp only
    rw [List.filterMap_append, List.filterMap_append, List.filterMap_map, List.filterMap_map]
    have hloads : (fun p => (Rule.loadFile fs p).toOption) ∘ Path.join "." =
        (fun p => (Rule.loadFile fs p).toOption) ∘ Path.join fs.workingDirectory := by
      funext p
      exact congrArg Except.toOption (loadFile_join h p)
    rw [hloads]
  rw [RuleSet.load_eq_after, RuleSet.load_eq_after, hsources]

/-! ## Configurations -/

theorem configDirectory_of_dir {p : Path} {place : List String} {entries : List (FileName × FileTree)}
    (hplace : fs.resolve p = .ok place) (hdir : fs.root.find? place = some (.dir entries)) :
    configDirectory fs p = p := by
  rw [configDirectory, FileSystem.isFile, FileSystem.get_of_resolve hplace hdir]
  rfl

theorem configDirectory_dot (h : fs.WellPlaced) : configDirectory fs "." = "." := by
  obtain ⟨entries, hdir⟩ := h.directory
  have hsegments : segments ".".toList = [['.']] := by decide
  have habsolute : Path.isAbsolute "." = false := by decide
  have hplace : fs.resolve "." = .ok fs.cwd := by
    rw [FileSystem.resolve_eq (by decide), habsolute, if_neg (by simp), hsegments,
      FileSystem.follow_idle rfl (by rw [List.reverse_reverse, hdir]), FileSystem.follow, Except.map,
      List.reverse_reverse]
  exact configDirectory_of_dir hplace hdir

theorem configDirectory_workingDirectory (h : fs.WellPlaced) :
    configDirectory fs fs.workingDirectory = fs.workingDirectory := by
  obtain ⟨entries, hdir⟩ := h.directory
  exact configDirectory_of_dir (FileSystem.resolve_ofNames h.names hdir) hdir

theorem load_config (fs : FileSystem) (start : Path) (extra : List Path) :
    (load fs start extra).config = (Config.loadOrDefault fs (configDirectory fs start)).1 := rfl

theorem load_rules (fs : FileSystem) (start : Path) (extra : List Path) :
    (load fs start extra).rules = (RuleSet.load fs ((load fs start extra).config.rules.paths ++ extra)).1 := rfl

/-- With a configuration in the working directory, or with none at all, both searches give one configuration, each as
seen from where it started. -/
theorem exists_config (h : fs.WellPlaced)
    (hagree : Config.isIn fs fs.cwd = true ∨ ∀ dir, dir <+: fs.cwd → Config.isIn fs dir = false) :
    ∃ config : Config, (Config.loadOrDefault fs ".").1 = config.resolvePaths "." ∧
      (Config.loadOrDefault fs fs.workingDirectory).1 = config.resolvePaths fs.workingDirectory := by
  rw [Config.loadOrDefault_dot h, Config.loadOrDefault_workingDirectory h]
  rcases hagree with hin | hnone
  · refine ⟨Config.ofDirectory fs fs.cwd, if_pos hin, ?_⟩
    rw [Config.nearest?_of_isIn hin]
    rfl
  · have hin : Config.isIn fs fs.cwd = false := hnone fs.cwd (List.prefix_refl fs.cwd)
    rw [hin, if_neg (by simp), Config.nearest?_eq_none_iff.mpr hnone]
    exact ⟨{}, rfl, rfl⟩

/-- **When a scan from `.` loads what is listed for the working directory.** The two searches find one configuration
file exactly if there is one in the working directory, or none in any directory above it either. Then both load the
same rules and one configuration, each with its rule files as seen from where the search started. If there is none in
the working directory, the search from `.` looks no further, and the standard configuration is loaded with no rule
files, while the search from the working directory loads the nearest one above. -/
theorem load_agrees_iff (fs : FileSystem) (h : fs.WellPlaced) :
    ((Config.find? fs ".").map fs.resolve = (Config.find? fs fs.workingDirectory).map fs.resolve ↔
      Config.isIn fs fs.cwd = true ∨ ∀ dir, dir <+: fs.cwd → Config.isIn fs dir = false) ∧
    ((Config.isIn fs fs.cwd = true ∨ ∀ dir, dir <+: fs.cwd → Config.isIn fs dir = false) → ∀ extra,
      (load fs "." extra).rules = (load fs fs.workingDirectory extra).rules ∧
      ∃ config : Config, (load fs "." extra).config = config.resolvePaths "." ∧
        (load fs fs.workingDirectory extra).config = config.resolvePaths fs.workingDirectory) ∧
    (Config.isIn fs fs.cwd = false → ∀ extra,
      (load fs "." extra).config = {} ∧ (load fs "." extra).rules = (RuleSet.load fs extra).1 ∧
      ∀ dir, Config.nearest? fs = some dir →
        (load fs fs.workingDirectory extra).config = (Config.ofDirectory fs dir).resolvePaths (ofNames dir)) := by
  refine ⟨Config.same_file_iff h, fun hagree extra => ?_, fun hin extra => ?_⟩
  · obtain ⟨config, hdot, hwork⟩ := exists_config h hagree
    have hdot' : (load fs "." extra).config = config.resolvePaths "." := by
      rw [load_config, configDirectory_dot h, hdot]
    have hwork' : (load fs fs.workingDirectory extra).config = config.resolvePaths fs.workingDirectory := by
      rw [load_config, configDirectory_workingDirectory h, hwork]
    refine ⟨?_, config, hdot', hwork'⟩
    rw [load_rules, load_rules fs fs.workingDirectory, hdot', hwork', load_resolvePaths h]
  · have hdot : (load fs "." extra).config = {} := by
      rw [load_config, configDirectory_dot h, Config.loadOrDefault_dot h, hin, if_neg (by simp)]
    refine ⟨hdot, ?_, fun dir hnearest => ?_⟩
    · rw [load_rules, hdot, List.nil_append]
    · rw [load_config, configDirectory_workingDirectory h, Config.loadOrDefault_workingDirectory h, hnearest,
        Option.elim_some]

/-- A configuration above the working directory disables a rule: it is listed as disabled, and a scan uses it. -/
theorem load_agrees_iff_configuration_above :
    let fs : FileSystem := ⟨.dir [("vibesec.toml", .file (some "[rules]\ndisabled = [\"weak-hash\"]\n")),
      ("sub", .dir [("app.py", .file (some "hashlib.md5(x)\n"))])], ["sub"]⟩
    fs.WellPlaced ∧
      (Config.find? fs ".").map fs.resolve ≠ (Config.find? fs fs.workingDirectory).map fs.resolve ∧
      (load fs "." []).config.isDisabled "weak-hash" = false ∧
      (load fs fs.workingDirectory []).config.isDisabled "weak-hash" = true := by
  intro fs
  have hplaced : fs.WellPlaced := by
    refine ⟨fun name hname => ?_, _, rfl⟩
    rw [List.mem_singleton.mp hname]
    exact ⟨by decide, by decide, by decide⟩
  have hagree := load_agrees_iff fs hplaced
  refine ⟨hplaced, fun hsame => ?_, ?_, ?_⟩
  · rcases hagree.1.mp hsame with hin | hnone
    · exact absurd hin (by decide +kernel)
    · exact absurd (hnone [] List.nil_prefix) (by decide +kernel)
  · rw [(hagree.2.2 (by decide +kernel) []).1]
    decide +kernel
  · rw [load_config, configDirectory_workingDirectory hplaced]
    decide +kernel

end SourceAudit.Cli
