import Mathlib.Data.List.Find
import SourceAudit.Config.File
import SourceAudit.Proofs.FileTree

/-!
# Where configurations are found

* `Config.isIn fs dir`, `Config.nearest? fs` : there is a configuration file in a directory; the nearest directory
  with one;
* `find?_workingDirectory` : from the path of the working directory, the nearest one in it or above it is found;
* `find?_dot` : from `.`, only the one in the working directory is found, since the text of the path has nothing above
  it;
* `same_file_iff` : when the two searches agree;
* `loadOrDefault_workingDirectory`, `loadOrDefault_dot` : the configurations that are loaded then.
-/

namespace SourceAudit.Config

open FileSystem
open SourceAudit.Path (IsName AreNames ofNames segments)

variable {fs : FileSystem} {dir : List String} {entries : List (FileName × FileTree)}

def isIn (fs : FileSystem) (dir : List String) : Bool := (fs.root.find? (dir ++ [fileName])).isSome

/-- The nearest directory with a configuration file, from the working directory up. -/
def nearest? (fs : FileSystem) : Option (List String) := fs.cwd.inits.reverse.find? (isIn fs)

theorem isName_fileName : IsName fileName.toList := ⟨by decide, by decide, by decide⟩

theorem isAbsolute_fileName : Path.isAbsolute fileName = false := by decide

theorem segments_fileName : segments fileName.toList = [fileName.toList] :=
  Path.segments_of_no_slash isName_fileName.no_slash

theorem follow_fileName (hdir : fs.root.find? dir = some (.dir entries)) :
    (follow fs.root dir.reverse (segments fileName.toList)).map List.reverse =
      if isIn fs dir then .ok (dir ++ [fileName]) else .error .notFound := by
  have hnames : AreNames [fileName] := by
    intro name hname
    rw [List.mem_singleton.mp hname]
    exact isName_fileName
  rw [segments_fileName]
  cases hin : isIn fs dir with
  | true =>
    have hfound : (fs.root.find? (dir.reverse.reverse ++ [fileName])).isSome = true := by
      rw [List.reverse_reverse]
      exact hin
    have hfollow := follow_names hnames hfound []
    rw [List.map_singleton, List.append_nil] at hfollow
    rw [hfollow, follow, Except.map, if_pos rfl]
    simp
  | false =>
    have hmissing : fs.root.find? (dir.reverse.reverse ++ [fileName]) = none := by
      rw [List.reverse_reverse]
      exact Option.isNone_iff_eq_none.mp (by simpa [isIn] using hin)
    rw [follow_missing isName_fileName (by rw [List.reverse_reverse, hdir]) hmissing, Except.map, if_neg (by simp)]

/-- A path that leads where the name of configuration files leads from a directory is that of a file exactly if the
directory has one. -/
theorem contains_eq_isIn {p : Path}
    (h : fs.resolve p = if isIn fs dir then .ok (dir ++ [fileName]) else .error .notFound) :
    fs.contains p = isIn fs dir := by
  cases hin : isIn fs dir with
  | true =>
    rw [hin, if_pos rfl] at h
    obtain ⟨t, ht⟩ := Option.isSome_iff_exists.mp hin
    rw [contains, get_of_resolve h ht]
    rfl
  | false =>
    rw [hin, if_neg (by simp)] at h
    rw [contains, FileSystem.get, h]
    rfl

/-! ## The search from the path of the working directory -/

theorem resolve_above (h : fs.WellPlaced) (hdir : dir <+: fs.cwd) :
    fs.resolve ((ofNames dir).join fileName) = if isIn fs dir then .ok (dir ++ [fileName]) else .error .notFound := by
  obtain ⟨hnames, entries, hentries⟩ := h.directory_above hdir
  rw [resolve_join_ofNames hnames hentries isAbsolute_fileName, follow_fileName hentries]

theorem find?_workingDirectory (h : fs.WellPlaced) :
    find? fs fs.workingDirectory = (nearest? fs).map fun dir => (ofNames dir).join fileName := by
  have hchain : fs.workingDirectory.chain = fs.cwd.inits.reverse.map ofNames := Path.chain_ofNames h.names
  rw [find?, hchain, List.map_map, List.find?_map, nearest?]
  refine congrArg _ (List.find?_congr fun dir hdir => ?_)
  have habove := (List.mem_inits dir fs.cwd).mp (List.mem_reverse.mp hdir)
  exact contains_eq_isIn (resolve_above h habove)

/-! ## The search from `.` -/

theorem resolve_dot (h : fs.WellPlaced) :
    fs.resolve (Path.join "." fileName) = if isIn fs fs.cwd then .ok (fs.cwd ++ [fileName]) else .error .notFound := by
  obtain ⟨entries, hdir⟩ := h.directory
  rw [h.resolve_join_dot isAbsolute_fileName, follow_fileName hdir]

/-- Only the configuration file in the working directory is found. -/
theorem find?_dot (h : fs.WellPlaced) :
    find? fs "." = if isIn fs fs.cwd then some (Path.join "." fileName) else none := by
  obtain ⟨entries, hdir⟩ := h.directory
  have hdot : fs.contains (Path.join "." fileName) = isIn fs fs.cwd := contains_eq_isIn (resolve_dot h)
  have hempty : fs.contains (Path.join "" fileName) = isIn fs fs.cwd := by
    have hname : Path.join "" fileName = fileName := by decide
    refine contains_eq_isIn ?_
    rw [hname, resolve_eq (by decide), isAbsolute_fileName, if_neg (by simp), follow_fileName hdir]
  rw [find?, Path.chain_dot, List.map_cons, List.map_singleton, List.find?_cons, List.find?_singleton, hdot, hempty]
  cases isIn fs fs.cwd <;> rfl

/-! ## Both searches -/

/-- The first of the directories from the working directory up is the working directory. -/
theorem nearest?_of_isIn (h : isIn fs fs.cwd = true) : nearest? fs = some fs.cwd := by
  unfold nearest?
  obtain hnil | ⟨front, last, hconcat⟩ := List.eq_nil_or_concat' fs.cwd
  · rw [hnil] at h ⊢
    simp [h]
  · rw [hconcat] at h ⊢
    rw [List.inits_append]
    simp [h]

theorem above_of_nearest? (h : nearest? fs = some dir) : dir <+: fs.cwd :=
  (List.mem_inits dir fs.cwd).mp (List.mem_reverse.mp (List.mem_of_find?_eq_some h))

theorem nearest?_eq_none_iff : nearest? fs = none ↔ ∀ dir, dir <+: fs.cwd → isIn fs dir = false := by
  simp [nearest?, List.mem_inits]

/-- The searches from `.` and from the path of the working directory find one file exactly if there is a configuration
in the working directory, or none in any directory above it either. -/
theorem same_file_iff (h : fs.WellPlaced) :
    (find? fs ".").map fs.resolve = (find? fs fs.workingDirectory).map fs.resolve ↔
      isIn fs fs.cwd = true ∨ ∀ dir, dir <+: fs.cwd → isIn fs dir = false := by
  rw [find?_dot h, find?_workingDirectory h]
  cases hin : isIn fs fs.cwd with
  | true =>
    refine iff_of_true ?_ (.inl rfl)
    have habove := resolve_above h (List.prefix_refl fs.cwd)
    rw [nearest?_of_isIn hin, if_pos rfl, Option.map_some, Option.map_some, Option.map_some, resolve_dot h, habove]
  | false =>
    rw [if_neg (by simp), Option.map_none, Option.map_map, eq_comm, Option.map_eq_none_iff, nearest?_eq_none_iff]
    simp

/-! ## Loading -/

/-- The configuration in a text, before its paths are seen from a directory. -/
def ofText? (text : String) : Option Config := do
  let d ← (Toml.parse text).toOption
  let given ← (read d).toOption
  return given.sanitize.1

theorem parse_eq_ofText? {path base : Path} (h : path.parent? = some base) (text : String) :
    (parse path text).toOption.map Prod.fst = (ofText? text).map (·.resolvePaths base) := by
  unfold parse ofText?
  rw [h]
  cases Toml.parse text with
  | error e => rfl
  | ok d =>
    show ((read d).mapError _ >>= _).toOption.map Prod.fst = ((read d).toOption >>= _).map _
    cases read d with
    | error e => rfl
    | ok given => rfl

/-- The configuration of a found file; the standard one if it is broken. -/
theorem loadOrDefault_of_found {start path base : Path} (hfind : find? fs start = some path)
    (hbase : path.parent? = some base) :
    (loadOrDefault fs start).1 = (((fs.read path).toOption.bind ofText?).getD {}).resolvePaths base := by
  unfold loadOrDefault
  rw [hfind]
  dsimp only
  cases htext : fs.read path with
  | error e =>
    have hload : load fs path = .error (.unreadable path e) := by
      rw [load, htext]
      rfl
    rw [hload]
    rfl
  | ok text =>
    have hload : load fs path = parse path text := by
      rw [load, htext]
      rfl
    have hparse := parse_eq_ofText? hbase text
    rw [hload]
    cases hresult : parse path text with
    | error e =>
      rw [hresult] at hparse
      have hnone : ofText? text = none := Option.map_eq_none_iff.mp hparse.symm
      simp [Except.toOption, hnone, resolvePaths]
    | ok loaded =>
      rw [hresult] at hparse
      obtain ⟨config, hconfig, heq⟩ := Option.map_eq_some_iff.mp hparse.symm
      simp [Except.toOption, hconfig, heq]

/-- The configuration in a directory, before its paths are seen from there. -/
def ofDirectory (fs : FileSystem) (dir : List String) : Config :=
  ((fs.read ((ofNames dir).join fileName)).toOption.bind ofText?).getD {}

theorem parent?_join_fileName (h : AreNames dir) : ((ofNames dir).join fileName).parent? = some (ofNames dir) := by
  have hnames : AreNames (dir ++ [fileName]) := by
    intro name hname
    rcases List.mem_append.mp hname with hname | hname
    · exact h name hname
    · rw [List.mem_singleton.mp hname]
      exact isName_fileName
  rw [Path.join_ofNames h isName_fileName, Path.parent?_ofNames hnames]

/-- From the path of the working directory, the nearest configuration is loaded, with its paths as seen from its
directory. -/
theorem loadOrDefault_workingDirectory (h : fs.WellPlaced) :
    (loadOrDefault fs fs.workingDirectory).1 =
      (nearest? fs).elim {} fun dir => (ofDirectory fs dir).resolvePaths (ofNames dir) := by
  have hfind := find?_workingDirectory h
  cases hnearest : nearest? fs with
  | none =>
    rw [hnearest, Option.map_none] at hfind
    rw [loadOrDefault, hfind, Option.elim_none]
  | some dir =>
    obtain ⟨hnames, -⟩ := h.directory_above (above_of_nearest? hnearest)
    rw [hnearest, Option.map_some] at hfind
    rw [loadOrDefault_of_found hfind (parent?_join_fileName hnames), Option.elim_some, ofDirectory]

/-- From `.`, the configuration in the working directory is loaded, with its paths as seen from there, and else the
standard one. -/
theorem loadOrDefault_dot (h : fs.WellPlaced) :
    (loadOrDefault fs ".").1 = if isIn fs fs.cwd then (ofDirectory fs fs.cwd).resolvePaths "." else {} := by
  have hfind := find?_dot h
  cases hin : isIn fs fs.cwd with
  | true =>
    have hparent : (Path.join "." fileName).parent? = some "." := by decide +kernel
    have hread : fs.read (Path.join "." fileName) = fs.read ((ofNames fs.cwd).join fileName) :=
      read_congr (h.resolve_join fileName)
    rw [hin, if_pos rfl] at hfind
    rw [loadOrDefault_of_found hfind hparent, if_pos rfl, hread, ofDirectory]
  | false =>
    rw [hin, if_neg (by simp)] at hfind
    rw [loadOrDefault, hfind, if_neg (by simp)]

end SourceAudit.Config
