import Mathlib.Data.List.Flatten
import Mathlib.Data.List.Nodup
import SourceAudit.Config.File
import SourceAudit.Proofs.Document.Erasure
import SourceAudit.Proofs.SortedMap

/-!
# The keys of a configuration

* `Section` : the tables of a configuration with keys of their own;
* `Influences s key` : a key of a section makes a difference to what is read; `influences_iff` : these keys are known;
* `unread s d`, `reports d` : the keys of a document that make no difference, and a warning for each of them;
* `Undated d` : nothing that stands for a date gets in the way; `unknownKeys_eq_reports_iff` : then these are the
  warnings;
* `reports_eraseAt` : without such a key there is one warning less;
* `unknown_reported_iff` : the warnings of a configuration file.
-/

namespace SourceAudit.Config

open Document

/-- A table of a configuration with keys of its own. -/
inductive Section where
  | top
  | rules
  | analysis
  | risk
  deriving DecidableEq

namespace Section

/-- All sections, in the order of their warnings. -/
def all : List Section := [top, rules, analysis, risk]

def path : Section → List String
  | top => []
  | rules => ["rules"]
  | analysis => ["analysis"]
  | risk => ["analysis", "risk"]

def known : Section → List String
  | top => topKeys
  | rules => ruleKeys
  | analysis => analysisKeys
  | risk => riskKeys

/-- What a warning about a key starts with. -/
def lead : Section → String
  | top => "Unknown config option: '"
  | rules => "Unknown config option in [" ++ "rules" ++ "]: '"
  | analysis => "Unknown config option in [" ++ "analysis" ++ "]: '"
  | risk => "Unknown config option in [" ++ "analysis.risk" ++ "]: '"

/-- The warning about a key that means nothing. -/
def warning (s : Section) (key : String) : String := s.lead ++ key ++ "'"

theorem mem_all (s : Section) : s ∈ all := by
  cases s <;> simp [all]

theorem warning_injective {s s' : Section} {key key' : String} (h : s.warning key = s'.warning key') :
    s = s' ∧ key = key' := by
  have hlead : ∀ s ∈ all, ∀ s' ∈ all, s.lead.toList <+: s'.lead.toList → s = s' := by decide +kernel
  have hchars := congrArg String.toList h
  simp only [warning, String.toList_append, List.append_assoc] at hchars
  have hsame : s = s' := by
    obtain hp | hp := List.prefix_or_prefix_of_prefix ⟨_, hchars⟩ ⟨_, rfl⟩
    · exact hlead s s.mem_all s' s'.mem_all hp
    · exact (hlead s' s'.mem_all s s.mem_all hp).symm
  subst hsame
  exact ⟨rfl, String.toList_inj.mp (List.append_cancel_right (List.append_cancel_left hchars))⟩

end Section

variable {s : Section} {key : String}

/-! ## Keys that make a difference -/

/-- A key of a section makes a difference to the configuration that is read. -/
def Influences (s : Section) (key : String) : Prop :=
  ∃ d c c', read d = .ok c ∧ read (eraseAt key s.path d) = .ok c' ∧ c ≠ c'

theorem readRisk_eraseAt (h : key ∉ riskKeys) (d : Document) : readRisk (eraseAt key [] d) = readRisk d := by
  simp only [readRisk, readFields_eraseAt h]

theorem readAnalysis_eraseAt (h : key ∉ analysisKeys) (d : Document) :
    readAnalysis (eraseAt key [] d) = readAnalysis d := by
  simp only [readAnalysis, readFields_eraseAt h]

theorem readAnalysis_eraseAt_risk (h : key ∉ riskKeys) (d : Document) :
    readAnalysis (eraseAt key ["risk"] d) = readAnalysis d :=
  readFields_eraseAt_below (fun r => by simp [withDefault_changeEntry, readRisk_eraseAt h]) d

theorem readRules_eraseAt (h : key ∉ ruleKeys) (d : Document) : readRules (eraseAt key [] d) = readRules d := by
  simp only [readRules, readFields_eraseAt h]

theorem read_eraseAt_top (h : key ∉ topKeys) (d : Document) : read (eraseAt key [] d) = read d := by
  simp only [read, readFields_eraseAt h]

theorem read_eraseAt (h : key ∉ s.known) (d : Document) : read (eraseAt key s.path d) = read d := by
  cases s with
  | top => exact read_eraseAt_top h d
  | rules => exact readFields_eraseAt_below (fun r => by simp [withDefault_changeEntry, readRules_eraseAt h]) d
  | analysis => exact readFields_eraseAt_below (fun r => by simp [withDefault_changeEntry, readAnalysis_eraseAt h]) d
  | risk => exact readFields_eraseAt_below (fun r => by simp [withDefault_changeEntry, readAnalysis_eraseAt_risk h]) d

/-- A value for a key that differs from the standard one. -/
def sampleValue : String → Document
  | "include" | "exclude" | "disabled" | "paths" => .list .open [.scalar { string := some "a", name := some "a" }]
  | "severity" => .table .byEmpty [("a", .scalar { string := some "low", name := some "low" })]
  | "optimizer_hints" => .scalar { bool := some false }
  | "rules" => .table .byEmpty [("min_confidence", .scalar { number := some .one })]
  | "analysis" => .table .byEmpty [("default_confidence", .scalar { number := some .one })]
  | "risk" => .table .byEmpty [("critical", .scalar { int := some 1, number := some .one })]
  | _ => .scalar { int := some 1, number := some .one }

def sample (s : Section) (key : String) : Document :=
  s.path.foldr (fun name d => .table .byEmpty [(name, d)]) (.table .byEmpty [(key, sampleValue key)])

theorem eq_ok_of_toOption {ε α : Type} {x : Except ε α} {a : α} (h : x.toOption = some a) : x = .ok a := by
  cases x with
  | error e => simp [Except.toOption] at h
  | ok b => exact congrArg Except.ok (Option.some.inj h)

theorem influences_of_known (h : key ∈ s.known) : Influences s key := by
  have hsample : ∀ s ∈ Section.all, ∀ key ∈ s.known, ((read (sample s key)).toOption.any fun c =>
      (read (eraseAt key s.path (sample s key))).toOption.any fun c' => c ≠ c') = true := by decide +kernel
  obtain ⟨c, hc, hany⟩ := (Option.any_eq_true _ _).mp (hsample s s.mem_all key h)
  obtain ⟨c', hc', hne⟩ := (Option.any_eq_true _ _).mp hany
  exact ⟨sample s key, c, c', eq_ok_of_toOption hc, eq_ok_of_toOption hc', by simpa using hne⟩

theorem influences_iff : Influences s key ↔ key ∈ s.known := by
  refine ⟨fun ⟨d, c, c', hc, hc', hne⟩ => ?_, influences_of_known⟩
  by_contra h
  rw [read_eraseAt h, hc] at hc'
  exact hne (Except.ok.inj hc')

instance (s : Section) : DecidablePred (Influences s) := fun _ => decidable_of_iff' _ influences_iff

/-! ## Keys that make no difference -/

/-- The keys of a section that make no difference to what is read, in order. -/
def unread (s : Section) (d : Document) : List String := (sortedSet (keysAt s.path d)).members.filter (¬Influences s ·)

/-- A warning for each key that makes no difference. -/
def reports (d : Document) : List String := Section.all.flatMap fun s => (unread s d).map s.warning

theorem mem_unread_iff {d : Document} : key ∈ unread s d ↔ key ∈ keysAt s.path d ∧ ¬Influences s key := by
  simp [unread, mem_sortedSet]

theorem nodup_unread (s : Section) (d : Document) : (unread s d).Nodup :=
  (StringSet.nodup _).filter _

theorem nodup_reports (d : Document) : (reports d).Nodup := by
  refine List.nodup_flatMap.mpr ⟨fun s _ => ?_, ?_⟩
  · exact (nodup_unread s d).map fun key key' h => (Section.warning_injective h).2
  · refine (show Section.all.Nodup by decide).imp fun {s s'} hne w hw hw' => ?_
    obtain ⟨key, -, rfl⟩ := List.mem_map.mp hw
    obtain ⟨key', -, h⟩ := List.mem_map.mp hw'
    exact hne (Section.warning_injective h).1.symm

theorem sortedSet_filter (names : List String) (p : String → Bool) :
    (sortedSet (names.filter p)).members = (sortedSet names).members.filter p := by
  let kept : StringSet := ⟨(sortedSet names).members.filter p, (sortedSet names).ascending.filter p⟩
  have hkept : kept = sortedSet (names.filter p) := eq_sortedSet (by simp [kept, mem_sortedSet])
  rw [← hkept]

theorem unread_eraseAt_self (d : Document) :
    unread s (eraseAt key s.path d) = (unread s d).filter (· ≠ key) := by
  have hkeys : keysAt s.path (eraseAt key s.path d) = (keysAt s.path d).filter (· ≠ key) := by
    rw [keysAt, entriesAt_eraseAt, without, keysAt, List.filter_map]
    rfl
  rw [unread, hkeys, sortedSet_filter, List.filter_filter, unread, List.filter_filter]
  simp only [Bool.and_comm]

theorem unread_eraseAt_of_ne {s' : Section} (hne : s' ≠ s) (h : ¬Influences s key) (d : Document) :
    unread s' (eraseAt key s.path d) = unread s' d := by
  -- the sections below others are under keys that are known
  have hbelow : ¬s.path ++ [key] <+: s'.path := by
    rw [influences_iff] at h
    cases s <;> cases s' <;> simp_all [Section.path, Section.known, topKeys, analysisKeys]
  have hpath : s'.path ≠ s.path := by
    cases s <;> cases s' <;> simp_all [Section.path]
  rw [unread, keysAt_eraseAt_of_ne hpath hbelow, unread]

theorem filter_ne_of_nodup {α : Type} [DecidableEq α] {front back : List α} {a : α} (h : (front ++ a :: back).Nodup) :
    (front ++ a :: back).filter (· ≠ a) = front ++ back := by
  have ha : a ∉ front ++ back := (List.nodup_cons.mp (List.nodup_middle.mp h)).1
  rw [List.filter_append, List.filter_cons_of_neg (by simp), ← List.filter_append, List.filter_eq_self]
  exact fun b hb => decide_eq_true fun hba => ha (hba ▸ hb)

/-- Without a key that makes no difference there is one warning less. -/
theorem reports_eraseAt {d : Document} (h : key ∈ unread s d) :
    ∃ front back, reports d = front ++ s.warning key :: back ∧ reports (eraseAt key s.path d) = front ++ back := by
  have hkey : ¬Influences s key := (mem_unread_iff.mp h).2
  obtain ⟨before, after, hall⟩ := List.append_of_mem s.mem_all
  have hs : s ∉ before ++ after := by
    have hnodup : (before ++ s :: after).Nodup := hall ▸ (by decide)
    exact (List.nodup_cons.mp (List.nodup_middle.mp hnodup)).1
  have hother (ss : List Section) (hss : s ∉ ss) :
      (ss.flatMap fun s' => (unread s' (eraseAt key s.path d)).map s'.warning) =
        ss.flatMap fun s' => (unread s' d).map s'.warning :=
    List.flatMap_congr fun s' hs' => by
      have hne : s' ≠ s := fun h => hss (h ▸ hs')
      rw [unread_eraseAt_of_ne hne hkey]
  obtain ⟨front, back, hsplit⟩ := List.append_of_mem h
  have hrest : unread s (eraseAt key s.path d) = front ++ back := by
    rw [unread_eraseAt_self, hsplit, filter_ne_of_nodup (hsplit ▸ nodup_unread s d)]
  simp only [List.mem_append, not_or] at hs
  refine ⟨(before.flatMap fun s' => (unread s' d).map s'.warning) ++ front.map s.warning,
    back.map s.warning ++ after.flatMap fun s' => (unread s' d).map s'.warning, ?_, ?_⟩
  · simp [reports, hall, hsplit]
  · simp [reports, hall, hother before hs.1, hother after hs.2, hrest]

/-! ## Dates -/

def Section.hidden (s : Section) (d : Document) : Bool :=
  s.path.inits.tail.any fun p => Toml.standsForDate (entriesAt p d)

/-- Nothing that stands for a date gets in the way: no section is hidden, and if there is a table that stands for a date
that cannot be read, then there is nothing to warn of. -/
def Undated (d : Document) : Prop :=
  (Toml.entriesHaveFaultyDate (entriesAt [] d) = true → reports d = []) ∧ ∀ s : Section, s.hidden d = false

theorem entriesOf_eq (d : Document) : entriesOf d = entriesAt [] d := by
  cases d <;> rfl

theorem lookup_entriesAt (path : List String) (name : String) (d : Document) :
    (((entriesAt path d).lookup name).map entriesOf).getD [] = entriesAt (path ++ [name]) d := by
  induction path generalizing d with
  | nil =>
    cases d with
    | scalar s => rfl
    | list positional items => rfl
    | table selective es =>
      rw [List.nil_append, entriesAt, entriesAt]
      cases es.lookup name with
      | none => rfl
      | some d => exact entriesOf_eq d
  | cons name' path ih =>
    cases d with
    | scalar s => rfl
    | list positional items => rfl
    | table selective es =>
      rw [List.cons_append, entriesAt, entriesAt]
      cases es.lookup name' with
      | none => rfl
      | some d => exact ih d

theorem unknownIn_eq_unread (s : Section) (d : Document) : unknownIn s.known (entriesAt s.path d) = unread s d := by
  refine List.filter_congr fun key _ => ?_
  simp [influences_iff]

theorem entriesUnder_eq (path : List String) (name : String) (d : Document) :
    entriesUnder (entriesAt path d) name =
      if Toml.standsForDate (entriesAt (path ++ [name]) d) then [] else entriesAt (path ++ [name]) d := by
  rw [entriesUnder, lookup_entriesAt]

theorem warnings_of_entries (s : Section) (d : Document) (b : Bool) :
    (unknownIn s.known (if b then [] else entriesAt s.path d)).map s.warning =
      if b then [] else (unread s d).map s.warning := by
  cases b with
  | true => rfl
  | false => exact congrArg (List.map s.warning) (unknownIn_eq_unread s d)

theorem unknownKeys_eq_flatMap {d : Document} (h : Toml.entriesHaveFaultyDate (entriesAt [] d) = false) :
    unknownKeys d = Section.all.flatMap fun s => if s.hidden d then [] else (unread s d).map s.warning := by
  have hrules : entriesUnder (entriesAt [] d) "rules" =
      if Section.rules.hidden d then [] else entriesAt Section.rules.path d := by
    simp [entriesUnder_eq, Section.hidden, Section.path]
  have hanalysis : entriesUnder (entriesAt [] d) "analysis" =
      if Section.analysis.hidden d then [] else entriesAt Section.analysis.path d := by
    simp [entriesUnder_eq, Section.hidden, Section.path]
  have hrisk : entriesUnder (entriesUnder (entriesAt [] d) "analysis") "risk" =
      if Section.risk.hidden d then [] else entriesAt Section.risk.path d := by
    rw [entriesUnder_eq]
    by_cases hdate : Toml.standsForDate (entriesAt ["analysis"] d) = true
    · simp [hdate, Section.hidden, Section.path, entriesUnder]
    · simp [hdate, Section.hidden, Section.path, entriesUnder_eq]
  simp only [unknownKeys, entriesOf_eq, h, Bool.false_eq_true, if_false, Section.all, List.flatMap_cons,
    List.flatMap_nil, ← warnings_of_entries, List.append_nil, List.append_assoc]
  rw [hrisk, hanalysis, hrules]
  rfl

theorem dateKey_mem_keysAt {path : List String} {d : Document} (h : Toml.standsForDate (entriesAt path d) = true) :
    Toml.dateKey ∈ keysAt path d := by
  rw [keysAt]
  cases hes : entriesAt path d with
  | nil => simp [hes, Toml.standsForDate] at h
  | cons e es =>
    have he : e.1 = Toml.dateKey := by simpa [hes, Toml.standsForDate] using h
    simp [he]

theorem not_influences_dateKey (s : Section) : ¬Influences s Toml.dateKey := by
  rw [influences_iff]
  cases s <;> decide

theorem exists_unread_of_hidden {d : Document} (h : s.hidden d = true) :
    ∃ s' : Section, s'.hidden d = true ∧ unread s' d ≠ [] := by
  have hlost (s' : Section) (hs' : Toml.standsForDate (entriesAt s'.path d) = true) : unread s' d ≠ [] :=
    List.ne_nil_of_mem (mem_unread_iff.mpr ⟨dateKey_mem_keysAt hs', not_influences_dateKey s'⟩)
  cases s with
  | top => simp [Section.hidden, Section.path] at h
  | rules => exact ⟨.rules, h, hlost .rules (by simpa [Section.hidden, Section.path] using h)⟩
  | analysis => exact ⟨.analysis, h, hlost .analysis (by simpa [Section.hidden, Section.path] using h)⟩
  | risk =>
    have hdate : Toml.standsForDate (entriesAt ["analysis"] d) = true ∨
        Toml.standsForDate (entriesAt ["analysis", "risk"] d) = true := by
      simpa [Section.hidden, Section.path] using h
    obtain hdate | hdate := hdate
    · exact ⟨.analysis, by simpa [Section.hidden, Section.path] using hdate, hlost .analysis hdate⟩
    · exact ⟨.risk, h, hlost .risk hdate⟩

theorem flatMap_eq_iff_of_sublist {α β : Type} {f g : α → List β} (h : ∀ a, (f a).Sublist (g a)) (as : List α) :
    as.flatMap f = as.flatMap g ↔ ∀ a ∈ as, f a = g a := by
  refine ⟨fun heq => ?_, List.flatMap_congr⟩
  induction as with
  | nil => simp
  | cons a as ih =>
    rw [List.flatMap_cons, List.flatMap_cons] at heq
    have hlength := congrArg List.length heq
    rw [List.length_append, List.length_append] at hlength
    have hfront := (h a).length_le
    have hback := (List.Sublist.flatMap_right as fun a _ => h a).length_le
    obtain ⟨ha, has⟩ := List.append_inj heq (by omega)
    exact List.forall_mem_cons.mpr ⟨ha, ih has⟩

theorem shown_sublist (d : Document) (s : Section) :
    (if s.hidden d then [] else (unread s d).map s.warning).Sublist ((unread s d).map s.warning) := by
  split
  · exact List.nil_sublist _
  · exact .refl _

theorem unknownKeys_of_faulty {d : Document} (h : Toml.entriesHaveFaultyDate (entriesAt [] d) = true) :
    unknownKeys d = [] := by
  rw [unknownKeys, entriesOf_eq]
  exact if_pos h

/-- All warnings that are given are about keys that make no difference. -/
theorem unknownKeys_sublist (d : Document) : (unknownKeys d).Sublist (reports d) := by
  cases h : Toml.entriesHaveFaultyDate (entriesAt [] d) with
  | true => exact unknownKeys_of_faulty h ▸ List.nil_sublist _
  | false => exact unknownKeys_eq_flatMap h ▸ List.Sublist.flatMap_right _ fun s _ => shown_sublist d s

theorem not_hidden_iff (d : Document) :
    (∀ s : Section, s.hidden d = false) ↔ ∀ s : Section, s.hidden d = true → unread s d = [] := by
  refine ⟨fun h s hs => absurd hs (by simp [h s]), fun h s => ?_⟩
  by_contra hs
  obtain ⟨s', hs', hne⟩ := exists_unread_of_hidden (Bool.not_eq_false _ ▸ hs)
  exact hne (h s' hs')

theorem unread_of_reports_eq_nil {d : Document} (h : reports d = []) (s : Section) : unread s d = [] := by
  simpa using List.flatMap_eq_nil_iff.mp h s s.mem_all

/-- The keys that make no difference are those that are warned of, unless something stands for a date. -/
theorem unknownKeys_eq_reports_iff (d : Document) : unknownKeys d = reports d ↔ Undated d := by
  rw [Undated, not_hidden_iff]
  cases h : Toml.entriesHaveFaultyDate (entriesAt [] d) with
  | true =>
    rw [unknownKeys_of_faulty h, eq_comm]
    exact ⟨fun hnone => ⟨fun _ => hnone, fun s _ => unread_of_reports_eq_nil hnone s⟩, fun hundated => hundated.1 rfl⟩
  | false =>
    rw [unknownKeys_eq_flatMap h, reports, flatMap_eq_iff_of_sublist (shown_sublist d)]
    have hpart (s : Section) : (if s.hidden d then [] else (unread s d).map s.warning) = (unread s d).map s.warning ↔
        (s.hidden d = true → unread s d = []) := by
      cases s.hidden d <;> simp
    simp [Section.mem_all, hpart]

/-! ## Files -/

def located (path : Path) (c : Config) : Config :=
  match path.parent? with
  | some base => c.resolvePaths base
  | none => c

/-- The configuration that a document describes, as that of the file at a path, and warnings. -/
def ofDocument (path : Path) (d : Document) : Except ConfigError (Config × List String) := do
  let given ← (read d).mapError (.badContent path)
  return (located path given.sanitize.1, unknownKeys d ++ given.sanitize.2)

theorem parse_eq_ofDocument (path : Path) (text : String) :
    parse path text = (Toml.parse text).mapError (.badSyntax path) >>= ofDocument path := rfl

theorem ofDocument_of_read {path : Path} {d : Document} {given : Config} (h : read d = .ok given) :
    ofDocument path d = .ok (located path given.sanitize.1, unknownKeys d ++ given.sanitize.2) := by
  rw [ofDocument, h]
  rfl

/-- A file is accepted if it has a document that describes a configuration. -/
theorem exists_read_of_parse {path : Path} {text : String} {result : Config × List String}
    (h : parse path text = .ok result) : ∃ d given, Toml.parse text = .ok d ∧ read d = .ok given ∧
      result = (located path given.sanitize.1, unknownKeys d ++ given.sanitize.2) := by
  rw [parse_eq_ofDocument] at h
  cases hd : Toml.parse text with
  | error e => simp [hd, Except.mapError, bind, Except.bind] at h
  | ok d =>
    replace h : ofDocument path d = .ok result := by rwa [hd] at h
    cases hgiven : read d with
    | error e => simp [ofDocument, hgiven, Except.mapError, bind, Except.bind] at h
    | ok given =>
      rw [ofDocument_of_read hgiven] at h
      exact ⟨d, given, rfl, hgiven, (Except.ok.inj h).symm⟩

/-- The warnings about the keys of a configuration file that is accepted are some of those about the keys of its
document that make no difference to what is read, each given once. They are all of these exactly if nothing that
stands for a date gets in the way. Without such a key the configuration is the same, and then exactly the warning
about the key is missing, again unless something stands for a date. -/
theorem unknown_reported_iff {path : Path} {text : String} {config : Config} {warnings : List String}
    (h : parse path text = .ok (config, warnings)) :
    ∃ d given, Toml.parse text = .ok d ∧ read d = .ok given ∧ warnings = unknownKeys d ++ given.sanitize.2 ∧
      (reports d).Nodup ∧ (unknownKeys d).Sublist (reports d) ∧ (unknownKeys d = reports d ↔ Undated d) ∧
      ∀ s : Section, ∀ key ∈ unread s d, ∃ front back, reports d = front ++ s.warning key :: back ∧
        ofDocument path (eraseAt key s.path d) =
          .ok (config, unknownKeys (eraseAt key s.path d) ++ given.sanitize.2) ∧
        (unknownKeys (eraseAt key s.path d) = front ++ back ↔ Undated (eraseAt key s.path d)) := by
  obtain ⟨d, given, hd, hgiven, hresult⟩ := exists_read_of_parse h
  obtain ⟨rfl, rfl⟩ := Prod.mk.inj hresult
  refine ⟨d, given, hd, hgiven, rfl, nodup_reports d, unknownKeys_sublist d, unknownKeys_eq_reports_iff d,
    fun s key hkey => ?_⟩
  obtain ⟨front, back, hreports, herased⟩ := reports_eraseAt hkey
  have hread : read (eraseAt key s.path d) = .ok given := by
    rw [read_eraseAt (fun hknown => (mem_unread_iff.mp hkey).2 (influences_of_known hknown)), hgiven]
  exact ⟨front, back, hreports, ofDocument_of_read hread, herased ▸ unknownKeys_eq_reports_iff _⟩

/-- A date that cannot be read takes all warnings away. -/
theorem unknown_reported_iff_beside_date :
    ∃ d, Toml.parse "zzz = 1\n[other]\n\"$__toml_private_datetime\" = \"x\"\n" = .ok d ∧ unknownKeys d = [] ∧
      reports d = ["Unknown config option: 'other'", "Unknown config option: 'zzz'"] ∧ ¬Undated d := by
  have hparse : parse "vibesec.toml" "zzz = 1\n[other]\n\"$__toml_private_datetime\" = \"x\"\n" = .ok ({}, []) :=
    eq_ok_of_toOption (by decide +kernel)
  have hreports : (Toml.parse "zzz = 1\n[other]\n\"$__toml_private_datetime\" = \"x\"\n").toOption.any (fun d =>
      reports d = ["Unknown config option: 'other'", "Unknown config option: 'zzz'"]) = true := by decide +kernel
  obtain ⟨d, given, hd, -, hwarnings, -, -, hiff, -⟩ := unknown_reported_iff hparse
  obtain ⟨hnone, -⟩ := List.append_eq_nil_iff.mp hwarnings.symm
  replace hreports : reports d = ["Unknown config option: 'other'", "Unknown config option: 'zzz'"] := by
    simpa [hd, Except.toOption] using hreports
  refine ⟨d, hd, hnone, hreports, ?_⟩
  rw [← hiff, hnone, hreports]
  simp

end SourceAudit.Config
