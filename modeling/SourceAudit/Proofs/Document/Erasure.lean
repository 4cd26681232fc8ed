import SourceAudit.Document.Basic

/-!
# Documents without a key

* `entriesAt path d`, `keysAt path d` : the entries and keys of the table at the end of a path;
* `eraseAt key path d` : a document without a key of that table;
* `entriesAt_eraseAt`, `keysAt_eraseAt_of_ne` : the table loses the key, and no other table loses one;
* `readFields_eraseAt` : a record is read as before if the key is none of its fields;
* `readFields_eraseAt_below` : so it is if the key is below a field whose reading does not depend on it.
-/

namespace SourceAudit.Document

variable {key name : String} {path other ks : List String} {es : List (String × Document)} {d : Document}
variable {f : Document → Document}

def without (key : String) (es : List (String × Document)) : List (String × Document) := es.filter (·.1 ≠ key)

def changeEntry (name : String) (f : Document → Document) (e : String × Document) : String × Document :=
  if e.1 = name then (e.1, f e.2) else e

/-- A document without a key of the table at the end of a path. -/
def eraseAt (key : String) : List String → Document → Document
  | [], .table selective es => .table selective (without key es)
  | name :: path, .table selective es => .table selective (es.map (changeEntry name (eraseAt key path)))
  | _, d => d

/-- The entries of the table at the end of a path; nothing else has any. -/
def entriesAt : List String → Document → List (String × Document)
  | [], .table _ es => es
  | name :: path, .table _ es => (es.lookup name).elim [] (entriesAt path)
  | _, _ => []

def keysAt (path : List String) (d : Document) : List String := (entriesAt path d).map (·.1)

/-! ## Tables -/

@[simp] theorem changeEntry_fst (e : String × Document) : (changeEntry name f e).1 = e.1 := by
  unfold changeEntry
  split <;> rfl

theorem lookup_without (h : name ≠ key) : (without key es).lookup name = es.lookup name := by
  induction es with
  | nil => rfl
  | cons e es ih =>
    obtain ⟨k, d⟩ := e
    by_cases hk : k = key
    · have hname : (name == k) = false := by simpa [hk] using h
      rw [without, List.filter_cons_of_neg (by simpa using hk), List.lookup_cons, hname]
      exact ih
    · rw [without, List.filter_cons_of_pos (by simpa using hk), List.lookup_cons, List.lookup_cons]
      split
      · rfl
      · exact ih

theorem lookup_changeEntry (k : String) :
    (es.map (changeEntry name f)).lookup k = (es.lookup k).map fun d => if k = name then f d else d := by
  induction es with
  | nil => rfl
  | cons e es ih =>
    obtain ⟨k', d⟩ := e
    by_cases hk : k = k'
    · subst hk
      by_cases hname : k = name <;> simp [changeEntry, hname]
    · have hne : (k == k') = false := by simpa using hk
      rw [List.map_cons, List.lookup_cons, List.lookup_cons, changeEntry_fst, hne, ih]

theorem entriesAt_eraseAt (key : String) (path : List String) (d : Document) :
    entriesAt path (eraseAt key path d) = without key (entriesAt path d) := by
  induction path generalizing d with
  | nil => cases d <;> rfl
  | cons name path ih =>
    cases d with
    | scalar s => rfl
    | list positional items => rfl
    | table selective es =>
      rw [eraseAt, entriesAt, entriesAt, lookup_changeEntry]
      cases es.lookup name with
      | none => rfl
      | some d => simpa using ih d

/-- Only the table at the end of the path, and what is below the key, has other keys than before. -/
theorem keysAt_eraseAt_of_ne (hne : other ≠ path) (hbelow : ¬path ++ [key] <+: other) (d : Document) :
    keysAt other (eraseAt key path d) = keysAt other d := by
  induction path generalizing other d with
  | nil =>
    cases d with
    | scalar s => rfl
    | list positional items => rfl
    | table selective es =>
      cases other with
      | nil => exact absurd rfl hne
      | cons name other =>
        have hname : name ≠ key := fun h => hbelow (by simp [h])
        rw [keysAt, keysAt, eraseAt, entriesAt, entriesAt, lookup_without hname]
  | cons name path ih =>
    cases d with
    | scalar s => rfl
    | list positional items => rfl
    | table selective es =>
      cases other with
      | nil => simp [keysAt, eraseAt, entriesAt, Function.comp_def]
      | cons name' other =>
        rw [keysAt, keysAt, eraseAt, entriesAt, entriesAt, lookup_changeEntry]
        cases es.lookup name' with
        | none => rfl
        | some d =>
          by_cases hname : name' = name
          · subst hname
            simpa [keysAt] using ih (by simpa using hne) (by simpa using hbelow) d
          · simp [hname]

/-! ## Records -/

theorem readFields_cons (k : String) (names : List (List String)) (selective : Selective) :
    readFields ([k] :: names) (.table selective es) =
      (fieldOf? es [k]).bind fun v => (readFields names (.table selective es)).map ((v.map (k, ·)).toList ++ ·) := by
  simp only [readFields, List.mapM_cons, bind, pure, Except.pure]
  cases fieldOf? es [k] with
  | error e => rfl
  | ok v =>
    simp only [Except.bind]
    generalize (names.mapM _ : Except DecodeError _) = found
    cases found <;> cases v <;> rfl

theorem fieldOf?_without {names : List String} (h : key ∉ names) :
    fieldOf? (without key es) names = fieldOf? es names := by
  have hfilter : (without key es).filter (fun e => names.contains e.1) = es.filter fun e => names.contains e.1 := by
    rw [without, List.filter_filter]
    refine List.filter_congr fun e _ => ?_
    by_cases he : e.1 = key <;> simp [he, h]
  unfold fieldOf?
  rw [hfilter]

theorem fieldOf?_changeEntry (k : String) :
    fieldOf? (es.map (changeEntry name f)) [k] =
      (fieldOf? es [k]).map (Option.map fun d => if k = name then f d else d) := by
  have hfilter : (es.map (changeEntry name f)).filter (fun e => [k].contains e.1) =
      (es.filter fun e => [k].contains e.1).map (changeEntry name f) := by
    rw [List.filter_map]
    simp [Function.comp_def]
  unfold fieldOf?
  rw [hfilter]
  have hkey : ∀ e ∈ es.filter fun e => [k].contains e.1, e.1 = k := by simp
  generalize es.filter (fun e => [k].contains e.1) = found at hkey
  match found with
  | [] => rfl
  | [(k', d)] =>
    obtain rfl : k' = k := hkey (k', d) (List.mem_singleton.mpr rfl)
    by_cases hname : k' = name <;> simp [changeEntry, hname, Except.map]
  | _ :: _ :: _ => rfl

theorem readFields_eraseAt (h : key ∉ ks) (d : Document) :
    readFields (ks.map fun k => [k]) (eraseAt key [] d) = readFields (ks.map fun k => [k]) d := by
  cases d with
  | scalar s => rfl
  | list positional items => rfl
  | table selective es =>
    induction ks with
    | nil => rfl
    | cons k ks ih =>
      simp only [List.mem_cons, not_or] at h
      rw [eraseAt] at ih ⊢
      rw [List.map_cons, readFields_cons, readFields_cons, fieldOf?_without (by simpa using h.1), ih h.2]

theorem readFields_changeEntry (selective : Selective) :
    readFields (ks.map fun k => [k]) (.table selective (es.map (changeEntry name f))) =
      (readFields (ks.map fun k => [k]) (.table selective es)).map (List.map (changeEntry name f)) := by
  induction ks with
  | nil => rfl
  | cons k ks ih =>
    rw [List.map_cons, readFields_cons, readFields_cons, fieldOf?_changeEntry, ih]
    generalize readFields (ks.map fun k => [k]) (.table selective es) = r
    cases fieldOf? es [k] with
    | error e => rfl
    | ok v =>
      cases r with
      | error e => rfl
      | ok r =>
        cases v with
        | none => rfl
        | some d => by_cases hname : k = name <;> simp [Except.map, Except.bind, changeEntry, hname]

theorem readFields_eraseAt_below {α : Type} {next : Record → Except DecodeError α}
    (h : ∀ r : Record, next (r.map (changeEntry name (eraseAt key path))) = next r) (d : Document) :
    (readFields (ks.map fun k => [k]) (eraseAt key (name :: path) d) >>= next) =
      readFields (ks.map fun k => [k]) d >>= next := by
  cases d with
  | scalar s => rfl
  | list positional items => rfl
  | table selective es =>
    rw [eraseAt, readFields_changeEntry]
    cases readFields (ks.map fun k => [k]) (.table selective es) with
    | error e => rfl
    | ok r => exact h r

theorem withDefault_changeEntry {α : Type} (r : Record) (k : String) (read : Reader α) (a : α) :
    Record.withDefault (r.map (changeEntry name f)) k read a =
      r.withDefault k (fun d => read (if k = name then f d else d)) a := by
  unfold Record.withDefault
  rw [lookup_changeEntry]
  cases r.lookup k <;> rfl

end SourceAudit.Document
