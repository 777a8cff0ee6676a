import QuadOpt.Config.Write
import QuadOpt.Proofs.Config.Overlay

/-!
# The document of a configuration

Any choice of the settings that a configuration is written with makes a document. It holds the chosen
settings with the values of the configuration and nothing else, and the document of all of them is
what both formats write.
-/

namespace QuadOpt

namespace Document

/-- A table that was written out with the given values under their names. -/
def tableOf (es : List (String × Tree)) : Tree :=
  .table .header (es.map fun e => (⟨.name e.1, none⟩, none, e.2)) true

variable {es : List (String × Tree)}

theorem tidy_tableOf (h : (es.map (·.1)).Nodup) (names : List String) : Tidy names (tableOf es) where
  closed := ⟨_, _, rfl⟩
  readable e he := by
    obtain ⟨e', _, rfl⟩ := List.mem_map.1 he
    exact ⟨e'.1, rfl⟩
  once := by
    have hnames : (tableOf es).entries.filterMap (·.1.name?) = es.map (·.1) := by
      rw [tableOf, Tree.entries, List.filterMap_map, ← List.filterMap_eq_map]
      rfl
    rw [hnames]
    exact h.filter _

theorem holds_tableOf {name : String} {path : List String} {v : Tree} :
    (tableOf es).Holds (name :: path) v ↔ ∃ w, (name, w) ∈ es ∧ w.Holds path v := by
  constructor
  · rintro ⟨e, he, hname, hv⟩
    obtain ⟨e', he', rfl⟩ := List.mem_map.1 he
    rw [KeyText.name.injEq] at hname
    exact ⟨e'.2, hname ▸ he', hv⟩
  · rintro ⟨w, hw, hv⟩
    exact ⟨_, List.mem_map_of_mem hw, rfl, hv⟩

/-! ## Texts -/

/-- A value that is no table, as a format with these numbers writes it. -/
def scalarText? (number : Notation) : Tree → Option String
  | .bool b => some (toString b)
  | .int i => some (toString i)
  | .float x => some (number.text x)
  | .text s => some (Config.quotedName s)
  | _ => none

/-- The name of an entry and the text of its value. -/
def named? (text? : Tree → Option String) (e : Entry) : Option (String × String) := do
  return (← e.1.name?, ← text? e.2.2)

def tomlLine? (e : Entry) : Option String := do
  let (key, value) ← named? (scalarText? Config.tomlNumber) e
  return key ++ " = " ++ value

/-- A value stands behind its key; a table has a header and a line for each of its values. -/
def tomlLines? (e : Entry) : Option (List String) :=
  match e.2.2 with
  | .table _ entries _ => do return ["", "[" ++ (← e.1.name?) ++ "]"] ++ (← entries.mapM tomlLine?)
  | _ => do return [← tomlLine? e]

/-- The text of a table whose tables stand behind its other values and have none inside. -/
def toml? (t : Tree) : Option String := do
  return String.join ((← t.entries.mapM tomlLines?).flatten.map (· ++ "\n"))

/-- The text of a value with at most `depth` tables inside one another. -/
def json? : (depth : ℕ) → Tree → Option String
  | depth + 1, .table _ entries _ => do
    return Config.jsonTable (← entries.mapM (named? (json? depth)))
  | _, t => scalarText? Config.jsonNumber t

theorem named?_name {text? : Tree → Option String} {t : Tree} {text : String}
    (h : text? t = some text) (name : String) :
    named? text? (⟨.name name, none⟩, none, t) = some (name, text) := by
  simp only [named?, h]
  rfl

/-- Entries are written one by one. -/
theorem mapM_entry {α β : Type} {write : Entry → Option β} {entry : α → Entry} {text : α → β}
    (h : ∀ a, write (entry a) = some (text a)) (l : List α) :
    (l.map entry).mapM write = some (l.map text) := by
  rw [List.mapM_map, ← Option.pure_def, ← List.mapM_pure]
  congr 1
  exact funext h

end Document

namespace Config

open Document

/-- The settings of a section that `S` picks, in the order in which they are written. -/
def Section.document (S : List String → Bool) (s : Section) : Tree :=
  tableOf ((s.settings.filter fun e => S [s.name, e.1]).map fun e => (e.1, e.2.tree))

/-- The settings of a configuration that `S` picks, in the order in which they are written. -/
def document (S : List String → Bool) (c : Config) : Tree :=
  tableOf ((if S ["backend"] then [("backend", .text c.backend.name)] else []) ++
    c.sections.map fun s => (s.name, s.document S))

variable {c : Config} {S : List String → Bool} {s : Section}

theorem nodup_settings (hs : s ∈ c.sections) : (s.settings.map (·.1)).Nodup := by
  simp only [sections, List.mem_cons, List.not_mem_nil, or_false] at hs
  rcases hs with rfl | rfl | rfl | rfl
  · exact List.nodup_singleton _
  · simp [osqpSection, switches]
  · simp [clarabelSection, switches]
  · simp [totsuSection]

theorem name_ne_backend (hs : s ∈ c.sections) : s.name ≠ "backend" := by
  have hname : s.name ∈ c.sections.map (·.name) := List.mem_map_of_mem hs
  rw [map_name_sections] at hname
  intro h
  rw [h] at hname
  exact absurd hname (by decide)

theorem valueAt_setting (hs : s ∈ c.sections) (key : String) :
    c.valueAt [s.name, key] = (s.settings.lookup key).map Scalar.tree := by
  simp only [sections, List.mem_cons, List.not_mem_nil, or_false] at hs
  rcases hs with rfl | rfl | rfl | rfl <;> rfl

theorem lookup_of_mem {entries : List (String × Scalar)} (hnodup : (entries.map (·.1)).Nodup)
    {e : String × Scalar} (he : e ∈ entries) : entries.lookup e.1 = some e.2 := by
  induction entries with
  | nil => cases he
  | cons first rest ih =>
    rw [List.map_cons, List.nodup_cons] at hnodup
    rw [List.lookup_cons]
    rcases List.mem_cons.1 he with rfl | he
    · rw [beq_self_eq_true]
    · have hne : e.1 ≠ first.1 := fun h => hnodup.1 (h ▸ List.mem_map_of_mem he)
      rw [beq_false_of_ne hne]
      exact ih hnodup.2 he

/-! ## What the document holds -/

theorem holds_backend {v : Tree} :
    (c.document S).Holds ["backend"] v ↔ S ["backend"] = true ∧ v = .text c.backend.name := by
  unfold document
  rw [holds_tableOf]
  constructor
  · rintro ⟨w, hw, rfl⟩
    rcases List.mem_append.1 hw with hw | hw
    · split at hw
      · next h => exact ⟨h, by simpa using hw⟩
      · cases hw
    · obtain ⟨s, hs, hpair⟩ := List.mem_map.1 hw
      exact absurd (congrArg Prod.fst hpair) (name_ne_backend hs)
  · rintro ⟨h, rfl⟩
    exact ⟨_, List.mem_append_left _ (by simp [h]), rfl⟩

theorem holds_section {name : String} {path : List String} {v : Tree} (hname : name ≠ "backend") :
    (c.document S).Holds (name :: path) v ↔
      ∃ s ∈ c.sections, s.name = name ∧ (s.document S).Holds path v := by
  unfold document
  rw [holds_tableOf]
  constructor
  · rintro ⟨w, hw, hv⟩
    rcases List.mem_append.1 hw with hw | hw
    · split at hw
      · exact absurd (congrArg Prod.fst (List.mem_singleton.1 hw)) hname
      · cases hw
    · obtain ⟨s, hs, hpair⟩ := List.mem_map.1 hw
      cases hpair
      exact ⟨s, hs, rfl, hv⟩
  · rintro ⟨s, hs, rfl, hv⟩
    exact ⟨_, List.mem_append_right _ (List.mem_map_of_mem hs), hv⟩

theorem holds_setting (hs : s ∈ c.sections) {key : String} {v : Tree} :
    (s.document S).Holds [key] v ↔ S [s.name, key] = true ∧ c.valueAt [s.name, key] = some v := by
  unfold Section.document
  rw [holds_tableOf, valueAt_setting hs]
  constructor
  · rintro ⟨w, hw, rfl⟩
    obtain ⟨e, he, hpair⟩ := List.mem_map.1 hw
    cases hpair
    rw [List.mem_filter] at he
    exact ⟨he.2, by rw [lookup_of_mem (nodup_settings hs) he.1]; rfl⟩
  · rintro ⟨h, hv⟩
    obtain ⟨x, hx, rfl⟩ := Option.map_eq_some_iff.1 hv
    refine ⟨x.tree, List.mem_map.2 ⟨(key, x), ?_, rfl⟩, rfl⟩
    exact List.mem_filter.2 ⟨mem_of_lookup hx, h⟩

theorem fields_ne_backend {types : String × List (String × FieldType)} (h : types ∈ fields) :
    types.1 ≠ "backend" := by
  simp only [fields, List.mem_cons, List.not_mem_nil, or_false] at h
  rcases h with rfl | rfl | rfl | rfl <;> simp

theorem overlay_document (S : List String → Bool) (c : Config) : c.Overlay (c.document S) where
  top := by
    apply tidy_tableOf
    have hnames : (c.sections.map fun s => (s.name, s.document S)).map (·.1) =
        ["quadprog", "osqp", "clarabel", "totsu"] := rfl
    rw [List.map_append, hnames]
    split <;> simp
  sections types htypes v hv := by
    obtain ⟨s, hs, -, rfl⟩ := (holds_section (fields_ne_backend htypes)).1 hv
    apply tidy_tableOf
    rw [List.map_map]
    exact (nodup_settings hs).sublist (List.filter_sublist.map _)
  values path v hv w hw := by
    rcases path with _ | ⟨name, _ | ⟨key, _ | _⟩⟩
    · cases hw
    · obtain ⟨rfl, rfl⟩ : name = "backend" ∧ Tree.text c.backend.name = w := by
        simpa [valueAt] using hw
      exact (holds_backend.1 hv).2
    · by_cases hname : name = "backend"
      · subst hname
        cases hw
      · obtain ⟨s, hs, rfl, hvalue⟩ := (holds_section hname).1 hv
        exact Option.some.inj (((holds_setting hs).1 hvalue).2.symm.trans hw)
    · cases hw

theorem has_document {path : List String} (hknown : (c.valueAt path).isSome) :
    (c.document S).Has path ↔ S path = true := by
  rcases path with _ | ⟨name, _ | ⟨key, _ | _⟩⟩
  · cases hknown
  · obtain rfl : name = "backend" := by
      by_contra h
      simp [valueAt, h] at hknown
    simp [Tree.Has, holds_backend]
  · obtain ⟨w, hw⟩ := Option.isSome_iff_exists.1 hknown
    obtain ⟨s, hfind, -⟩ := Option.bind_eq_some_iff.1 hw
    have hs : s ∈ c.sections := List.mem_of_find?_eq_some hfind
    obtain rfl : s.name = name := by simpa using List.find?_some hfind
    constructor
    · rintro ⟨v, hv⟩
      obtain ⟨s', hs', hname, hv⟩ := (holds_section (name_ne_backend hs)).1 hv
      have hpicked := ((holds_setting hs').1 hv).1
      rwa [hname] at hpicked
    · intro h
      exact ⟨w, (holds_section (name_ne_backend hs)).2 ⟨s, hs, rfl, (holds_setting hs).2 ⟨h, hw⟩⟩⟩
  · cases hknown

/-- Only the choice among the settings that there are counts. -/
theorem document_congr {T : List String → Bool}
    (h : ∀ path, (c.valueAt path).isSome → S path = T path) : c.document S = c.document T := by
  have hsections : c.sections.map (fun s => (s.name, s.document S)) =
      c.sections.map fun s => (s.name, s.document T) := by
    refine List.map_congr_left fun s hs => ?_
    have hpicked : (s.settings.filter fun e => S [s.name, e.1]) =
        s.settings.filter fun e => T [s.name, e.1] := by
      refine List.filter_congr fun e he => h _ ?_
      rw [valueAt_setting hs, lookup_of_mem (nodup_settings hs) he]
      rfl
    rw [Section.document, Section.document, hpicked]
  rw [document, document, hsections, h ["backend"] rfl]

/-! ## How it is written -/

theorem scalarText?_tree (number : Notation) (v : Scalar) :
    scalarText? number v.tree = some (v.text number) := by
  cases v <;> rfl

theorem Section.document_all (s : Section) :
    s.document (fun _ => true) =
      .table .header (s.settings.map fun e => (⟨.name e.1, none⟩, none, e.2.tree)) true := by
  rw [Section.document, List.filter_true, tableOf, List.map_map]
  rfl

theorem document_all (c : Config) :
    c.document (fun _ => true) =
      .table .header ((⟨.name "backend", none⟩, none, .text c.backend.name) ::
        c.sections.map fun s => (⟨.name s.name, none⟩, none, s.document fun _ => true)) true := by
  rw [document, if_pos rfl, tableOf, List.map_append, List.map_map]
  rfl

theorem tomlLines?_section (s : Section) :
    tomlLines? (⟨.name s.name, none⟩, none, s.document fun _ => true) = some s.tomlLines := by
  have hline (e : String × Scalar) : tomlLine? (⟨.name e.1, none⟩, none, e.2.tree) =
      some (e.1 ++ " = " ++ e.2.text tomlNumber) := by
    rw [tomlLine?, named?_name (scalarText?_tree tomlNumber e.2)]
    rfl
  simp only [Section.document_all, tomlLines?, mapM_entry hline]
  rfl

/-- In TOML a configuration is written as its whole document. -/
theorem toml?_document (c : Config) : toml? (c.document fun _ => true) = some c.toToml := by
  have hbackend : tomlLines? (⟨.name "backend", none⟩, none, .text c.backend.name) =
      some ["backend = " ++ quotedName c.backend.name] := rfl
  rw [toml?, document_all, Tree.entries, List.mapM_cons, hbackend, mapM_entry tomlLines?_section,
    toToml, tomlLines, List.flatMap_def]
  rfl

theorem json?_setting (e : String × Scalar) :
    named? (json? 0) (⟨.name e.1, none⟩, none, e.2.tree) = some (e.1, e.2.text jsonNumber) := by
  apply named?_name
  rw [← scalarText?_tree]
  cases e.2 <;> rfl

theorem json?_section (s : Section) :
    named? (json? 1) (⟨.name s.name, none⟩, none, s.document fun _ => true) =
      some (s.name, s.json) := by
  apply named?_name
  rw [Section.document_all, json?, mapM_entry json?_setting]
  rfl

/-- In JSON a configuration is written as its whole document. -/
theorem json?_document (c : Config) : json? 2 (c.document fun _ => true) = some c.toJson := by
  have hbackend : named? (json? 1) (⟨.name "backend", none⟩, none, .text c.backend.name) =
      some ("backend", quotedName c.backend.name) := rfl
  rw [document_all, json?, List.mapM_cons, hbackend, mapM_entry json?_section]
  rfl

end Config

end QuadOpt
