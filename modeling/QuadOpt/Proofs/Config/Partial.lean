import QuadOpt.Config.Json
import QuadOpt.Proofs.Config.Document

/-!
# Partial configurations

Reading a document that has some of the settings, in either format, follows the configuration that it
was made from where it has something and the defaults elsewhere.
-/

namespace QuadOpt.Config

open Document

theorem fromToml_eq {text : String} {t : Tree} (h : Toml.read text = some t) :
    fromToml text = (ofTree Toml.dialect kindOfToml t).mapError (.config text) := by
  rw [fromToml, ofToml, h]

theorem fromToml_eq_ok {text : String} {t : Tree} {r : Config} (h : Toml.read text = some t)
    (hr : ofTree Toml.dialect kindOfToml t = .ok r) : fromToml text = .ok r := by
  rw [fromToml_eq h, hr]
  rfl

theorem ofJson_eq_ok {text : String} {t : Tree} {r : Config} (h : Json.read text = (t, true))
    (hr : ofTree Json.dialect kindOfJson t = .ok r) : ofJson text = .ok r := by
  simp only [ofJson, Json.decodeText, h, hr, if_true]

/-- Every choice of settings makes a document over the defaults, and the choice of all makes the one
that is written; reading one follows the document and the defaults; a document is read if its fields
take what it has for them, and is not read if there is a scalar among them that its field does not
take. -/
theorem partial_documents_exact :
    (∀ (c : Config) (S : List String → Bool), ∃ t, c.Overlay t ∧
      (∀ path, (c.valueAt path).isSome → (t.Has path ↔ S path = true)) ∧
      ((∀ path, (c.valueAt path).isSome → S path = true) →
        toml? t = some c.toToml ∧ json? 2 t = some c.toJson)) ∧
    (∀ (c : Config) (t : Tree), c.Overlay t → ∃ r,
      (∀ text, Toml.read text = some t → fromToml text = .ok r) ∧
      (∀ text, Json.read text = (t, true) → ofJson text = .ok r) ∧
      (∀ path, t.Has path → r.valueAt path = c.valueAt path) ∧
      (∀ path, ¬ t.Has path → r.valueAt path = default.valueAt path) ∧
      ((∀ path, (c.valueAt path).isSome → t.Has path) → r = c)) ∧
    (∀ t : Tree, Shaped t →
      (∀ path f v, fieldAt path = some f → t.Holds path v → f.Takes v) →
      (∀ text, Toml.read text = some t → ∃ r, fromToml text = .ok r) ∧
      ∀ text, Json.read text = (t, true) → ∃ r, ofJson text = .ok r) ∧
    ∀ (t : Tree) (path : List String) (f : FieldType) (v : Tree), fieldAt path = some f →
      t.Holds path v → IsScalar v → ¬ f.Takes v →
      (∀ text, Toml.read text = some t → ∃ e, fromToml text = .error e ∧ e.category = .config) ∧
      ∀ text complete, Json.read text = (t, complete) → ∃ fault, ofJson text = .error fault := by
  refine ⟨?_, ?_, ?_, ?_⟩
  · intro c S
    refine ⟨c.document S, overlay_document S c, fun _ => has_document, fun hall => ?_⟩
    rw [document_congr hall]
    exact ⟨toml?_document c, json?_document c⟩
  · intro c t hoverlay
    obtain ⟨r, hr, hvalues⟩ := exists_ofTree Toml.dialect kindOfToml_name hoverlay
    obtain ⟨r', hr', hvalues'⟩ := exists_ofTree Json.dialect kindOfJson_name hoverlay
    have hsame : r' = r := by
      apply eq_of_valueAt
      intro path
      by_cases hhas : t.Has path
      · rw [(hvalues' path).1 hhas, (hvalues path).1 hhas]
      · rw [(hvalues' path).2 hhas, (hvalues path).2 hhas]
    refine ⟨r, fun text htext => fromToml_eq_ok htext hr,
      fun text htext => ofJson_eq_ok htext (hsame ▸ hr'), fun path => (hvalues path).1,
      fun path => (hvalues path).2, fun hall => eq_of_valueAt fun path => ?_⟩
    by_cases hhas : t.Has path
    · exact (hvalues path).1 hhas
    · have hunknown : c.valueAt path = none := by
        rw [← Option.not_isSome_iff_eq_none]
        exact fun h => hhas (hall path h)
      rw [(hvalues path).2 hhas, hunknown, valueAt_eq_none hunknown]
  · intro t hshaped htakes
    constructor
    · intro text htext
      obtain ⟨r, hr⟩ := exists_ofTree_of_takes Toml.dialect (fun _ => decodes_kindOfToml) hshaped
        htakes
      exact ⟨r, fromToml_eq_ok htext hr⟩
    · intro text htext
      obtain ⟨r, hr⟩ := exists_ofTree_of_takes Json.dialect (fun _ => decodes_kindOfJson) hshaped
        htakes
      exact ⟨r, ofJson_eq_ok htext hr⟩
  · intro t path f v hfield hholds hscalar h
    constructor
    · intro text htext
      obtain ⟨fault, hfault⟩ := exists_ofTree_eq_error Toml.dialect (fun _ => decodes_kindOfToml)
        hfield hholds hscalar h
      exact ⟨.config text fault, by rw [fromToml_eq htext, hfault]; rfl, rfl⟩
    · intro text complete htext
      obtain ⟨fault, hfault⟩ := exists_ofTree_eq_error Json.dialect (fun _ => decodes_kindOfJson)
        hfield hholds hscalar h
      exact ⟨fault, by simp only [ofJson, Json.decodeText, htext, hfault]⟩

/-- A backend and a setting of its section, at the given places of a text. -/
def chosenOsqp (form : TableForm) (places : List Span) : Tree :=
  .table form [(⟨.name "backend", places[0]?⟩, places[1]?, .text "OSQP"),
    (⟨.name "osqp", places[2]?⟩, places[3]?,
      .table form [(⟨.name "force_initialize", places[4]?⟩, places[5]?, .bool false)] true)] true

theorem overlay_chosenOsqp (form : TableForm) (places : List Span) :
    Overlay { default with backend := .osqp, osqp := { defaultOsqp with forceInitialize := false } }
      (chosenOsqp form places) where
  top := by
    refine ⟨⟨_, _, rfl⟩, by simp [chosenOsqp, Tree.entries], ?_⟩
    have hnames : ["backend", "osqp"].Nodup := by decide
    exact hnames.filter _
  sections := by
    rintro types htypes v ⟨e, he, hname, rfl⟩
    obtain rfl | rfl := by simpa [chosenOsqp, Tree.entries] using he
    · exact absurd (KeyText.name.inj hname).symm (fields_ne_backend htypes)
    · refine ⟨⟨_, _, rfl⟩, by simp [Tree.entries], ?_⟩
      exact (List.nodup_singleton "force_initialize").filter _
  values := by
    rintro (_ | ⟨name, _ | ⟨key, _ | _⟩⟩) v hv w hw
    · cases hw
    · obtain ⟨e, he, hname, rfl⟩ := hv
      obtain rfl | rfl := by simpa [chosenOsqp, Tree.entries] using he
      · cases hname
        exact Option.some.inj hw
      · cases hname
        cases hw
    · obtain ⟨e, he, hname, inner, hinner, hkey, rfl⟩ := hv
      obtain rfl | rfl := by simpa [chosenOsqp, Tree.entries] using he
      · cases hinner
      · cases List.mem_singleton.1 hinner
        cases hname
        cases hkey
        exact Option.some.inj hw
    · cases hw

theorem read_chosenOsqp_toml :
    Toml.read "backend=\"OSQP\"\n[osqp]\nforce_initialize=false" =
      some (chosenOsqp .header [⟨0, 7⟩, ⟨8, 14⟩, ⟨16, 20⟩, ⟨15, 21⟩, ⟨22, 38⟩, ⟨39, 44⟩]) := by
  have htext : "backend=\"OSQP\"\n[osqp]\nforce_initialize=false".toList =
      ['b', 'a', 'c', 'k', 'e', 'n', 'd', '=', '"', 'O', 'S', 'Q', 'P', '"', '\n',
        '[', 'o', 's', 'q', 'p', ']', '\n', 'f', 'o', 'r', 'c', 'e', '_',
        'i', 'n', 'i', 't', 'i', 'a', 'l', 'i', 'z', 'e', '=', 'f', 'a', 'l', 's', 'e'] := rfl
  simp only [Toml.read, htext]
  cbv

theorem read_chosenOsqp_json :
    Json.read "\x7b\"backend\":\"OSQP\",\"osqp\":\x7b\"force_initialize\":false\x7d\x7d" =
      (chosenOsqp .inline [], true) := by
  have htext : "\x7b\"backend\":\"OSQP\",\"osqp\":\x7b\"force_initialize\":false\x7d\x7d".toList =
      ['\x7b', '"', 'b', 'a', 'c', 'k', 'e', 'n', 'd', '"', ':', '"', 'O', 'S', 'Q', 'P', '"', ',',
        '"', 'o', 's', 'q', 'p', '"', ':', '\x7b', '"', 'f', 'o', 'r', 'c', 'e', '_',
        'i', 'n', 'i', 't', 'i', 'a', 'l', 'i', 'z', 'e', '"', ':', 'f', 'a', 'l', 's', 'e',
        '\x7d', '\x7d'] := rfl
  simp only [Json.read, htext]
  cbv

/-- In both formats: a backend and a setting of its section, a name that is no backend's, and a word
where a section wants a count. -/
theorem partial_documents_exact_backend :
    let toml := "backend=\"OSQP\"\n[osqp]\nforce_initialize=false"
    let json := "\x7b\"backend\":\"OSQP\",\"osqp\":\x7b\"force_initialize\":false\x7d\x7d"
    let places : List Span := [⟨0, 7⟩, ⟨8, 14⟩, ⟨16, 20⟩, ⟨15, 21⟩, ⟨22, 38⟩, ⟨39, 44⟩]
    let c := { default with backend := .osqp, osqp := { defaultOsqp with forceInitialize := false } }
    let unknown : Tree :=
      .table .header [(⟨.name "backend", some ⟨0, 7⟩⟩, some ⟨8, 16⟩, .text "Gurobi")] true
    let misplaced : Tree := .table .inline [(⟨.name "osqp", none⟩, none,
      .table .inline [(⟨.name "max_iter", none⟩, none, .text "ten")] true)] true
    Toml.read toml = some (chosenOsqp .header places) ∧
    Json.read json = (chosenOsqp .inline [], true) ∧
    Overlay c (chosenOsqp .header places) ∧ Overlay c (chosenOsqp .inline []) ∧
    (∃ r, fromToml toml = .ok r ∧ r.valueAt ["backend"] = some (.text "OSQP") ∧
      r.valueAt ["osqp", "force_initialize"] = some (.bool false) ∧
      r.valueAt ["osqp", "max_iter"] = some (.int 10000)) ∧
    (∃ r, ofJson json = .ok r ∧ r.valueAt ["backend"] = some (.text "OSQP") ∧
      r.valueAt ["osqp", "force_initialize"] = some (.bool false) ∧
      r.valueAt ["clarabel", "max_iter"] = some (.int 200)) ∧
    Toml.read "backend=\"Gurobi\"" = some unknown ∧
    unknown.Holds ["backend"] (.text "Gurobi") ∧
    ¬ FieldType.kind.Takes (.text "Gurobi") ∧
    (∃ e, fromToml "backend=\"Gurobi\"" = .error e ∧ e.category = .config) ∧
    Json.read "\x7b\"osqp\":\x7b\"max_iter\":\"ten\"\x7d\x7d" = (misplaced, true) ∧
    misplaced.Holds ["osqp", "max_iter"] (.text "ten") ∧
    ¬ (FieldType.count (2 ^ 32)).Takes (.text "ten") ∧
    ∃ fault, ofJson "\x7b\"osqp\":\x7b\"max_iter\":\"ten\"\x7d\x7d" = .error fault := by
  intro toml json places c unknown misplaced
  have hbackend (form places) : (chosenOsqp form places).Has ["backend"] :=
    ⟨_, _, .head _, rfl, rfl⟩
  have hforce (form places) : (chosenOsqp form places).Has ["osqp", "force_initialize"] :=
    ⟨_, _, .tail _ (.head _), rfl, _, .head _, rfl, rfl⟩
  have hcount (form places name) : ¬ (chosenOsqp form places).Has [name, "max_iter"] := by
    simp [chosenOsqp, Tree.Has, Tree.Holds, Tree.entries]
  have hunknown : Toml.read "backend=\"Gurobi\"" = some unknown := by
    have htext : "backend=\"Gurobi\"".toList =
        ['b', 'a', 'c', 'k', 'e', 'n', 'd', '=', '"', 'G', 'u', 'r', 'o', 'b', 'i', '"'] := rfl
    simp only [Toml.read, htext, unknown]
    cbv
  have hmisplaced : Json.read "\x7b\"osqp\":\x7b\"max_iter\":\"ten\"\x7d\x7d" =
      (misplaced, true) := by
    have htext : "\x7b\"osqp\":\x7b\"max_iter\":\"ten\"\x7d\x7d".toList =
        ['\x7b', '"', 'o', 's', 'q', 'p', '"', ':', '\x7b', '"', 'm', 'a', 'x', '_', 'i', 't', 'e', 'r',
          '"', ':', '"', 't', 'e', 'n', '"', '\x7d', '\x7d'] := rfl
    simp only [Json.read, htext, misplaced]
    cbv
  have hname : unknown.Holds ["backend"] (.text "Gurobi") := ⟨_, .head _, rfl, rfl⟩
  have hrefused : ¬ FieldType.kind.Takes (.text "Gurobi") := by simp [FieldType.Takes]; decide
  have hword : misplaced.Holds ["osqp", "max_iter"] (.text "ten") :=
    ⟨_, .head _, rfl, _, .head _, rfl, rfl⟩
  have hrefused' : ¬ (FieldType.count (2 ^ 32)).Takes (.text "ten") := by simp [FieldType.Takes]
  obtain ⟨-, hreads, -, hrefuses⟩ := partial_documents_exact
  obtain ⟨r, hr, -, hpresent, habsent, -⟩ := hreads _ _ (overlay_chosenOsqp .header places)
  obtain ⟨r', -, hr', hpresent', habsent', -⟩ := hreads _ _ (overlay_chosenOsqp .inline [])
  refine ⟨read_chosenOsqp_toml, read_chosenOsqp_json, overlay_chosenOsqp _ _,
    overlay_chosenOsqp _ _, ⟨r, hr _ read_chosenOsqp_toml, ?_, ?_, ?_⟩,
    ⟨r', hr' _ read_chosenOsqp_json, ?_, ?_, ?_⟩, hunknown, hname, hrefused,
    (hrefuses _ ["backend"] _ _ rfl hname trivial hrefused).1 _ hunknown, hmisplaced, hword,
    hrefused', (hrefuses _ ["osqp", "max_iter"] _ _ rfl hword trivial hrefused').2 _ _ hmisplaced⟩
  · exact hpresent _ (hbackend _ _)
  · exact hpresent _ (hforce _ _)
  · exact (habsent _ (hcount _ _ _)).trans rfl
  · exact hpresent' _ (hbackend _ _)
  · exact hpresent' _ (hforce _ _)
  · exact (habsent' _ (hcount _ _ _)).trans rfl

end QuadOpt.Config
