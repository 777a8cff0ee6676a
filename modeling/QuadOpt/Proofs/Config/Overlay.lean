import QuadOpt.Error
import QuadOpt.Proofs.Config.Setting

/-!
# Configurations over the defaults

A document that holds some of the settings that a configuration is written with, in whatever order and
among whatever other keys, is read as that configuration where it says something and as the default
where it does not. A document with a scalar that its field does not take is not read at all.
-/

namespace QuadOpt.Config

open Document

/-! ## Places -/

/-- The value that a configuration is written with at a path of keys. -/
def valueAt (c : Config) : List String → Option Tree
  | [name] => if name = "backend" then some (.text c.backend.name) else none
  | [name, key] =>
    (c.sections.find? (·.name == name)).bind fun s => (s.settings.lookup key).map Scalar.tree
  | _ => none

def fields : List (String × List (String × FieldType)) :=
  [("quadprog", quadProgFields), ("osqp", osqpFields), ("clarabel", clarabelFields),
    ("totsu", totsuFields)]

/-- The type of the field at a path of keys. -/
def fieldAt : List String → Option FieldType
  | [name] => if name = "backend" then some .kind else none
  | [name, key] => (fields.lookup name).bind (·.lookup key)
  | _ => none

/-- A table of settings and tables of settings, none of them twice, among whatever other keys. -/
structure Shaped (t : Tree) : Prop where
  top : Tidy ("backend" :: fields.map (·.1)) t
  sections : ∀ s ∈ fields, ∀ v, t.Holds [s.1] v → Tidy (s.2.map (·.1)) v

/-- A document whose settings, as far as it has any, are those of `c`. -/
structure Overlay (c : Config) (t : Tree) : Prop extends Shaped t where
  values : ∀ path v, t.Holds path v → ∀ w, c.valueAt path = some w → v = w

/-! ## Sections -/

theorem map_name_sections (c : Config) :
    c.sections.map (·.name) = ["quadprog", "osqp", "clarabel", "totsu"] := rfl

/-- Where a section of a configuration is, and that setting it leaves the others as they are. -/
structure IsSection {σ : Type} (name : String) (settings : σ → List (String × Scalar))
    (get : Config → σ) (put : σ → Config → Config) : Prop where
  value : ∀ c key, c.valueAt [name, key] = (settingAt settings (get c) key).map Scalar.tree
  get_put : ∀ r c, get (put r c) = r
  backend_put : ∀ r c, (put r c).backend = c.backend
  sections_put : ∀ r c,
    (put r c).sections.filter (·.name != name) = c.sections.filter (·.name != name)
  not_backend : name ≠ "backend"

theorem isSection_quadProg : IsSection "quadprog" (fun c => (quadProgSection c).settings) (·.quadProg)
    fun r c => { c with quadProg := r } :=
  ⟨fun _ _ => rfl, fun _ _ => rfl, fun _ _ => rfl, fun _ _ => rfl, by decide⟩

theorem isSection_osqp : IsSection "osqp" (fun c => (osqpSection c).settings) (·.osqp)
    fun r c => { c with osqp := r } :=
  ⟨fun _ _ => rfl, fun _ _ => rfl, fun _ _ => rfl, fun _ _ => rfl, by decide⟩

theorem isSection_clarabel : IsSection "clarabel" (fun c => (clarabelSection c).settings) (·.clarabel)
    fun r c => { c with clarabel := r } :=
  ⟨fun _ _ => rfl, fun _ _ => rfl, fun _ _ => rfl, fun _ _ => rfl, by decide⟩

theorem isSection_totsu : IsSection "totsu" (fun c => (totsuSection c).settings) (·.totsu)
    fun r c => { c with totsu := r } :=
  ⟨fun _ _ => rfl, fun _ _ => rfl, fun _ _ => rfl, fun _ _ => rfl, by decide⟩

/-- A section of another name is found among the sections of other names. -/
theorem find?_section {name other : String} (hne : other ≠ name) (ss : List Section) :
    (ss.filter (·.name != name)).find? (·.name == other) = ss.find? (·.name == other) := by
  rw [List.find?_filter]
  congr 1
  funext s
  by_cases hs : s.name = other
  · simp [hs, hne]
  · simp [hs]

theorem IsSection.frame {σ : Type} {name : String} {settings : σ → List (String × Scalar)}
    {get : Config → σ} {put : σ → Config → Config} (hsection : IsSection name settings get put)
    (r : σ) (c : Config) {other : String} (hne : other ≠ name) (path : List String) :
    (put r c).valueAt (other :: path) = c.valueAt (other :: path) := by
  rcases path with _ | ⟨key, _ | _⟩
  · simp only [valueAt, hsection.backend_put]
  · simp only [valueAt]
    rw [← find?_section hne (put r c).sections, hsection.sections_put, find?_section hne]
  · rfl

/-- The values under the key `name` are those of `c` as far as the document has them, and the
default ones otherwise. -/
def Follows (c : Config) (t : Tree) (name : String) (values : List String → Option Tree) : Prop :=
  ∀ path, (t.Has (name :: path) → values path = c.valueAt (name :: path)) ∧
    (¬ t.Has (name :: path) → values path = default.valueAt (name :: path))

section

variable {σ : Type} {name title : String} {settings : σ → List (String × Scalar)}
  {get : Config → σ} {put : σ → Config → Config} {setters : List (Setter σ)} {c : Config} {t : Tree}
  {e : Entry} {d : Dialect} {start : σ} {types : List (String × FieldType)}

/-- The table of a section sets what it has and leaves the rest at the defaults. -/
theorem exists_decodeRecord_section (d : Dialect) (title : String) (start : σ)
    (hsection : IsSection name settings get put)
    (hreads : ReadsBack setters settings) (hguards : Guards setters types)
    (hnames : (setters.map (·.name)).Nodup) (htypes : (name, types) ∈ fields)
    (hoverlay : c.Overlay t) (he : e ∈ t.entries) (hname : e.1.text = .name name) :
    ∃ r, decodeRecord d title setters start e.2.2 = .ok r ∧ ∀ key,
      (e.2.2.Has [key] → settingAt settings r key = settingAt settings (get c) key) ∧
      (¬ e.2.2.Has [key] → settingAt settings r key = settingAt settings start key) := by
  have hknown (r : σ) : setters.map (·.name) = (settings r).map (·.1) :=
    (hreads r).map_name
  have htidy : Tidy (setters.map (·.name)) e.2.2 := by
    rw [Paired.map_name hguards]
    exact hoverlay.sections _ htypes e.2.2 ⟨e, he, hname, rfl⟩
  have hset : ∀ inner ∈ e.2.2.entries, ∀ s ∈ setters, inner.1.text = .name s.name →
      s.Installs (settingAt settings) inner.2.2 (· = settingAt settings (get c) s.name) := by
    intro inner hinner s hs hkey
    obtain ⟨v, hv, hinstalls⟩ := (hreads (get c)).exists_value hnames hs
    have hvalue : inner.2.2 = v.tree := by
      apply hoverlay.values [name, s.name] inner.2.2 ⟨e, he, hname, inner, hinner, hkey, rfl⟩
      rw [hsection.value, settingAt, hv, Option.map_some]
    rw [hvalue, settingAt, hv]
    exact hinstalls
  obtain ⟨r, hr, hpresent, habsent⟩ := exists_decodeRecord (d := d) hnames htidy
    (P := fun key value => value = settingAt settings (get c) key) hset
  refine ⟨r, hr, fun key => ⟨fun hhas => ?_, fun hhas => ?_⟩⟩
  · by_cases hkey : key ∈ setters.map (·.name)
    · obtain ⟨s, hs, rfl⟩ := List.mem_map.1 hkey
      obtain ⟨_, inner, hinner, hname, _⟩ := hhas
      exact hpresent s hs ⟨inner, hinner, hname⟩
    · have hnone (r : σ) : settingAt settings r key = none := lookup_eq_none (hknown r ▸ hkey)
      rw [hnone, hnone]
  · exact habsent key fun inner hinner hname => hhas ⟨_, inner, hinner, hname, rfl⟩

theorem installs_section (hsection : IsSection name settings get put)
    (hreads : ReadsBack setters settings) (hguards : Guards setters types)
    (hnames : (setters.map (·.name)).Nodup) (htypes : (name, types) ∈ fields)
    (hstart : get default = start) (hoverlay : c.Overlay t) (he : e ∈ t.entries)
    (hname : e.1.text = .name name) :
    Setter.Installs ⟨name, fun v r => (decodeRecord d title setters start v).map (put · r)⟩
      (fun r other path => r.valueAt (other :: path)) e.2.2 (Follows c t name) := by
  obtain ⟨section', hread, hvalues⟩ := exists_decodeRecord_section d title start hsection hreads
    hguards hnames htypes hoverlay he hname
  have hnone (c : Config) : c.valueAt [name] = none := if_neg hsection.not_backend
  intro r
  refine ⟨put section' r, by simp only [hread]; rfl, fun path => ?_, fun other hother => ?_⟩
  · rcases path with _ | ⟨key, _ | ⟨_, _⟩⟩
    · simp only [hnone, implies_true, and_self]
    · have hhas : t.Has [name, key] ↔ e.2.2.Has [key] := by
        constructor
        · rintro ⟨v, other, hother, hsame, hv⟩
          have honly := hoverlay.top.unique (.tail _ (List.mem_map_of_mem htypes)) he hother hname
            hsame
          exact ⟨v, honly ▸ hv⟩
        · rintro ⟨v, hv⟩
          exact ⟨v, e, he, hname, hv⟩
      simp only [hhas, hsection.value, hsection.get_put, hstart]
      exact ⟨fun h => by rw [(hvalues key).1 h], fun h => by rw [(hvalues key).2 h]⟩
    · exact ⟨fun _ => rfl, fun _ => rfl⟩
  · funext path
    exact hsection.frame section' r hother path

end

/-! ## Documents -/

def names : List String := ["backend", "quadprog", "osqp", "clarabel", "totsu"]

variable {c : Config} {t : Tree} {kind : Tree → Decoded Kind}

theorem map_name_setters (d : Dialect) (kind : Tree → Decoded Kind) :
    (setters d kind).map (·.name) = names := rfl

theorem nodup_names : names.Nodup := by decide

theorem valueAt_of_unknown {name : String} (hname : name ∉ names) (c : Config) (path : List String) :
    c.valueAt (name :: path) = none := by
  rcases path with _ | ⟨key, _ | _⟩
  · have hbackend : name ≠ "backend" := fun h => hname (h ▸ .head _)
    exact if_neg hbackend
  · have hnone : c.sections.find? (·.name == name) = none := by
      refine List.find?_eq_none.2 fun s hs hsame => hname (.tail _ ?_)
      rw [← map_name_sections c, ← eq_of_beq hsame]
      exact List.mem_map_of_mem hs
    simp only [valueAt, hnone, Option.bind_none]
  · rfl

theorem installs_backend (hkind : ∀ k : Kind, kind (.text k.name) = .ok k) (hoverlay : c.Overlay t)
    {e : Entry} (he : e ∈ t.entries) (hname : e.1.text = .name "backend") :
    Setter.Installs ⟨"backend", fun v (r : Config) => (kind v).map fun k => { r with backend := k }⟩
      (fun r other path => r.valueAt (other :: path)) e.2.2 (Follows c t "backend") := by
  have hvalue : e.2.2 = .text c.backend.name :=
    hoverlay.values ["backend"] e.2.2 ⟨e, he, hname, rfl⟩ _ rfl
  intro r
  refine ⟨{ r with backend := c.backend }, ?_, fun path => ?_, fun other hother => ?_⟩
  · simp only [hvalue, hkind]
    rfl
  · rcases path with _ | ⟨key, _ | ⟨_, _⟩⟩
    · have hhas : t.Has ["backend"] := ⟨e.2.2, e, he, hname, rfl⟩
      exact ⟨fun _ => rfl, fun h => absurd hhas h⟩
    · exact ⟨fun _ => rfl, fun _ => rfl⟩
    · exact ⟨fun _ => rfl, fun _ => rfl⟩
  · funext path
    rcases path with _ | ⟨key, _ | ⟨_, _⟩⟩
    · have hne : other ≠ "backend" := hother
      simp only [valueAt, if_neg hne]
    · rfl
    · rfl

/-- Reading follows the document where it has something, and the defaults where it has not. -/
theorem exists_ofTree (d : Dialect) (hkind : ∀ k : Kind, kind (.text k.name) = .ok k)
    (hoverlay : c.Overlay t) :
    ∃ r, ofTree d kind t = .ok r ∧ ∀ path, (t.Has path → r.valueAt path = c.valueAt path) ∧
      (¬ t.Has path → r.valueAt path = default.valueAt path) := by
  have hset : ∀ e ∈ t.entries, ∀ s ∈ setters d kind, e.1.text = .name s.name →
      s.Installs (fun (r : Config) other path => r.valueAt (other :: path)) e.2.2
        (Follows c t s.name) := by
    intro e he
    simp only [setters, List.forall_mem_cons]
    refine ⟨?_, ?_, ?_, ?_, ?_, by simp⟩
    · exact installs_backend hkind hoverlay he
    · exact installs_section isSection_quadProg readsBack_quadProg guards_quadProg (by decide)
        (by simp [fields]) rfl hoverlay he
    · exact installs_section isSection_osqp readsBack_osqp guards_osqp (by decide)
        (by simp [fields]) rfl hoverlay he
    · exact installs_section isSection_clarabel readsBack_clarabel guards_clarabel (by decide)
        (by simp [fields]) rfl hoverlay he
    · exact installs_section isSection_totsu readsBack_totsu guards_totsu (by decide)
        (by simp [fields]) rfl hoverlay he
  have hnames : ((setters d kind).map (·.name)).Nodup := nodup_names
  obtain ⟨r, hr, hpresent, habsent⟩ := exists_decodeRecord (d := d) hnames hoverlay.top
    (P := Follows c t) hset
  refine ⟨r, hr, fun path => ?_⟩
  cases path with
  | nil => exact ⟨fun _ => rfl, fun _ => rfl⟩
  | cons name path =>
    by_cases hknown : name ∈ names
    · by_cases hentry : ∃ e ∈ t.entries, e.1.text = .name name
      · obtain ⟨s, hs, rfl⟩ := List.mem_map.1 (map_name_setters d kind ▸ hknown)
        exact hpresent s hs hentry path
      · have hhas : ¬ t.Has (name :: path) := fun ⟨_, e, he, hname, _⟩ => hentry ⟨e, he, hname⟩
        have hview := habsent name fun e he hname => hentry ⟨e, he, hname⟩
        exact ⟨fun h => absurd h hhas, fun _ => congrFun hview path⟩
    · simp only [valueAt_of_unknown hknown, implies_true, and_self]

/-! ## Scalars that fields take -/

section

variable {σ : Type} {name title key : String} {put : σ → Config → Config} {setters : List (Setter σ)}
  {start : σ} {d : Dialect} {types : List (String × FieldType)} {f : FieldType} {inner v : Tree}

theorem accepts_section (hguards : Guards setters types) (hnames : (setters.map (·.name)).Nodup)
    (htidy : Tidy (types.map (·.1)) inner)
    (htakes : ∀ key f, types.lookup key = some f → ∀ v, inner.Holds [key] v → f.Takes v) :
    Setter.Accepts ⟨name, fun v r => (decodeRecord d title setters start v).map (put · r)⟩ inner := by
  rw [← Paired.map_name hguards] at htidy
  have haccepts : ∀ e ∈ inner.entries, ∀ s ∈ setters, e.1.text = .name s.name →
      s.Accepts e.2.2 := by
    intro e he s hs hname r
    obtain ⟨f, hf, hset⟩ := Paired.exists_value hguards hnames hs
    exact (hset e.2.2 r).1 (htakes s.name f hf e.2.2 ⟨e, he, hname, rfl⟩)
  obtain ⟨section', hread⟩ : ∃ r, decodeRecord d title setters start inner = .ok r :=
    exists_decodeRecord_of_accepts hnames htidy haccepts
  intro r
  exact ⟨put section' r, by simp only [hread]; rfl⟩

theorem refuses_section (hguards : Guards setters types) (hnames : (setters.map (·.name)).Nodup)
    (hkey : types.lookup key = some f) (hv : inner.Holds [key] v) (h : ¬ f.Takes v) :
    Setter.Refuses ⟨name, fun v r => (decodeRecord d title setters start v).map (put · r)⟩ inner := by
  obtain ⟨s, hs, rfl, hset⟩ := Paired.exists_setter hguards hkey
  obtain ⟨e, he, hname, rfl⟩ := hv
  obtain ⟨fault, hfault⟩ : ∃ fault, decodeRecord d title setters start inner = .error fault :=
    decodeRecord_of_refuses hnames hs he hname fun r => (hset _ r).2 h
  intro r
  exact ⟨fault, by simp only [hfault]; rfl⟩

end

theorem refuses_of_fieldAt (d : Dialect) (hkind : ∀ v, IsScalar v → Decodes kind .kind v)
    {name : String} {path : List String} {f : FieldType} {inner v : Tree}
    (hfield : fieldAt (name :: path) = some f) (hv : inner.Holds path v) (hscalar : IsScalar v)
    (h : ¬ f.Takes v) : ∃ s ∈ setters d kind, s.name = name ∧ s.Refuses inner := by
  rcases path with _ | ⟨key, _ | _⟩
  · obtain ⟨rfl, rfl⟩ : name = "backend" ∧ FieldType.kind = f := by simpa [fieldAt] using hfield
    refine ⟨_, List.mem_cons_self, rfl, fun r => ?_⟩
    obtain ⟨fault, hfault⟩ := (hkind v hscalar).2 h
    subst hv
    exact ⟨fault, by simp only [hfault]; rfl⟩
  · obtain ⟨types, htypes, hkey⟩ := Option.bind_eq_some_iff.1 hfield
    have hmem := mem_of_lookup htypes
    simp only [fields, List.mem_cons, Prod.mk.injEq, List.not_mem_nil, or_false] at hmem
    unfold setters
    rcases hmem with ⟨rfl, rfl⟩ | ⟨rfl, rfl⟩ | ⟨rfl, rfl⟩ | ⟨rfl, rfl⟩
    · exact ⟨_, .tail _ (.head _), rfl, refuses_section guards_quadProg (by decide) hkey hv h⟩
    · exact ⟨_, .tail _ (.tail _ (.head _)), rfl, refuses_section guards_osqp (by decide) hkey hv h⟩
    · exact ⟨_, .tail _ (.tail _ (.tail _ (.head _))), rfl,
        refuses_section guards_clarabel (by decide) hkey hv h⟩
    · exact ⟨_, .tail _ (.tail _ (.tail _ (.tail _ (.head _)))), rfl,
        refuses_section guards_totsu (by decide) hkey hv h⟩
  · cases hfield

theorem exists_ofTree_eq_error (d : Dialect) (hkind : ∀ v, IsScalar v → Decodes kind .kind v)
    {path : List String} {f : FieldType} {v : Tree} (hfield : fieldAt path = some f)
    (hholds : t.Holds path v) (hscalar : IsScalar v) (h : ¬ f.Takes v) :
    ∃ fault, ofTree d kind t = .error fault := by
  have hnames : ((setters d kind).map (·.name)).Nodup := nodup_names
  cases path with
  | nil => cases hfield
  | cons name path =>
    obtain ⟨e, he, hname, hv⟩ := hholds
    obtain ⟨s, hs, rfl, hrefuses⟩ := refuses_of_fieldAt d hkind hfield hv hscalar h
    exact decodeRecord_of_refuses hnames hs he hname hrefuses

theorem exists_ofTree_of_takes (d : Dialect) (hkind : ∀ v, IsScalar v → Decodes kind .kind v)
    (hshaped : Shaped t)
    (htakes : ∀ path f v, fieldAt path = some f → t.Holds path v → f.Takes v) :
    ∃ r, ofTree d kind t = .ok r := by
  have haccepts : ∀ e ∈ t.entries, ∀ s ∈ setters d kind, e.1.text = .name s.name →
      s.Accepts e.2.2 := by
    intro e he
    have hsection {name : String} {types : List (String × FieldType)}
        (htypes : fields.lookup name = some types) (hname : e.1.text = .name name) :
        Tidy (types.map (·.1)) e.2.2 ∧
          ∀ key f, types.lookup key = some f → ∀ v, e.2.2.Holds [key] v → f.Takes v := by
      constructor
      · exact hshaped.sections _ (mem_of_lookup htypes) e.2.2 ⟨e, he, hname, rfl⟩
      · intro key f hkey v hv
        exact htakes [name, key] f v (Option.bind_eq_some_iff.2 ⟨types, htypes, hkey⟩)
          ⟨e, he, hname, hv⟩
    simp only [setters, List.forall_mem_cons]
    refine ⟨fun hname r => ?_, fun hname => ?_, fun hname => ?_, fun hname => ?_, fun hname => ?_,
      by simp⟩
    · have hvalue := htakes ["backend"] .kind e.2.2 rfl ⟨e, he, hname, rfl⟩
      obtain ⟨k, hk⟩ := (hkind e.2.2 (isScalar_of_takes hvalue)).1 hvalue
      exact ⟨{ r with backend := k }, by simp only [hk]; rfl⟩
    · obtain ⟨htidy, hvalues⟩ := hsection rfl hname
      exact accepts_section guards_quadProg (by decide) htidy hvalues
    · obtain ⟨htidy, hvalues⟩ := hsection rfl hname
      exact accepts_section guards_osqp (by decide) htidy hvalues
    · obtain ⟨htidy, hvalues⟩ := hsection rfl hname
      exact accepts_section guards_clarabel (by decide) htidy hvalues
    · obtain ⟨htidy, hvalues⟩ := hsection rfl hname
      exact accepts_section guards_totsu (by decide) htidy hvalues
  exact exists_decodeRecord_of_accepts nodup_names hshaped.top haccepts

/-! ## Round trip -/

theorem IsSection.valueAt_eq_none {σ : Type} {name key : String}
    {settings : σ → List (String × Scalar)} {get : Config → σ} {put : σ → Config → Config}
    {setters : List (Setter σ)} (hsection : IsSection name settings get put)
    (hreads : ReadsBack setters settings) (h : c.valueAt [name, key] = none) (r : Config) :
    r.valueAt [name, key] = none := by
  rw [hsection.value, Option.map_eq_none_iff] at h ⊢
  apply lookup_eq_none
  intro hkey
  rw [← (hreads _).map_name, (hreads (get c)).map_name] at hkey
  obtain ⟨v, hv⟩ := exists_lookup hkey
  rw [settingAt, hv] at h
  cases h

/-- All configurations are written with the same keys. -/
theorem valueAt_eq_none {path : List String} (h : c.valueAt path = none) (r : Config) :
    r.valueAt path = none := by
  rcases path with _ | ⟨name, _ | ⟨key, _ | _⟩⟩
  · rfl
  · have hname : name ≠ "backend" := by
      rintro rfl
      cases h
    exact if_neg hname
  · by_cases hname : name ∈ names
    · simp only [names, List.mem_cons, List.not_mem_nil, or_false] at hname
      rcases hname with rfl | rfl | rfl | rfl | rfl
      · rfl
      · exact isSection_quadProg.valueAt_eq_none readsBack_quadProg h r
      · exact isSection_osqp.valueAt_eq_none readsBack_osqp h r
      · exact isSection_clarabel.valueAt_eq_none readsBack_clarabel h r
      · exact isSection_totsu.valueAt_eq_none readsBack_totsu h r
    · exact valueAt_of_unknown hname r [key]
  · rfl

attribute [ext] FactoredConfig WorkspaceConfig SplittingSettings InteriorPointSettings ConicSettings
  Config

/-- Every field stands under a key of its own. -/
theorem eq_of_valueAt {r : Config} (h : ∀ path, r.valueAt path = c.valueAt path) : r = c := by
  have hkind : Tree.text r.backend.name = .text c.backend.name := Option.some.inj (h ["backend"])
  have hbool (path : List String) {a b : Bool} (hr : r.valueAt path = some (.bool a))
      (hc : c.valueAt path = some (.bool b)) : a = b := by
    rw [h, hc] at hr
    exact (Tree.bool.inj (Option.some.inj hr)).symm
  have hnat (path : List String) {a b : ℕ} (hr : r.valueAt path = some (.int a))
      (hc : c.valueAt path = some (.int b)) : a = b := by
    rw [h, hc] at hr
    exact (Int.ofNat_inj.1 (Tree.int.inj (Option.some.inj hr))).symm
  have hfloat (path : List String) {a b : Float} (hr : r.valueAt path = some (.float a))
      (hc : c.valueAt path = some (.float b)) : a = b := by
    rw [h, hc] at hr
    exact (Tree.float.inj (Option.some.inj hr)).symm
  apply Config.ext
  · rw [Tree.text.injEq] at hkind
    have hback := Kind.ofName?_name r.backend
    rw [hkind, Kind.ofName?_name] at hback
    exact (Option.some.inj hback).symm
  · apply FactoredConfig.ext
    exact hbool ["quadprog", "force_initialize"] rfl rfl
  · apply WorkspaceConfig.ext
    · exact hbool ["osqp", "force_initialize"] rfl rfl
    · exact hbool ["osqp", "accept_max_iterations"] rfl rfl
    · apply SplittingSettings.ext
      · exact UInt32.toNat_inj.1 (hnat ["osqp", "max_iter"] rfl rfl)
      · exact hfloat ["osqp", "eps_abs"] rfl rfl
      · exact hfloat ["osqp", "eps_rel"] rfl rfl
      · exact hbool ["osqp", "polish"] rfl rfl
      · exact hbool ["osqp", "verbose"] rfl rfl
  · apply WorkspaceConfig.ext
    · exact hbool ["clarabel", "force_initialize"] rfl rfl
    · exact hbool ["clarabel", "accept_max_iterations"] rfl rfl
    · apply InteriorPointSettings.ext
      · exact UInt32.toNat_inj.1 (hnat ["clarabel", "max_iter"] rfl rfl)
      · exact hfloat ["clarabel", "tol_gap_abs"] rfl rfl
      · exact hfloat ["clarabel", "tol_gap_rel"] rfl rfl
      · exact hbool ["clarabel", "verbose"] rfl rfl
  · apply ConicSettings.ext
    · exact UInt64.toNat_inj.1 (hnat ["totsu", "max_iter"] rfl rfl)
    · exact hfloat ["totsu", "eps_acc"] rfl rfl

end QuadOpt.Config
