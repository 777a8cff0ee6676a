import QuadOpt.Config.Json
import QuadOpt.Config.Section
import QuadOpt.Config.Toml
import QuadOpt.Proofs.Document.Record

/-!
# Settings

What each field of a section takes, and what setting it does: the value that the section writes under
a name comes back under that name, nothing else changes, and a scalar of another type is refused.
-/

namespace QuadOpt.Config

open Document

/-! ## Types of fields -/

inductive FieldType where
  | switch
  /-- Integers from zero up to a limit, the limit not included. -/
  | count (limit : ℕ)
  /-- An integer will do as well. -/
  | number
  | kind

/-- The scalars that a field of each type takes. -/
def FieldType.Takes : FieldType → Tree → Prop
  | switch, .bool _ => True
  | count limit, .int i => 0 ≤ i ∧ i < limit
  | number, .float _ => True
  | number, .int _ => True
  | kind, .text s => (Kind.ofName? s).isSome
  | _, _ => False

def IsScalar : Tree → Prop
  | .null | .bool _ | .int _ | .float _ | .text _ | .date => True
  | .list .. | .table .. | .unreadable => False

def quadProgFields : List (String × FieldType) := [("force_initialize", .switch)]

def osqpFields : List (String × FieldType) :=
  [("force_initialize", .switch), ("accept_max_iterations", .switch), ("max_iter", .count (2 ^ 32)),
    ("eps_abs", .number), ("eps_rel", .number), ("polish", .switch), ("verbose", .switch)]

def clarabelFields : List (String × FieldType) :=
  [("force_initialize", .switch), ("accept_max_iterations", .switch), ("max_iter", .count (2 ^ 32)),
    ("tol_gap_abs", .number), ("tol_gap_rel", .number), ("verbose", .switch)]

def totsuFields : List (String × FieldType) := [("max_iter", .count (2 ^ 64)), ("eps_acc", .number)]

/-! ## Values that come back -/

/-- The scalar as a document holds it. -/
def Scalar.tree : Scalar → Tree
  | bool b => .bool b
  | nat n => .int n
  | float x => .float x

variable {σ : Type} {settings : σ → List (String × Scalar)}

/-- A record through the settings that it is written with. -/
def settingAt (settings : σ → List (String × Scalar)) (r : σ) (name : String) : Option Scalar :=
  (settings r).lookup name

theorem decodeNat_natCast {limit n : ℕ} (h : n < limit) (expected : Expected) :
    decodeNat limit expected (.int n) = .ok n := by
  simp only [decodeNat]
  rw [if_pos ⟨Int.natCast_nonneg n, by omega⟩, Int.toNat_natCast]

theorem decodeWord32_toNat (n : UInt32) : decodeWord32 (.int n.toNat) = .ok n := by
  unfold decodeWord32
  rw [decodeNat_natCast n.toNat_lt]
  exact congrArg Except.ok n.ofNat_toNat

theorem decodeWord64_toNat (n : UInt64) : decodeWord64 (.int n.toNat) = .ok n := by
  unfold decodeWord64
  rw [decodeNat_natCast n.toNat_lt]
  exact congrArg Except.ok n.ofNat_toNat

section

variable {β : Type} {P : Setter σ → β → Prop} {setters : List (Setter σ)} {named : List (String × β)}

theorem mem_of_lookup {key : String} {b : β} (h : named.lookup key = some b) : (key, b) ∈ named := by
  obtain ⟨before, after, rfl, -⟩ := List.lookup_eq_some_iff.1 h
  simp

theorem lookup_eq_none {key : String} (h : key ∉ named.map (·.1)) : named.lookup key = none := by
  rw [List.lookup_eq_none_iff]
  intro e he
  rw [bne_iff_ne]
  rintro rfl
  exact h (List.mem_map_of_mem he)

theorem exists_lookup {key : String} (h : key ∈ named.map (·.1)) :
    ∃ b, named.lookup key = some b := by
  rw [← Option.ne_none_iff_exists']
  intro hnone
  rw [List.lookup_eq_none_iff] at hnone
  obtain ⟨e, he, rfl⟩ := List.mem_map.1 h
  exact absurd rfl (bne_iff_ne.1 (hnone e he))

/-- Setters and named values side by side, of the same names. -/
def Paired (P : Setter σ → β → Prop) (setters : List (Setter σ)) (named : List (String × β)) : Prop :=
  List.Forall₂ (fun s e => s.name = e.1 ∧ P s e.2) setters named

theorem Paired.map_name (h : Paired P setters named) :
    setters.map (·.name) = named.map (·.1) := by
  unfold Paired at h
  induction h with
  | nil => rfl
  | cons hhead _ ih => rw [List.map_cons, List.map_cons, hhead.1, ih]

theorem Paired.exists_setter (h : Paired P setters named) {key : String} {b : β}
    (hkey : named.lookup key = some b) : ∃ s ∈ setters, s.name = key ∧ P s b := by
  unfold Paired at h
  induction h with
  | nil => cases hkey
  | @cons s e _ _ hhead _ ih =>
    rw [List.lookup_cons] at hkey
    split at hkey
    · next hsame =>
      cases hkey
      exact ⟨s, List.mem_cons_self, hhead.1.trans (beq_iff_eq.1 hsame).symm, hhead.2⟩
    · obtain ⟨s', hs', hname⟩ := ih hkey
      exact ⟨s', List.mem_cons_of_mem _ hs', hname⟩

theorem Paired.exists_value (h : Paired P setters named) (hnames : (setters.map (·.name)).Nodup)
    {s : Setter σ} (hs : s ∈ setters) : ∃ b, named.lookup s.name = some b ∧ P s b := by
  have hin : s.name ∈ named.map (·.1) := h.map_name ▸ List.mem_map_of_mem hs
  obtain ⟨b, hb⟩ := exists_lookup hin
  obtain ⟨s', hs', hsame, hvalue⟩ := h.exists_setter hb
  have hunique : s' = s := by
    have hfind := find?_name hnames hs'
    rw [hsame, find?_name hnames hs] at hfind
    exact (Option.some.inj hfind).symm
  exact ⟨b, hb, hunique ▸ hvalue⟩

end

theorem installs_of_set {s : Setter σ} {v : Scalar} {put : σ → σ}
    (hset : ∀ r, s.set v.tree r = .ok (put r))
    (hself : ∀ r, settingAt settings (put r) s.name = some v)
    (hframe : ∀ r name, name ≠ s.name → settingAt settings (put r) name = settingAt settings r name) :
    s.Installs (settingAt settings) v.tree (· = some v) :=
  fun r => ⟨put r, hset r, hself r, hframe r⟩

/-- The setters read, in order, what the settings write. -/
def ReadsBack (setters : List (Setter σ)) (settings : σ → List (String × Scalar)) : Prop :=
  ∀ c, Paired (fun s v => s.Installs (settingAt settings) v.tree (· = some v)) setters (settings c)

theorem word32Setter_set (name : String) (put : UInt32 → σ → σ) (n : UInt32) (r : σ) :
    (word32Setter name put).set (.int n.toNat) r = .ok (put n r) := by
  simp only [word32Setter, decodeWord32_toNat]
  rfl

theorem readsBack_quadProg : ReadsBack quadProgSetters fun c => (quadProgSection c).settings := by
  intro c
  refine .cons ⟨rfl, installs_of_set (fun r => rfl) (fun r => rfl) ?_⟩ .nil
  intro r name hne
  have hother := beq_false_of_ne hne
  simp only [boolSetter] at hother
  simp only [settingAt, quadProgSection, List.lookup_cons, hother]

theorem readsBack_osqp : ReadsBack osqpSetters fun c => (osqpSection c).settings := by
  intro c
  refine .cons ⟨rfl, installs_of_set (fun r => rfl) (fun r => rfl) ?_⟩ <|
    .cons ⟨rfl, installs_of_set (fun r => rfl) (fun r => rfl) ?_⟩ <|
    .cons ⟨rfl, installs_of_set (word32Setter_set _ _ _) (fun r => rfl) ?_⟩ <|
    .cons ⟨rfl, installs_of_set (fun r => rfl) (fun r => rfl) ?_⟩ <|
    .cons ⟨rfl, installs_of_set (fun r => rfl) (fun r => rfl) ?_⟩ <|
    .cons ⟨rfl, installs_of_set (fun r => rfl) (fun r => rfl) ?_⟩ <|
    .cons ⟨rfl, installs_of_set (fun r => rfl) (fun r => rfl) ?_⟩ .nil
  all_goals
    intro r name hne
    have hother := beq_false_of_ne hne
    simp only [boolSetter, word32Setter, floatSetter] at hother
    simp only [settingAt, osqpSection, switches, List.cons_append, List.nil_append, List.lookup_cons,
      hother]

theorem readsBack_clarabel : ReadsBack clarabelSetters fun c => (clarabelSection c).settings := by
  intro c
  refine .cons ⟨rfl, installs_of_set (fun r => rfl) (fun r => rfl) ?_⟩ <|
    .cons ⟨rfl, installs_of_set (fun r => rfl) (fun r => rfl) ?_⟩ <|
    .cons ⟨rfl, installs_of_set (word32Setter_set _ _ _) (fun r => rfl) ?_⟩ <|
    .cons ⟨rfl, installs_of_set (fun r => rfl) (fun r => rfl) ?_⟩ <|
    .cons ⟨rfl, installs_of_set (fun r => rfl) (fun r => rfl) ?_⟩ <|
    .cons ⟨rfl, installs_of_set (fun r => rfl) (fun r => rfl) ?_⟩ .nil
  all_goals
    intro r name hne
    have hother := beq_false_of_ne hne
    simp only [boolSetter, word32Setter, floatSetter] at hother
    simp only [settingAt, clarabelSection, switches, List.cons_append, List.nil_append, List.lookup_cons,
      hother]

theorem readsBack_totsu : ReadsBack totsuSetters fun c => (totsuSection c).settings := by
  intro c
  have hword (r : ConicSettings) :
      (decodeWord64 (Scalar.nat c.maxIter.toNat).tree).map (fun n => { r with maxIter := n }) =
        .ok { r with maxIter := c.maxIter } := by
    simp only [Scalar.tree, decodeWord64_toNat]
    rfl
  refine .cons ⟨rfl, fun r => ⟨{ r with maxIter := c.maxIter }, ?_, rfl, ?_⟩⟩ <|
    .cons ⟨rfl, installs_of_set (fun r => rfl) (fun r => rfl) ?_⟩ .nil
  · simp only [hword]
  · intro name hne
    have hother := beq_false_of_ne hne
    simp only [settingAt, totsuSection, List.lookup_cons, hother]
  · intro r name hne
    have hother := beq_false_of_ne hne
    simp only [floatSetter] at hother
    simp only [settingAt, totsuSection, List.lookup_cons, hother]

/-! ## Values that are taken and refused -/

theorem wrongType_eq_error {α : Type} (t : Tree) (expected : Expected) :
    ∃ fault, (wrongType t expected : Decoded α) = .error fault := by
  unfold wrongType
  split
  · exact ⟨_, rfl⟩
  · exact ⟨_, rfl⟩

/-- Decoding succeeds on what a field of the type takes, and on nothing else. -/
def Decodes {α : Type} (decode : Tree → Decoded α) (f : FieldType) (v : Tree) : Prop :=
  (f.Takes v → ∃ a, decode v = .ok a) ∧ (¬ f.Takes v → ∃ fault, decode v = .error fault)

theorem decodes_bool (v : Tree) : Decodes decodeBool .switch v := by
  cases v with
  | bool b => exact ⟨fun _ => ⟨b, rfl⟩, fun h => absurd trivial h⟩
  | _ => exact ⟨fun h => h.elim, fun _ => by simpa only [decodeBool] using wrongType_eq_error _ _⟩

theorem decodes_nat (limit : ℕ) (expected : Expected) (v : Tree) :
    Decodes (decodeNat limit expected) (.count limit) v := by
  cases v with
  | int i =>
    constructor
    · intro h
      have hrange : 0 ≤ i ∧ i < limit := h
      simp only [decodeNat]
      rw [if_pos hrange]
      exact ⟨_, rfl⟩
    · intro h
      have hrange : ¬ (0 ≤ i ∧ i < limit) := h
      simp only [decodeNat]
      rw [if_neg hrange]
      exact ⟨_, rfl⟩
  | _ => exact ⟨fun h => h.elim, fun _ => by simpa only [decodeNat] using wrongType_eq_error _ _⟩

theorem decodes_float (v : Tree) : Decodes decodeFloat .number v := by
  cases v with
  | float x => exact ⟨fun _ => ⟨x, rfl⟩, fun h => absurd trivial h⟩
  | int i => exact ⟨fun _ => ⟨_, rfl⟩, fun h => absurd trivial h⟩
  | _ => exact ⟨fun h => h.elim, fun _ => by simpa only [decodeFloat] using wrongType_eq_error _ _⟩

theorem Decodes.map {α β : Type} {decode : Tree → Decoded α} {f : FieldType} {v : Tree}
    (h : Decodes decode f v) (g : α → β) : Decodes (fun t => (decode t).map g) f v := by
  constructor
  · intro htakes
    obtain ⟨a, ha⟩ := h.1 htakes
    exact ⟨g a, by simp only [ha]; rfl⟩
  · intro htakes
    obtain ⟨fault, hfault⟩ := h.2 htakes
    exact ⟨fault, by simp only [hfault]; rfl⟩

/-- The setters take, in order, what the fields take, and refuse the rest. -/
def Guards (setters : List (Setter σ)) (fields : List (String × FieldType)) : Prop :=
  Paired (fun s f => ∀ v r, Decodes (s.set · r) f v) setters fields

theorem decodes_boolSetter (name : String) (put : Bool → σ → σ) (v : Tree) (r : σ) :
    Decodes ((boolSetter name put).set · r) .switch v := (decodes_bool v).map _

theorem decodes_word32Setter (name : String) (put : UInt32 → σ → σ) (v : Tree) (r : σ) :
    Decodes ((word32Setter name put).set · r) (.count (2 ^ 32)) v :=
  ((decodes_nat (2 ^ 32) .word32 v).map UInt32.ofNat).map _

theorem decodes_floatSetter (name : String) (put : Float → σ → σ) (v : Tree) (r : σ) :
    Decodes ((floatSetter name put).set · r) .number v := (decodes_float v).map _

theorem guards_quadProg : Guards quadProgSetters quadProgFields :=
  .cons ⟨rfl, decodes_boolSetter _ _⟩ .nil

theorem guards_osqp : Guards osqpSetters osqpFields :=
  .cons ⟨rfl, decodes_boolSetter _ _⟩ <| .cons ⟨rfl, decodes_boolSetter _ _⟩ <|
  .cons ⟨rfl, decodes_word32Setter _ _⟩ <| .cons ⟨rfl, decodes_floatSetter _ _⟩ <|
  .cons ⟨rfl, decodes_floatSetter _ _⟩ <| .cons ⟨rfl, decodes_boolSetter _ _⟩ <|
  .cons ⟨rfl, decodes_boolSetter _ _⟩ .nil

theorem guards_clarabel : Guards clarabelSetters clarabelFields :=
  .cons ⟨rfl, decodes_boolSetter _ _⟩ <| .cons ⟨rfl, decodes_boolSetter _ _⟩ <|
  .cons ⟨rfl, decodes_word32Setter _ _⟩ <| .cons ⟨rfl, decodes_floatSetter _ _⟩ <|
  .cons ⟨rfl, decodes_floatSetter _ _⟩ <| .cons ⟨rfl, decodes_boolSetter _ _⟩ .nil

theorem guards_totsu : Guards totsuSetters totsuFields :=
  .cons ⟨rfl, fun v _ => ((decodes_nat (2 ^ 64) .word64 v).map UInt64.ofNat).map _⟩ <|
  .cons ⟨rfl, decodes_floatSetter _ _⟩ .nil

/-! ## The backend -/

theorem kindNamed_name (k : Kind) : kindNamed k.name = .ok k := by
  cases k <;> decide

theorem kindOfToml_name (k : Kind) : kindOfToml (.text k.name) = .ok k := kindNamed_name k

theorem kindOfJson_name (k : Kind) : kindOfJson (.text k.name) = .ok k := kindNamed_name k

theorem isScalar_of_takes {f : FieldType} {v : Tree} (h : f.Takes v) : IsScalar v := by
  cases f <;> cases v <;> trivial

theorem decodes_kindNamed (name : String) :
    (FieldType.kind.Takes (.text name) → ∃ k, kindNamed name = .ok k) ∧
      (¬ FieldType.kind.Takes (.text name) → ∃ fault, kindNamed name = .error fault) := by
  have htakes : FieldType.kind.Takes (.text name) ↔ (Kind.all.find? (·.name == name)).isSome := Iff.rfl
  rw [htakes]
  unfold kindNamed decodeName
  cases Kind.all.find? (·.name == name) with
  | none => exact ⟨fun h => absurd h Bool.false_ne_true, fun _ => ⟨_, rfl⟩⟩
  | some k => exact ⟨fun _ => ⟨k, rfl⟩, fun h => absurd rfl h⟩

theorem decodes_kindOfToml {v : Tree} (hscalar : IsScalar v) : Decodes kindOfToml .kind v := by
  cases v with
  | text name => exact decodes_kindNamed name
  | list | table | unreadable => exact hscalar.elim
  | _ => exact ⟨fun h => h.elim, fun _ => ⟨_, rfl⟩⟩

theorem decodes_kindOfJson {v : Tree} (hscalar : IsScalar v) : Decodes kindOfJson .kind v := by
  cases v with
  | text name => exact decodes_kindNamed name
  | list | table | unreadable => exact hscalar.elim
  | _ => exact ⟨fun h => h.elim, fun _ => ⟨_, rfl⟩⟩

end QuadOpt.Config
