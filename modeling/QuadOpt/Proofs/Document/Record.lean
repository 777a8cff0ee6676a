import Mathlib
import QuadOpt.Document.Decode

/-!
# Reading a record from a table

What a table holds at a path of keys, and what becomes of a record that is read from it: every field
that the table names takes the value given there, every other one stays, and one value that its field
does not take is enough to refuse the table.
-/

namespace QuadOpt.Document

/-! ## Paths -/

namespace Tree

def entries : Tree → List Entry
  | .table _ entries _ => entries
  | _ => []

/-- The value `v` stands at the end of a path of keys. -/
def Holds : Tree → List String → Tree → Prop
  | t, [], v => t = v
  | t, name :: path, v => ∃ e ∈ t.entries, e.1.text = .name name ∧ e.2.2.Holds path v

def Has (t : Tree) (path : List String) : Prop := ∃ v, t.Holds path v

end Tree

def Key.name? (k : Key) : Option String :=
  match k.text with
  | .name s => some s
  | _ => none

theorem Key.name?_eq_some_iff {k : Key} {name : String} :
    k.name? = some name ↔ k.text = .name name := by
  unfold Key.name?
  split <;> simp_all

/-- A table that was read to its end, with readable keys, none of `names` twice. -/
structure Tidy (names : List String) (t : Tree) : Prop where
  closed : ∃ form entries, t = .table form entries true
  readable : ∀ e ∈ t.entries, ∃ name, e.1.text = .name name
  once : ((t.entries.filterMap (·.1.name?)).filter (· ∈ names)).Nodup

theorem Tidy.unique {names : List String} {t : Tree} (h : Tidy names t) {name : String}
    (hname : name ∈ names) {e e' : Entry} (he : e ∈ t.entries) (he' : e' ∈ t.entries)
    (hkey : e.1.text = .name name) (hkey' : e'.1.text = .name name) : e = e' := by
  by_contra hne
  let Apart (a b : Entry) : Prop := ∀ x, a.1.name? = some x → ∀ y, b.1.name? = some y →
    decide (x ∈ names) = true → decide (y ∈ names) = true → x ≠ y
  have hapart : t.entries.Pairwise Apart := by
    have honce := h.once
    unfold List.Nodup at honce
    rwa [List.pairwise_filter, List.pairwise_filterMap] at honce
  have hsymm : Std.Symm Apart :=
    ⟨fun a b hab x hx y hy hin hin' => (hab y hy x hx hin' hin).symm⟩
  have hin : decide (name ∈ names) = true := by simpa using hname
  exact hapart.forall he he' hne name (Key.name?_eq_some_iff.2 hkey) name
    (Key.name?_eq_some_iff.2 hkey') hin hin rfl

/-! ## Entries -/

section

variable {σ β : Type} {setters : List (Setter σ)} {s : Setter σ} {e : Entry} {p : Partial σ}

theorem find?_name (hnames : (setters.map (·.name)).Nodup) (hs : s ∈ setters) :
    setters.find? (·.name == s.name) = some s := by
  induction setters with
  | nil => cases hs
  | cons first rest ih =>
    rw [List.map_cons, List.nodup_cons] at hnames
    rcases List.mem_cons.1 hs with rfl | hs
    · simp
    · have hne : first.name ≠ s.name := by
        intro h
        apply hnames.1
        rw [h]
        exact List.mem_map_of_mem hs
      rw [List.find?_cons_of_neg (by simpa using hne), ih hnames.2 hs]

theorem readEntry_of_unknown {name : String} (he : e.1.text = .name name)
    (hunknown : name ∉ setters.map (·.name)) : readEntry setters p e = .ok p := by
  have hfind : setters.find? (·.name == name) = none := by
    rw [List.find?_eq_none]
    intro s hs h
    apply hunknown
    rw [List.mem_map]
    exact ⟨s, hs, by simpa using h⟩
  simp only [readEntry, he, hfind]

theorem readEntry_of_known (hnames : (setters.map (·.name)).Nodup) (hs : s ∈ setters)
    (he : e.1.text = .name s.name) (hseen : s.name ∉ p.seen) :
    readEntry setters p e =
      (s.run e.1.span e.2 p.record).map fun record => ⟨record, s.name :: p.seen⟩ := by
  simp only [readEntry, he, find?_name hnames hs, List.contains_eq_mem, hseen, decide_false,
    Bool.false_eq_true, if_false]

/-- Whatever the record, setting the value succeeds, brings the view under the name into a state
allowed by `P` and leaves the view under other names. -/
def Setter.Installs (s : Setter σ) (view : σ → String → β) (v : Tree) (P : β → Prop) : Prop :=
  ∀ r, ∃ r', s.set v r = .ok r' ∧ P (view r' s.name) ∧
    ∀ name, name ≠ s.name → view r' name = view r name

variable {view : σ → String → β} {P : String → β → Prop}

theorem exists_readEntry (hnames : (setters.map (·.name)).Nodup) {name : String}
    (he : e.1.text = .name name) (hnew : name ∉ p.seen)
    (hset : ∀ s ∈ setters, s.name = name → s.Installs view e.2.2 (P name)) :
    ∃ p', readEntry setters p e = .ok p' ∧
      (∀ seen ∈ p'.seen, seen ∈ p.seen ∨ seen = name ∧ name ∈ setters.map (·.name)) ∧
      (name ∈ setters.map (·.name) → P name (view p'.record name)) ∧
      ∀ other, other ≠ name → view p'.record other = view p.record other := by
  by_cases hknown : name ∈ setters.map (·.name)
  · obtain ⟨s, hs, rfl⟩ := List.mem_map.1 hknown
    obtain ⟨r, hr, hvalue, hframe⟩ := hset s hs rfl p.record
    refine ⟨⟨r, s.name :: p.seen⟩, ?_, ?_, fun _ => hvalue, hframe⟩
    · rw [readEntry_of_known hnames hs he hnew, Setter.run, hr]
      rfl
    · intro seen hseen
      rcases List.mem_cons.1 hseen with rfl | hseen
      · exact .inr ⟨rfl, hknown⟩
      · exact .inl hseen
  · exact ⟨p, readEntry_of_unknown he hknown, fun _ => .inl, fun h => absurd h hknown,
      fun _ _ => rfl⟩

/-- The induction goes along the entries. What carries it is that no name still to come has been
seen. -/
theorem exists_foldlM_readEntry (hnames : (setters.map (·.name)).Nodup) {es : List Entry}
    (hreadable : ∀ e ∈ es, ∃ name, e.1.text = .name name)
    (honce : ((es.filterMap (·.1.name?)).filter (· ∈ setters.map (·.name))).Nodup)
    (hset : ∀ e ∈ es, ∀ s ∈ setters, e.1.text = .name s.name → s.Installs view e.2.2 (P s.name))
    (p : Partial σ) (hseen : ∀ name ∈ p.seen, ∀ e ∈ es, e.1.text ≠ .name name) :
    ∃ p', es.foldlM (readEntry setters) p = .ok p' ∧
      (∀ s ∈ setters, (∃ e ∈ es, e.1.text = .name s.name) → P s.name (view p'.record s.name)) ∧
      ∀ name, (∀ e ∈ es, e.1.text ≠ .name name) → view p'.record name = view p.record name := by
  induction es generalizing p with
  | nil => exact ⟨p, rfl, fun _ _ ⟨_, h, _⟩ => (List.not_mem_nil h).elim, fun _ _ => rfl⟩
  | cons e es ih =>
    rw [List.forall_mem_cons] at hreadable hset
    obtain ⟨name, he⟩ := hreadable.1
    have hcons : (e :: es).filterMap (·.1.name?) = name :: es.filterMap (·.1.name?) :=
      List.filterMap_cons_some (Key.name?_eq_some_iff.2 he)
    rw [hcons, List.filter_cons] at honce
    have hrest : ((es.filterMap (·.1.name?)).filter (· ∈ setters.map (·.name))).Nodup := by
      split at honce
      · exact honce.of_cons
      · exact honce
    have hlater (hknown : name ∈ setters.map (·.name)) : ∀ later ∈ es, later.1.text ≠ .name name := by
      intro later hmem hname
      rw [if_pos (by simpa using hknown), List.nodup_cons] at honce
      apply honce.1
      rw [List.mem_filter, List.mem_filterMap]
      exact ⟨⟨later, hmem, Key.name?_eq_some_iff.2 hname⟩, by simpa using hknown⟩
    have hnew : name ∉ p.seen := fun h => hseen name h e List.mem_cons_self he
    obtain ⟨next, hread, hseen', hvalue, hframe⟩ := exists_readEntry hnames he hnew
      fun s hs hname => hname ▸ hset.1 s hs (hname ▸ he)
    obtain ⟨p', hfold, hpresent, habsent⟩ := ih hreadable.2 hrest hset.2 next (by
      intro seen hmem later hlate
      rcases hseen' seen hmem with hold | ⟨rfl, hknown⟩
      · exact hseen seen hold later (List.mem_cons_of_mem _ hlate)
      · exact hlater hknown later hlate)
    refine ⟨p', ?_, ?_, ?_⟩
    · rw [List.foldlM_cons, hread]
      exact hfold
    · intro s hs ⟨e', he', hname⟩
      rcases List.mem_cons.1 he' with rfl | he'
      · have hsame : name = s.name := by rwa [he, KeyText.name.injEq] at hname
        subst hsame
        have hknown : s.name ∈ setters.map (·.name) := List.mem_map_of_mem hs
        rw [habsent s.name (hlater hknown)]
        exact hvalue hknown
      · exact hpresent s hs ⟨e', he', hname⟩
    · intro other hother
      rw [List.forall_mem_cons] at hother
      rw [habsent other hother.2]
      apply hframe
      rintro rfl
      exact hother.1 he

/-! ## Records -/

variable {t : Tree} {d : Dialect} {title : String} {start : σ}

theorem decodeRecord_table (form : TableForm) (es : List Entry) (closed : Bool) :
    decodeRecord d title setters start (.table form es closed) =
      es.foldlM (readEntry setters) ⟨start, []⟩ >>= fun p =>
        if closed then .ok p.record else .error .malformed := rfl

theorem exists_decodeRecord (hnames : (setters.map (·.name)).Nodup)
    (ht : Tidy (setters.map (·.name)) t)
    (hset : ∀ e ∈ t.entries, ∀ s ∈ setters, e.1.text = .name s.name →
      s.Installs view e.2.2 (P s.name)) :
    ∃ r, decodeRecord d title setters start t = .ok r ∧
      (∀ s ∈ setters, (∃ e ∈ t.entries, e.1.text = .name s.name) → P s.name (view r s.name)) ∧
      ∀ name, (∀ e ∈ t.entries, e.1.text ≠ .name name) → view r name = view start name := by
  obtain ⟨⟨form, es, rfl⟩, hreadable, honce⟩ := ht
  obtain ⟨p, hfold, hpresent, habsent⟩ := exists_foldlM_readEntry hnames hreadable honce hset
    ⟨start, []⟩ (by simp)
  refine ⟨p.record, ?_, hpresent, habsent⟩
  rw [decodeRecord_table]
  rw [Tree.entries] at hfold
  rw [hfold]
  rfl

def Setter.Accepts (s : Setter σ) (v : Tree) : Prop := ∀ r, ∃ r', s.set v r = .ok r'

theorem exists_decodeRecord_of_accepts (hnames : (setters.map (·.name)).Nodup)
    (ht : Tidy (setters.map (·.name)) t)
    (haccepts : ∀ e ∈ t.entries, ∀ s ∈ setters, e.1.text = .name s.name → s.Accepts e.2.2) :
    ∃ r, decodeRecord d title setters start t = .ok r := by
  have hset : ∀ e ∈ t.entries, ∀ s ∈ setters, e.1.text = .name s.name →
      s.Installs (fun (_ : σ) (_ : String) => ()) e.2.2 fun _ => True := by
    intro e he s hs hname r
    obtain ⟨r', hr'⟩ := haccepts e he s hs hname r
    exact ⟨r', hr', trivial, fun _ _ => rfl⟩
  obtain ⟨r, hr, -⟩ := exists_decodeRecord hnames ht (P := fun _ _ => True) hset
  exact ⟨r, hr⟩

/-- No record takes the value. -/
def Setter.Refuses (s : Setter σ) (v : Tree) : Prop := ∀ r, ∃ fault, s.set v r = .error fault

theorem readEntry_of_refuses (hnames : (setters.map (·.name)).Nodup) (hs : s ∈ setters)
    (he : e.1.text = .name s.name) (hrefuses : s.Refuses e.2.2) (p : Partial σ) :
    ∃ fault, readEntry setters p e = .error fault := by
  by_cases hseen : s.name ∈ p.seen
  · refine ⟨.misfit (.duplicateField s.name) none, ?_⟩
    simp only [readEntry, he, find?_name hnames hs, List.contains_eq_mem, hseen, decide_true,
      if_true]
    rfl
  · obtain ⟨fault, hfault⟩ := hrefuses p.record
    rw [readEntry_of_known hnames hs he hseen, Setter.run, hfault]
    exact ⟨_, rfl⟩

theorem foldlM_readEntry_of_refuses (hnames : (setters.map (·.name)).Nodup) (hs : s ∈ setters)
    {es : List Entry} (hmem : e ∈ es) (he : e.1.text = .name s.name) (hrefuses : s.Refuses e.2.2)
    (p : Partial σ) : ∃ fault, es.foldlM (readEntry setters) p = .error fault := by
  induction es generalizing p with
  | nil => cases hmem
  | cons first es ih =>
    rw [List.foldlM_cons]
    cases hread : readEntry setters p first with
    | error fault => exact ⟨fault, rfl⟩
    | ok next =>
      rcases List.mem_cons.1 hmem with rfl | hmem
      · obtain ⟨fault, hfault⟩ := readEntry_of_refuses hnames hs he hrefuses p
        rw [hread] at hfault
        cases hfault
      · exact ih hmem next

theorem decodeRecord_of_refuses (hnames : (setters.map (·.name)).Nodup) (hs : s ∈ setters)
    (hmem : e ∈ t.entries) (he : e.1.text = .name s.name) (hrefuses : s.Refuses e.2.2) :
    ∃ fault, decodeRecord d title setters start t = .error fault := by
  cases t with
  | table form es closed =>
    obtain ⟨fault, hfault⟩ := foldlM_readEntry_of_refuses hnames hs hmem he hrefuses ⟨start, []⟩
    refine ⟨fault, ?_⟩
    rw [decodeRecord_table]
    rw [Tree.entries] at hfault
    rw [hfault]
    rfl
  | _ => cases hmem

end

end QuadOpt.Document
