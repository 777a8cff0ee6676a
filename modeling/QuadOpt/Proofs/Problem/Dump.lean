import QuadOpt.Problem.Dump
import QuadOpt.Proofs.Matrix.Flat
import QuadOpt.Proofs.Number.Written
import QuadOpt.Proofs.Problem.Mismatch

/-!
# What a dump tells

The lines of a dump can be told apart, since no line has a line break of its own. The first three
give the dimensions, and the dimensions of a problem that was checked say how many lines belong to
each coefficient and how many numbers stand on a line. So the dump gives the whole problem back.
-/

namespace QuadOpt

theorem Matrix.length_of_mem_toLists {α : Type} {m : Matrix α} {row : List α}
    (h : row ∈ m.toLists) : row.length = m.ncols := by
  obtain ⟨v, -, rfl⟩ := List.mem_map.1 h
  exact v.size_toArray

namespace Problem

/-! ## Lines -/

theorem eq_of_map_eq {α β : Type} {f : α → β} {l k : List α}
    (hf : ∀ a ∈ l, ∀ b ∈ k, f a = f b → a = b) (h : l.map f = k.map f) : l = k := by
  have hlength : l.length = k.length := by simpa using congrArg List.length h
  refine List.ext_getElem hlength fun i hl hk => ?_
  refine hf _ (List.getElem_mem hl) _ (List.getElem_mem hk) ?_
  simpa [hl, hk] using congrArg (·[i]?) h

theorem splitOn_toList_join {lines : List String} (h : ∀ l ∈ lines, '\n' ∉ l.toList) :
    (String.join (lines.map (· ++ "\n"))).toList.splitOn '\n' = lines.map String.toList ++ [[]] := by
  induction lines with
  | nil => rfl
  | cons line lines ih =>
    have hline := h line List.mem_cons_self
    have hlines := ih fun l hl => h l (List.mem_cons_of_mem _ hl)
    rw [List.map_cons, String.join_cons, String.toList_append, String.toList_append,
      List.append_assoc, show "\n".toList = ['\n'] from rfl, List.singleton_append,
      List.splitOn_append_cons_self_of_not_mem hline, hlines, List.map_cons, List.cons_append]

theorem eq_of_join_eq {lines lines' : List String} (h : ∀ l ∈ lines, '\n' ∉ l.toList)
    (h' : ∀ l ∈ lines', '\n' ∉ l.toList)
    (hjoin : String.join (lines.map (· ++ "\n")) = String.join (lines'.map (· ++ "\n"))) :
    lines = lines' := by
  have hsplit := splitOn_toList_join h
  rw [hjoin, splitOn_toList_join h', List.append_cancel_right_eq] at hsplit
  exact (List.map_injective_iff.2 (fun _ _ => String.toList_injective) hsplit).symm

/-! ## Numbers on a line -/

theorem inFull_dumpNumber : dumpNumber.InFull := ⟨rfl, rfl, rfl⟩

theorem notMem_dumpNumber {c : Char} (hdigit : c.isDigit = false) (hword : c ∉ ".-inf".toList)
    (hnan : c ∉ "NaN".toList) (x : Float) : c ∉ (dumpNumber.text x).toList := by
  intro hc
  rcases inFull_dumpNumber.mem_text hc with h | h | h
  · exact absurd h (by simp [hdigit])
  · exact hword h
  · exact hnan h

theorem toList_entriesLine (vs : List Float) :
    (entriesLine vs).toList = [' '].intercalate (vs.map fun v => (dumpNumber.text v).toList) := by
  rw [entriesLine, String.toList_intercalate, List.map_map]
  rfl

theorem newline_notMem_entriesLine (vs : List Float) : '\n' ∉ (entriesLine vs).toList := by
  rw [toList_entriesLine]
  induction vs with
  | nil => exact List.not_mem_nil
  | cons v vs ih =>
    have hv : '\n' ∉ (dumpNumber.text v).toList :=
      notMem_dumpNumber (by decide) (by decide) (by decide) v
    cases vs with
    | nil => simpa using hv
    | cons w ws => simpa [hv] using ih

theorem eq_of_entriesLine_eq {vs ws : List Float} (hvs : ∀ v ∈ vs, v.isNaN = false)
    (hws : ∀ w ∈ ws, w.isNaN = false) (hlength : vs.length = ws.length)
    (h : entriesLine vs = entriesLine ws) : vs = ws := by
  by_cases hempty : vs = []
  · subst hempty
    exact (List.length_eq_zero_iff.1 hlength.symm).symm
  · have hempty' : ws ≠ [] := by
      rintro rfl
      exact hempty (List.length_eq_zero_iff.1 hlength)
    have hblank (us : List Float) : ∀ l ∈ us.map fun v => (dumpNumber.text v).toList, ' ' ∉ l := by
      simp only [List.forall_mem_map]
      exact fun v _ => notMem_dumpNumber (by decide) (by decide) (by decide) v
    refine eq_of_map_eq (f := fun v => (dumpNumber.text v).toList) (fun v hv w hw htext => ?_) ?_
    · exact inFull_dumpNumber.eq_of_text_eq (hvs v hv) (hws w hw) (String.toList_injective htext)
    · rw [← List.splitOn_intercalate ' ' (hblank vs) (by simpa), ← toList_entriesLine, h,
        toList_entriesLine, List.splitOn_intercalate ' ' (hblank ws) (by simpa)]

/-! ## Coefficients -/

def Block.entries : Block → List Float
  | .matrix m => m.toLists.flatten
  | .vector v => v

/-- Every entry of every coefficient is a number or an infinity. -/
def HasNoNaN (p : Problem) : Prop := ∀ f, ∀ x ∈ (p.block f).entries, x.isNaN = false

theorem Block.length_lines_of_shape {b c : Block} (h : b.shape = c.shape) :
    b.lines.length = c.lines.length := by
  cases b <;> cases c <;> simp_all [Block.shape, Block.lines]

theorem Block.eq_of_lines_eq {b c : Block} (hb : ∀ x ∈ b.entries, x.isNaN = false)
    (hc : ∀ x ∈ c.entries, x.isNaN = false) (hshape : b.shape = c.shape) (h : b.lines = c.lines) :
    b = c := by
  rcases b with m | v
  · rcases c with n | w
    · obtain ⟨hrows, hcols⟩ : m.nrows = n.nrows ∧ m.ncols = n.ncols := by simpa [shape] using hshape
      have hlists : m.toLists = n.toLists := by
        refine eq_of_map_eq (fun row hrow row' hrow' hline => ?_) h
        refine eq_of_entriesLine_eq (fun x hx => hb x (List.mem_flatten_of_mem hrow hx))
          (fun x hx => hc x (List.mem_flatten_of_mem hrow' hx)) ?_ hline
        rw [Matrix.length_of_mem_toLists hrow, Matrix.length_of_mem_toLists hrow', hcols]
      rw [Matrix.eq_of_toLists_eq hcols hlists]
    · cases hshape
  · rcases c with n | w
    · cases hshape
    · have hlength : v.length = w.length := by simpa [shape] using hshape
      have hline : entriesLine v = entriesLine w := by simpa [lines] using h
      exact congrArg vector (eq_of_entriesLine_eq hb hc hlength hline)

/-! ## Dimensions -/

def dimLine (field : String × ℕ) : String := field.1 ++ ": " ++ toString field.2

theorem dimLine_inj {k : String} {n n' : ℕ} (h : dimLine (k, n) = dimLine (k, n')) : n = n' := by
  have hdigits : Nat.toDigits 10 n = Nat.toDigits 10 n' := by
    simpa [dimLine] using congrArg String.toList h
  rw [← Nat.ofDigitChars_ten_toDigits (n := n), hdigits, Nat.ofDigitChars_ten_toDigits]

theorem eq_of_dimLines_eq {d e : Dims} (h : d.fields.map dimLine = e.fields.map dimLine) : d = e := by
  simp only [Dims.fields, List.map_cons, List.map_nil, List.cons.injEq, and_true] at h
  obtain ⟨hvar, heq, hineq⟩ := h
  obtain ⟨var, eq, ineq⟩ := d
  obtain rfl := dimLine_inj hvar
  obtain rfl := dimLine_inj heq
  obtain rfl := dimLine_inj hineq
  rfl

theorem newline_notMem_dimLine {d : Dims} {field : String × ℕ} (h : field ∈ d.fields) :
    '\n' ∉ (dimLine field).toList := by
  have hdigits (n : ℕ) : '\n' ∉ Nat.toDigits 10 n := fun hmem =>
    absurd (Notation.isDigit_of_mem_digits n hmem) (by decide)
  simp only [Dims.fields, List.mem_cons, List.not_mem_nil, or_false] at h
  rcases h with rfl | rfl | rfl <;> simp [dimLine, hdigits]

/-! ## The dump -/

/-- The lines of one coefficient, its name first. -/
def Block.namedLines (f : Field) (b : Block) : List String := (f.name ++ ":") :: b.lines

theorem dumpLines_eq (p : Problem) :
    p.dumpLines = p.dims.fields.map dimLine ++ Field.all.flatMap fun f => (p.block f).namedLines f :=
  rfl

theorem newline_notMem_dumpLines {p : Problem} {l : String} (hl : l ∈ p.dumpLines) :
    '\n' ∉ l.toList := by
  rw [dumpLines_eq, List.mem_append, List.mem_map, List.mem_flatMap] at hl
  rcases hl with ⟨field, hfield, rfl⟩ | ⟨f, -, hl⟩
  · exact newline_notMem_dimLine hfield
  · rcases List.mem_cons.1 hl with rfl | hl
    · cases f <;> decide
    · cases hb : p.block f with
      | matrix m =>
        rw [hb] at hl
        obtain ⟨row, -, rfl⟩ := List.mem_map.1 hl
        exact newline_notMem_entriesLine row
      | vector v =>
        rw [hb] at hl
        obtain rfl := List.mem_singleton.1 hl
        exact newline_notMem_entriesLine v

theorem length_dumpLines (p : Problem) :
    p.dumpLines.length = 16 + p.objMat.nrows + p.eqMat.nrows + p.ineqMat.nrows := by
  simp [dumpLines_eq, Dims.fields, Field.all, Block.namedLines, Block.lines, block]
  omega

theorem ext_block {p q : Problem} (hdims : p.dims = q.dims) (hblock : ∀ f, p.block f = q.block f) :
    p = q := by
  obtain ⟨d, objMat, objVec, eqMat, eqVec, ineqMat, ineqVec, xMin, xMax⟩ := p
  obtain rfl := hdims
  obtain rfl := Block.matrix.inj (hblock .objMat)
  obtain rfl := Block.vector.inj (hblock .objVec)
  obtain rfl := Block.matrix.inj (hblock .eqMat)
  obtain rfl := Block.vector.inj (hblock .eqVec)
  obtain rfl := Block.matrix.inj (hblock .ineqMat)
  obtain rfl := Block.vector.inj (hblock .ineqVec)
  obtain rfl := Block.vector.inj (hblock .xMin)
  obtain rfl := Block.vector.inj (hblock .xMax)
  rfl

theorem shape_of_validate {p : Problem} (h : p.validate = .ok ()) (f : Field) :
    (p.block f).shape = f.shape p.dims := by
  cases hm : p.mismatch? with
  | none => exact p.mismatch?_eq_none_iff.1 hm f
  | some m =>
    rw [(p.validate_eq_error_iff m).2 (check_of_mismatch? hm)] at h
    cases h

theorem eq_of_dumpLines_eq {p q : Problem} (hp : p.validate = .ok ()) (hq : q.validate = .ok ())
    (hpn : p.HasNoNaN) (hqn : q.HasNoNaN)
    (h : p.dumpLines = q.dumpLines) : p = q := by
  rw [dumpLines_eq, dumpLines_eq] at h
  obtain ⟨hdimLines, hblocks⟩ := List.append_inj h (by simp [Dims.fields])
  have hdims := eq_of_dimLines_eq hdimLines
  have hshape (f : Field) : (p.block f).shape = (q.block f).shape := by
    rw [shape_of_validate hp, shape_of_validate hq, hdims]
  have hpieces : Field.all.map (fun f => (p.block f).namedLines f) =
      Field.all.map fun f => (q.block f).namedLines f := by
    rw [List.eq_iff_flatten_eq]
    refine ⟨by simpa only [List.flatMap_def] using hblocks, ?_⟩
    simp [Block.namedLines, Block.length_lines_of_shape (hshape _)]
  refine ext_block hdims fun f => ?_
  have hlines := List.map_inj_left.1 hpieces f f.mem_all
  exact Block.eq_of_lines_eq (hpn f) (hqn f) (hshape f) (List.cons.inj hlines).2

/-- Checked problems without a NaN have the same dump only if they are the same, bit for bit. Every
dump has a line for each dimension, one for each name, one for each vector and one for each row. -/
theorem dump_unambiguous :
    (∀ p q : Problem, p.validate = .ok () → q.validate = .ok () → p.HasNoNaN → q.HasNoNaN →
      p.dump = q.dump → p = q) ∧
    ∀ p : Problem, ∃ lines : List String, p.dump = String.join (lines.map (· ++ "\n")) ∧
      (∀ l ∈ lines, '\n' ∉ l.toList) ∧
      lines.length = 16 + p.objMat.nrows + p.eqMat.nrows + p.ineqMat.nrows := by
  constructor
  · intro p q hp hq hpn hqn h
    refine eq_of_dumpLines_eq hp hq hpn hqn (eq_of_join_eq ?_ ?_ h)
    · exact fun _ => newline_notMem_dumpLines
    · exact fun _ => newline_notMem_dumpLines
  · intro p
    exact ⟨p.dumpLines, rfl, fun _ => newline_notMem_dumpLines, p.length_dumpLines⟩

/-- One variable without a cost, written as the given zero, and one inequality row. -/
def costless (zero : Float) : Problem where
  dims := ⟨1, 0, 1⟩
  objMat := .ofLists 1 [[2]]
  objVec := [zero]
  eqMat := .ofLists 1 []
  eqVec := []
  ineqMat := .ofLists 1 [[1]]
  ineqVec := [3]
  xMin := [0]
  xMax := [5]

/-- The dump shows the sign of a zero. -/
theorem dump_unambiguous_zeros :
    (costless 0).validate = .ok () ∧ (costless (-0.0)).validate = .ok () ∧
      (costless 0).HasNoNaN ∧ (costless (-0.0)).HasNoNaN ∧
      (costless 0).dump ≠ (costless (-0.0)).dump ∧
      ∃ lines : List String, (costless 0).dump = String.join (lines.map (· ++ "\n")) ∧
        (∀ l ∈ lines, '\n' ∉ l.toList) ∧ lines.length = 18 := by
  have hvalid (zero : Float) : (costless zero).validate = .ok () := by
    rfl
  have hnan (zero : Float) (hzero : zero.isNaN = false) : (costless zero).HasNoNaN := by
    have hnumbers : ∀ v ∈ ([0, 1, 2, 3, 5] : List Float), v.isNaN = false := by decide +kernel
    have hentries (f : Field) : ((costless zero).block f).entries ⊆ [zero, 0, 1, 2, 3, 5] := by
      cases f <;> simp [costless, block, Block.entries, Matrix.ofLists, Matrix.toLists,
        Vector.toList_ofFn]
    intro f x hx
    rcases List.mem_cons.1 (hentries f hx) with rfl | hmem
    · exact hzero
    · exact hnumbers x hmem
  have hpos := hnan 0 (by decide +kernel)
  have hneg := hnan (-0.0) (by decide +kernel)
  refine ⟨hvalid _, hvalid _, hpos, hneg, ?_, dump_unambiguous.2 (costless 0)⟩
  intro h
  have hsame := dump_unambiguous.1 _ _ (hvalid 0) (hvalid (-0.0)) hpos hneg h
  have hzero : (0 : Float) = -0.0 := List.head_eq_of_cons_eq (congrArg objVec hsame)
  exact absurd hzero (by decide +kernel)

end Problem

end QuadOpt
