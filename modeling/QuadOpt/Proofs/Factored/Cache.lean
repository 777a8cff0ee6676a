import Mathlib.Data.List.Forall2
import QuadOpt.Proofs.Matrix.Entries
import QuadOpt.Proofs.Run

/-!
# The kept factor does not show

Whatever an adapter has solved before, its next answer is that of a new adapter. The invariant is that
a kept factor belongs to the objective it is kept with. It survives solves without variables, refused
factorisations and failed attempts, since all of them leave the pair alone, drop it or replace it as
a whole.
-/

namespace QuadOpt

/-! ## Points -/

def Attempt.point? (a : Attempt) : Option (List Float) := if a.succeeded then some a.x else none

@[simp] theorem Attempt.point?_solved (x : List Float) : (Attempt.solved x).point? = some x := rfl

@[simp] theorem Attempt.point?_failed (x : List Float) (reason : Reason) :
    (Attempt.failed x reason).point? = none := rfl

def Record.point? (r : Record) : Option (List Float) := if r.failed then none else some r.solution

@[simp] theorem Record.point?_after (r : Record) (dims : Dims) (attempts : List StartState)
    (a : Attempt) : (r.after dims attempts a).point? = a.point? := by
  cases h : a.succeeded <;> simp [point?, after, Attempt.point?, h]

theorem Record.point?_eq_iff (r t : Record) :
    r.point? = t.point? ↔ r.failed = t.failed ∧ (t.failed = false → r.solution = t.solution) := by
  cases hr : r.failed <;> cases ht : t.failed <;> simp [point?, hr, ht]

/-- What the warm attempt gives, if there is one, and what every cold attempt gives is what both
together give. -/
theorem hotThenCold_keeps {C σ : Type} {P : Attempt → Prop} {I : σ → Prop} (kind : Kind) {kept : σ}
    {hot : Option (Attempt × σ)} {cold : σ → Traced C (Attempt × σ)}
    (hhot : ∀ a left, hot = some (a, left) → P a ∧ I left)
    (hcold : ∀ left, P (cold left).value.1 ∧ I (cold left).value.2) :
    P (hotThenCold kind kept hot cold).value.2.1 ∧
      I (hotThenCold kind kept hot cold).value.2.2 := by
  cases hot with
  | none => exact hcold kept
  | some made =>
    obtain ⟨a, left⟩ := made
    cases hfailure : a.failure with
    | none =>
      rw [hotThenCold_succeeded _ _ _ hfailure]
      exact hhot a left rfl
    | some reason =>
      rw [hotThenCold_failed _ _ _ hfailure]
      exact hcold left

/-! ## Signs of zeros -/

/-- Equal entry by entry, or both zero. -/
def Matrix.EqualNumbers (a b : Matrix Float) : Prop :=
  a.ncols = b.ncols ∧
    List.Forall₂ (List.Forall₂ fun x y => x = y ∨ (x == y) = true) a.toLists b.toLists

theorem Matrix.EqualNumbers.refl (a : Matrix Float) : a.EqualNumbers a :=
  ⟨rfl, List.forall₂_same.2 fun _ _ => List.forall₂_same.2 fun _ _ => .inl rfl⟩

namespace Factored

/-- The native method does not tell a zero from a negative zero. The comparison of objectives does
not tell them apart either, and no objective with an entry that is no number passes it. -/
structure Backend.IgnoresZeroSigns (B : Backend) : Prop where
  factor : ∀ a b, a.sameValues b = true →
    Option.Rel Matrix.EqualNumbers (B.factor a) (B.factor b)
  solve : ∀ (a b : Matrix Float) linear rows, a.EqualNumbers b →
    B.solve a.columnMajor linear rows = B.solve b.columnMajor linear rows

variable {B : Backend}

/-! ## The invariant -/

/-- A kept factor is that of the objective it is kept with. -/
def Fits (B : Backend) (kept : Option Cached) : Prop :=
  ∀ cached, kept = some cached → B.factor cached.objMat = some cached.inverse

theorem fits_none : Fits B none := by
  intro cached h
  cases h

/-- What the native method makes of a problem from scratch. -/
def answer (B : Backend) (p : CheckedProblem) : Option (List Float) :=
  (B.factor p.problem.objMat).bind fun inverse =>
    (B.solve inverse.columnMajor p.problem.objVec p.flatRows).toOption

namespace State

variable (s : State) (p : CheckedProblem)

theorem point?_callBackend (inverse : Matrix Float) (rows : FlatRows) :
    (s.callBackend B inverse p rows).value.point? =
      (B.solve inverse.columnMajor p.problem.objVec rows).toOption := by
  unfold callBackend
  cases hsolve : B.solve inverse.columnMajor p.problem.objVec rows <;> simp [hsolve, Except.toOption]

theorem coldSolve_spec :
    (s.coldSolve B p p.flatRows).value.1.point? = answer B p ∧
      Fits B (s.coldSolve B p p.flatRows).value.2 := by
  unfold coldSolve answer
  cases hfactor : B.factor p.problem.objMat with
  | none => exact ⟨rfl, fits_none⟩
  | some inverse =>
    refine ⟨s.point?_callBackend p inverse p.flatRows, ?_⟩
    rintro cached ⟨⟩
    exact hfactor

theorem hotSolve_spec (hB : B.IgnoresZeroSigns) (h : Fits B s.factor) {a : Attempt}
    {left : Option Cached} (hmade : (s.hotSolve B p p.flatRows).value = some (a, left)) :
    a.point? = answer B p ∧ Fits B left := by
  unfold hotSolve at hmade
  cases hkept : s.factor with
  | none =>
    rw [hkept] at hmade
    cases hmade
  | some cached =>
    rw [hkept] at hmade
    dsimp only at hmade
    split at hmade
    · next hsame =>
      simp only [Traced.value_bind, Traced.value_pure, Option.some.injEq, Prod.mk.injEq] at hmade
      obtain ⟨rfl, rfl⟩ := hmade
      refine ⟨?_, hkept ▸ h⟩
      have hrel := hB.factor _ _ hsame
      rw [h cached hkept] at hrel
      rw [point?_callBackend, answer]
      cases hfactor : B.factor p.problem.objMat with
      | none =>
        rw [hfactor] at hrel
        cases hrel
      | some inverse =>
        rw [hfactor] at hrel
        obtain ⟨hequal⟩ := hrel
        rw [hB.solve _ _ _ _ hequal]
        rfl
    · cases hmade

def warmAttempt (B : Backend) : Traced Call (Option (Attempt × Option Cached)) :=
  match s.record.warm.plan p.dims s.config.forceInitialize with
  | .warm => s.hotSolve B p p.flatRows
  | .cold => pure none

theorem warmAttempt_spec (hB : B.IgnoresZeroSigns) (h : Fits B s.factor) {a : Attempt}
    {left : Option Cached} (hmade : (s.warmAttempt p B).value = some (a, left)) :
    a.point? = answer B p ∧ Fits B left := by
  unfold warmAttempt at hmade
  cases hplan : s.record.warm.plan p.dims s.config.forceInitialize with
  | cold =>
    rw [hplan] at hmade
    cases hmade
  | warm =>
    rw [hplan] at hmade
    exact s.hotSolve_spec p hB h hmade

def made (B : Backend) : Traced Call (List StartState × Attempt × Option Cached) :=
  s.warmAttempt p B >>= fun hot =>
    hotThenCold .quadProg s.factor hot fun _ => s.coldSolve B p p.flatRows

theorem value_solve (hvar : p.dims.var ≠ 0) :
    (s.solve B p).value =
      { s with
        record := s.record.after p.dims (s.made p B).value.1 (s.made p B).value.2.1
        factor := (s.made p B).value.2.2 } := by
  unfold solve made warmAttempt
  rw [if_neg hvar]
  cases s.record.warm.plan p.dims s.config.forceInitialize <;>
    simp only [Traced.value_bind, Traced.value_pure, Record.value_finish]

theorem solve_spec (hB : B.IgnoresZeroSigns) (h : Fits B s.factor) (hvar : p.dims.var ≠ 0) :
    (s.solve B p).value.record.point? = answer B p ∧ Fits B (s.solve B p).value.factor := by
  have hmade : (s.made p B).value.2.1.point? = answer B p ∧ Fits B (s.made p B).value.2.2 :=
    hotThenCold_keeps (P := fun a => a.point? = answer B p) .quadProg
      (fun _ _ hmade => s.warmAttempt_spec p hB h hmade) (fun _ => s.coldSolve_spec p)
  rw [s.value_solve p hvar, Record.point?_after]
  exact hmade

theorem solve_withoutVariables (hvar : p.dims.var = 0) :
    (s.solve B p).value.record.point? = (Attempt.withoutVariables p).point? ∧
      (s.solve B p).value.factor = s.factor := by
  unfold solve
  rw [if_pos hvar]
  simp only [Traced.value_bind, Traced.value_pure, Record.value_finish, Record.point?_after,
    and_self]

end State

/-! ## Runs -/

theorem fits_run (hB : B.IgnoresZeroSigns) (config : FactoredConfig) (xs : List Step) :
    Fits B ((machine B).run (.new config) xs).value.factor := by
  refine (machine B).run_invariant (I := fun _ s => Fits B s.factor) ?_ ?_ fits_none xs
  · intro cs s p h
    by_cases hvar : p.dims.var = 0
    · exact (s.solve_withoutVariables p hvar).2 ▸ h
    · exact (s.solve_spec p hB h hvar).2
  · intro cs s on h
    exact h

/-- Whatever was solved before, whether a solve fails, and its point if it does not, are those of a
new adapter with the same configuration. -/
theorem answers_as_new (B : Backend) (hB : B.IgnoresZeroSigns) (config : FactoredConfig)
    (xs : List Step) (p : CheckedProblem) :
    let s := ((machine B).run (.new config) xs).value
    let kept := (s.solve B p).value.record
    let fresh := ((State.new s.config).solve B p).value.record
    kept.failed = fresh.failed ∧ (fresh.failed = false → kept.solution = fresh.solution) := by
  intro s kept fresh
  have hkept : Fits B s.factor := fits_run hB config xs
  have hfresh : Fits B (State.new s.config).factor := fits_none
  rw [← Record.point?_eq_iff]
  by_cases hvar : p.dims.var = 0
  · rw [(s.solve_withoutVariables p hvar).1, ((State.new s.config).solve_withoutVariables p hvar).1]
  · rw [(s.solve_spec p hB hkept hvar).1, ((State.new s.config).solve_spec p hB hfresh hvar).1]

/-! ## An instance -/

/-- The identity is its own lower factor, and solving with it leaves the right-hand sides. -/
def identityRoutines : Triangular.Routines Float where
  lowerFactor? m := some (.identity m.nrows)
  solveUpper? _ b := some b

/-- The optimum where no row binds and the objective is the identity. -/
def negation : Backend where
  toRoutines := identityRoutines
  solve _ linear _ := .ok (linear.map (-·))

theorem negation_factor (m : Matrix Float) : negation.factor m = some (.identity m.nrows) := rfl

theorem negation_ignoresZeroSigns : negation.IgnoresZeroSigns where
  factor a b h := by
    have hrows := ((Matrix.sameValues_iff a b).1 h).nrows
    rw [negation_factor, negation_factor, hrows]
    exact .some (.refl _)
  solve _ _ _ _ _ := rfl

/-- The identity, with zeros of either sign next to the diagonal. -/
def bowl (zero : Float) (linear : List Float) : Problem :=
  { Problem.new ⟨2, 0, 0⟩ with objMat := .ofLists 2 [[1, zero], [zero, 1]], objVec := linear }

theorem answers_as_new_negativeZero :
    let s := ((machine negation).run (.new Config.defaultQuadProg)
      [.solve (bowl 0 [1, 2]), .solve (bowl 0 []), .force true, .force false]).value
    let p : CheckedProblem := ⟨bowl (-0.0) [3, 4], fun f => by cases f <;> rfl⟩
    let kept := (s.solve negation p).value.record
    let fresh := ((State.new s.config).solve negation p).value.record
    kept.attempts = [.warm] ∧ fresh.attempts = [.cold] ∧ fresh.failed = false ∧
      kept.solution = fresh.solution := by
  intro s p kept fresh
  have hfresh : fresh.failed = false := by decide +kernel
  have hsame := answers_as_new negation negation_ignoresZeroSigns Config.defaultQuadProg
    [.solve (bowl 0 [1, 2]), .solve (bowl 0 []), .force true, .force false] p
  exact ⟨by decide +kernel, by decide +kernel, hfresh, hsame.2 hfresh⟩

end Factored

end QuadOpt
