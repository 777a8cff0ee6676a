import QuadOpt.Proofs.Form.Rows
import QuadOpt.Proofs.Solver.Start
import QuadOpt.Proofs.Workspace.WarmStart

/-!
# Bounds on their way to the splitting method

Crossed bounds are found before the method is called, and are reported by the row of the first
variable that has them. All other bounds are clipped to what the method takes for infinite. Clipping
keeps their order, so neither a setup nor a change of a live workspace can be refused for its bounds.
-/

namespace QuadOpt

/-! ## Crossed bounds -/

namespace Workspace

section

variable {T : Technique} {B : Backend T} {s t : State T B} {p : CheckedProblem} {cs : List (Call T)}

theorem Solved.calls_eq_nil_iff (h : Solved s p cs t) (hvar : p.dims.var ≠ 0) :
    cs = [] ↔ T.crossedRow? p ≠ none := by
  cases h with
  | withoutVariables hvar' => exact absurd hvar' hvar
  | crossed _ hrow => simp [hrow]
  | cold _ hrow => simp [s.calls_coldSolve, hrow]
  | warm _ hrow => simp [s.calls_warmRun_ne_nil, hrow]
  | retried _ hrow => simp [s.calls_warmRun_ne_nil, hrow]

end

variable {B : Backend splitting} (s : State splitting B) (p : CheckedProblem)

/-- The solve fails at the given row without the native method, and lets go of the workspace. -/
structure State.ReportsCrossed (row : Nat) : Prop where
  calls : (s.solve p).calls = []
  logs : (s.solve p).logs =
    [conversionLine splitting p, .solveFailed .osqp p.dims (.crossedBounds row)]
  failed : (s.solve p).value.record.failed = true
  attempts : (s.solve p).value.record.attempts = [.cold]
  workspace : (s.solve p).value.workspace = none

theorem State.reportsCrossed {row : Nat} (hvar : p.dims.var ≠ 0)
    (hrow : splitting.crossedRow? p = some row) : s.ReportsCrossed p row := by
  obtain ⟨hcalls, hvalue⟩ := s.solve_of_crossed p hvar hrow
  constructor
  · exact hcalls
  · exact s.logs_solve_of_crossed p hvar hrow
  all_goals rw [hvalue]; rfl

end Workspace

/-- Whatever the doubles are, the first crossed row is the row of the first variable whose lower
bound is above its upper one, and never a row of an equality or an inequality. The adapter, whatever
it solved before, makes no native call just if there is such a variable. -/
theorem CheckedProblem.crossed_bounds_exact (p : CheckedProblem) :
    (∀ row, p.stackedRangesWithBounds.firstCrossedRow? = some row ↔
      ∃ k, row = p.dims.eq + p.dims.ineq + k ∧ p.FirstCrossed k) ∧
    (p.stackedRangesWithBounds.firstCrossedRow? = none ↔ ∀ k, ¬ p.CrossedAt k) ∧
    p.stackedRanges.firstCrossedRow? = none ∧
    (0 < p.dims.var → ∀ (B : Workspace.Backend splitting) (s : Workspace.State splitting B),
      ((s.solve p).calls = [] ↔ ∃ k, p.CrossedAt k) ∧
        ∀ k, p.FirstCrossed k → s.ReportsCrossed p (p.dims.eq + p.dims.ineq + k)) := by
  refine ⟨p.firstCrossedRow?_eq_some_iff, p.firstCrossedRow?_eq_none_iff,
    p.firstCrossedRow?_stackedRanges, fun hvar B s => ⟨?_, fun k hk => ?_⟩⟩
  · have hcalls := (s.solve_solved p).calls_eq_nil_iff hvar.ne'
    rw [Ne, show splitting.crossedRow? p = p.stackedRangesWithBounds.firstCrossedRow? from rfl,
      p.firstCrossedRow?_eq_none_iff, not_forall_not] at hcalls
    exact hcalls
  · exact s.reportsCrossed p hvar.ne' ((p.firstCrossedRow?_eq_some_iff _).2 ⟨k, rfl, hk⟩)

/-- An infinite equality, an inequality that no point meets, a bound that is no number, and crossed
bounds of the second variable. -/
def crossedSecond : CheckedProblem where
  problem :=
    { Problem.new ⟨2, 1, 1⟩ with
      eqVec := [1 / 0], ineqVec := [negativeInfinity], xMin := [0 / 0, 3], xMax := [0, 2] }
  fits f := by cases f <;> rfl

theorem CheckedProblem.crossed_bounds_exact_second :
    let past := ((Workspace.machine Backends.interval.splitting).run (.new Solver.hotOsqp.osqp)
      [.solve (capped 2).problem]).value
    crossedSecond.stackedRangesWithBounds.firstCrossedRow? = some 3 ∧
      crossedSecond.stackedRanges.firstCrossedRow? = none ∧
      0 < crossedSecond.dims.var ∧ past.workspace.isSome = true ∧
      past.ReportsCrossed crossedSecond 3 := by
  intro past
  have hfirst : crossedSecond.FirstCrossed 1 := by
    rw [← firstCrossed?_box_eq_some_iff]
    decide +kernel
  obtain ⟨hsome, -, hstacked, hosqp⟩ := crossed_bounds_exact crossedSecond
  exact ⟨(hsome 3).2 ⟨1, rfl, hfirst⟩, hstacked, by decide, by decide +kernel,
    (hosqp (by decide) _ past).2 1 hfirst⟩

/-! ## Clipping -/

theorem isNaN_splittingInfinity : splittingInfinity.isNaN = false := by decide +kernel

theorem isNaN_neg_splittingInfinity : (-splittingInfinity).isNaN = false := by decide +kernel

theorem bound_neg_splittingInfinity_le : bound (-splittingInfinity) ≤ bound splittingInfinity :=
  (Binary64.le_iff isNaN_neg_splittingInfinity isNaN_splittingInfinity).1 (by decide +kernel)

/-- What is handed over for the bound `v`: the bound itself, or the infinite one of its sign. -/
structure Clipped (v w : Float) : Prop where
  unchanged : -splittingInfinity ≤ v → v ≤ splittingInfinity → w = v
  below : v < -splittingInfinity → w = -splittingInfinity
  above : splittingInfinity < v → w = splittingInfinity

section

variable {v w : Float} (hv : v.isNaN = false) (hw : w.isNaN = false)

include hv

theorem isNaN_clip : (clip v).isNaN = false := by
  unfold clip
  split
  · exact isNaN_neg_splittingInfinity
  · split
    · exact isNaN_splittingInfinity
    · exact hv

theorem bound_clip :
    bound (clip v) = max (bound (-splittingInfinity)) (min (bound splittingInfinity) (bound v)) := by
  have hlow : v < -splittingInfinity ↔ bound v < bound (-splittingInfinity) :=
    Binary64.lt_iff hv isNaN_neg_splittingInfinity
  have hhigh : splittingInfinity < v ↔ bound splittingInfinity < bound v :=
    Binary64.lt_iff isNaN_splittingInfinity hv
  unfold clip
  split
  case isTrue h =>
    rw [max_eq_left (min_le_of_right_le (hlow.1 h).le)]
  case isFalse h =>
    rw [hlow, not_lt] at h
    split
    case isTrue h' =>
      rw [min_eq_left (hhigh.1 h').le, max_eq_right bound_neg_splittingInfinity_le]
    case isFalse h' =>
      rw [hhigh, not_lt] at h'
      rw [min_eq_right h', max_eq_right h]

theorem clip_within : -splittingInfinity ≤ clip v ∧ clip v ≤ splittingInfinity := by
  rw [Binary64.le_iff isNaN_neg_splittingInfinity (isNaN_clip hv),
    Binary64.le_iff (isNaN_clip hv) isNaN_splittingInfinity]
  show bound (-splittingInfinity) ≤ bound (clip v) ∧ bound (clip v) ≤ bound splittingInfinity
  rw [bound_clip hv]
  exact ⟨le_max_left _ _, max_le bound_neg_splittingInfinity_le (min_le_left _ _)⟩

theorem clipped_clip : Clipped v (clip v) where
  unchanged hlow hhigh := by
    rw [Binary64.le_iff isNaN_neg_splittingInfinity hv, ← not_lt,
      ← Binary64.lt_iff hv isNaN_neg_splittingInfinity] at hlow
    rw [Binary64.le_iff hv isNaN_splittingInfinity, ← not_lt,
      ← Binary64.lt_iff isNaN_splittingInfinity hv] at hhigh
    rw [clip, if_neg hlow, if_neg hhigh]
  below h := if_pos h
  above h := by
    have hlow : ¬ v < -splittingInfinity := by
      rw [Binary64.lt_iff isNaN_splittingInfinity hv] at h
      rw [Binary64.lt_iff hv isNaN_neg_splittingInfinity, not_lt]
      exact bound_neg_splittingInfinity_le.trans h.le
    rw [clip, if_neg hlow, if_pos h]

include hw

theorem clip_le_clip (h : v ≤ w) : clip v ≤ clip w := by
  rw [Binary64.le_iff hv hw] at h
  rw [Binary64.le_iff (isNaN_clip hv) (isNaN_clip hw)]
  show bound (clip v) ≤ bound (clip w)
  rw [bound_clip hv, bound_clip hw]
  exact max_le_max_left _ (min_le_min_left _ h)

end

/-! ## Valid bounds -/

/-- Bounds as the method wants them for a matrix with so many rows. -/
structure Bounds.Valid (b : Bounds) (rows : Nat) : Prop where
  length_lower : b.lower.length = rows
  length_upper : b.upper.length = rows
  within : ∀ v ∈ b.lower ++ b.upper, -splittingInfinity ≤ v ∧ v ≤ splittingInfinity
  ordered : ∀ i (hlower : i < b.lower.length) (hupper : i < b.upper.length), b.lower[i] ≤ b.upper[i]

/-- Row by row the bounds of the problem: equalities, then inequalities, then the box. -/
structure Bounds.StandFor (b : Bounds) (p : CheckedProblem) : Prop where
  lower : List.Forall₂ Clipped
    (p.problem.eqVec ++ List.replicate p.dims.ineq negativeInfinity ++ p.problem.xMin) b.lower
  upper : List.Forall₂ Clipped
    (p.problem.eqVec ++ p.problem.ineqVec ++ p.problem.xMax) b.upper

theorem forall₂_clipped_map_clip {vs : List Float} (h : ∀ v ∈ vs, v.isNaN = false) :
    List.Forall₂ Clipped vs (vs.map clip) := by
  rw [List.forall₂_map_right_iff, List.forall₂_same]
  exact fun v hv => clipped_clip (h v hv)

/-- No entry of the right-hand sides and of the box is without a value. -/
def CheckedProblem.BoundedByNumbers (p : CheckedProblem) : Prop :=
  ∀ v ∈ p.problem.eqVec ++ p.problem.ineqVec ++ p.problem.xMin ++ p.problem.xMax, v.isNaN = false

namespace CheckedProblem.BoundedByNumbers

variable {p : CheckedProblem} (h : p.BoundedByNumbers)

include h

theorem lower : ∀ v ∈ p.stackedRangesWithBounds.lower, v.isNaN = false := by
  have hfill : negativeInfinity.isNaN = false := by decide +kernel
  intro v hv
  simp only [stackedRangesWithBounds, List.mem_append, List.mem_replicate] at hv
  rcases hv with (hv | ⟨-, rfl⟩) | hv
  · exact h v (by simp [hv])
  · exact hfill
  · exact h v (by simp [hv])

theorem upper : ∀ v ∈ p.stackedRangesWithBounds.upper, v.isNaN = false := by
  intro v hv
  simp only [stackedRangesWithBounds, List.mem_append] at hv
  rcases hv with (hv | hv) | hv <;> exact h v (by simp [hv])

theorem standFor : p.splittingForm.rhs.StandFor p where
  lower := forall₂_clipped_map_clip h.lower
  upper := forall₂_clipped_map_clip h.upper

theorem valid (hrow : p.stackedRangesWithBounds.firstCrossedRow? = none) :
    p.splittingForm.rhs.Valid p.splittingForm.mat.nrows := by
  have hrows : p.splittingForm.mat.nrows = p.dims.eq + (p.dims.ineq + p.dims.var) :=
    p.nrows_stackedRangesWithBounds
  constructor
  · simp [splittingForm, stackedRangesWithBounds, p.eqVec_length, p.xMin_length, ← hrows]
  · simp [splittingForm, stackedRangesWithBounds, p.eqVec_length, p.ineqVec_length,
      p.xMax_length, ← hrows]
  · intro v hv
    rw [splittingForm, ← List.map_append, List.mem_map] at hv
    obtain ⟨w, hw, rfl⟩ := hv
    rcases List.mem_append.1 hw with hw | hw
    · exact clip_within (h.lower w hw)
    · exact clip_within (h.upper w hw)
  · -- No row is crossed, and clipping keeps the order of its bounds.
    intro i hlower hupper
    simp only [splittingForm, List.length_map, List.getElem_map] at hlower hupper ⊢
    have hlo := h.lower _ (List.getElem_mem hlower)
    have hhi := h.upper _ (List.getElem_mem hupper)
    apply clip_le_clip hlo hhi
    have hordered := (Ranges.firstCrossed?_eq_none_iff _ _).1 hrow i hlower hupper
    rwa [Binary64.lt_iff_not_le hhi hlo, not_not] at hordered

end CheckedProblem.BoundedByNumbers

/-! ## Checks of the native method -/

theorem Bounds.Valid.firstCrossed?_eq_none {b : Bounds} {rows : Nat} (h : b.Valid rows) :
    Ranges.firstCrossed? b.lower b.upper = none := by
  rw [Ranges.firstCrossed?_eq_none_iff]
  intro i hlower hupper
  exact Binary64.not_lt_of_le (h.ordered i hlower hupper)

theorem Splitting.settingsInvalid_ne : settingsInvalid ≠ boundsInvalid := by decide

theorem Splitting.nonConvex_ne : nonConvex ≠ boundsInvalid := by decide

theorem Splitting.setup_ne_boundsInvalid {d : Workspace.Data splitting} {rows : Nat}
    (h : d.rhs.Valid rows) (settings : SplittingSettings) :
    setup d settings ≠ .error boundsInvalid := by
  have hchecked : ∀ x ∈ d.rhs.lower.zip d.rhs.upper, x.1 ≤ x.2 := by
    rw [List.forall_mem_iff_getElem]
    intro i hi
    rw [List.length_zip, Nat.lt_min] at hi
    simpa using h.ordered i hi.1 hi.2
  unfold setup
  rw [if_neg (by simpa using hchecked)]
  split
  · simpa using settingsInvalid_ne
  · split
    · simpa using nonConvex_ne
    · simp

namespace Workspace

namespace Held

variable {T : Technique} {B : Backend T} {P : Option (Held T) → Call T → Prop}
  {h : Option (Held T)}

/-- Each call meets the condition, together with what the native side holds when it is made. -/
def Always (B : Backend T) (P : Option (Held T) → Call T → Prop) (h : Option (Held T))
    (cs : List (Call T)) : Prop :=
  ∀ before c after, cs = before ++ c :: after → P (calls B h before) c

theorem always_nil : Always B P h [] := by
  intro before c after hsplit
  simp at hsplit

theorem always_cons_iff {c : Call T} {cs : List (Call T)} :
    Always B P h (c :: cs) ↔ P h c ∧ Always B P (call B h c) cs := by
  constructor
  · intro hall
    refine ⟨hall [] c cs rfl, fun before d after hsplit => ?_⟩
    exact hall (c :: before) d after (congrArg (c :: ·) hsplit)
  · rintro ⟨hc, hcs⟩ before d after hsplit
    cases before with
    | nil =>
      obtain ⟨rfl, -⟩ := List.cons.inj hsplit
      exact hc
    | cons b before =>
      obtain ⟨rfl, hrest⟩ := List.cons.inj hsplit
      exact hcs before d after hrest

theorem always_append {cs ds : List (Call T)} (hcs : Always B P h cs)
    (hds : Always B P (calls B h cs) ds) : Always B P h (cs ++ ds) := by
  induction cs generalizing h with
  | nil => exact hds
  | cons c cs ih =>
    rw [always_cons_iff] at hcs
    exact always_cons_iff.2 ⟨hcs.1, ih hcs.2 hds⟩

end Held

/-- If the call hands bounds over, they are those of the problem, they are valid for the matrix that
goes with them, and no check of the native method refuses them. -/
def PassesBounds (p : CheckedProblem) (held : Option (Held splitting)) : Call splitting → Prop
  | .setup d settings =>
    d.rhs.StandFor p ∧ d.rhs.Valid d.constraints.nrows ∧
      Splitting.setup d settings ≠ .error Splitting.boundsInvalid
  | .change (.rhs b) =>
    b.StandFor p ∧ Ranges.firstCrossed? b.lower b.upper = none ∧
      ∃ now, held = some now ∧ now.initial.constraints.nrows = now.data.constraints.nrows ∧
        b.Valid now.data.constraints.nrows
  | _ => True

variable {B : Backend splitting} {s t : State splitting B} {p : CheckedProblem}
  {cs ds : List (Call splitting)}

section

variable (hnumbers : p.BoundedByNumbers) (hrow : splitting.crossedRow? p = none)

include hnumbers hrow

theorem valid_dataOf : (dataOf splitting p).rhs.Valid (dataOf splitting p).constraints.nrows :=
  hnumbers.valid hrow

theorem always_passesBounds_coldSolve (s : State splitting B) (held : Option (Held splitting)) :
    Held.Always B (PassesBounds p) held (s.coldSolve (dataOf splitting p) (s.stale p)).calls := by
  have hvalid := valid_dataOf hnumbers hrow
  rw [s.calls_coldSolve]
  refine Held.always_cons_iff.2
    ⟨⟨hnumbers.standFor, hvalid, Splitting.setup_ne_boundsInvalid hvalid _⟩, ?_⟩
  cases B.setup (dataOf splitting p) s.config.settings with
  | error refusal => exact Held.always_nil
  | ok memory => exact Held.always_cons_iff.2 ⟨trivial, Held.always_nil⟩

theorem always_passesBounds_warmRun (s : State splitting B) (live : Live splitting B)
    {held : Held splitting} (hlayout : SameLayout held.initial (dataOf splitting p)) :
    Held.Always B (PassesBounds p) (some held)
      (s.warmRun (dataOf splitting p) (s.stale p) live).calls := by
  have hvalid := valid_dataOf hnumbers hrow
  -- The bounds come last, and find the matrix of the same problem in place.
  have hbounds : PassesBounds p
      (some { held with data := { dataOf splitting p with
        rhs := held.data.rhs, cones := held.data.cones } })
      (.change (.rhs (dataOf splitting p).rhs)) :=
    ⟨hnumbers.standFor, hvalid.firstCrossed?_eq_none, _, rfl, hlayout.rows, hvalid⟩
  have hchanges : Held.Always B (PassesBounds p) (some held)
      (State.changeCalls (dataOf splitting p)) := by
    simp only [State.changeCalls, Data.changes, List.map_cons, List.map_nil, Held.always_cons_iff]
    exact ⟨trivial, trivial, trivial, hbounds, Held.always_nil⟩
  rw [s.calls_warmRun]
  refine Held.always_append hchanges ?_
  split
  · exact Held.always_cons_iff.2 ⟨trivial, Held.always_nil⟩
  · exact Held.always_nil

end

theorem Solved.passesBounds (hsolved : Solved s p ds t) (hnumbers : p.BoundedByNumbers)
    (h : Keeps cs s) : Held.Always B (PassesBounds p) (Held.calls B none cs) ds := by
  have hchange (hrow : splitting.crossedRow? p = none) {live : Live splitting B}
      (hwarm : s.triesWarm p) (hlive : s.workspace = some live) :
      Held.Always B (PassesBounds p) (Held.calls B none cs)
        (s.warmRun (dataOf splitting p) (s.stale p) live).calls := by
    obtain ⟨held, q, hheld⟩ := h live hlive
    rw [hheld.held_eq]
    exact always_passesBounds_warmRun hnumbers hrow s live
      (hheld.initial.trans (hheld.sameLayout splitting_fixesCones hwarm))
  cases hsolved with
  | withoutVariables => exact Held.always_nil
  | crossed => exact Held.always_nil
  | cold hvar hrow => exact always_passesBounds_coldSolve hnumbers hrow s _
  | warm hvar hrow hwarm hlive => exact hchange hrow hwarm hlive
  | retried hvar hrow hwarm hlive =>
    exact Held.always_append (hchange hrow hwarm hlive)
      (always_passesBounds_coldSolve hnumbers hrow s _)

/-- Whatever was solved before, each setup and each change of bounds that a solve makes hands over
valid bounds, which are those of the problem within what the method takes. -/
theorem valid_bounds_handed_over (B : Backend splitting) (config : WorkspaceConfig SplittingSettings)
    (xs : List Step) (p : CheckedProblem) (hnumbers : p.BoundedByNumbers) :
    let past := (machine B).run (.new config) xs
    Held.Always B (PassesBounds p) (Held.calls B none past.calls) (past.value.solve p).calls :=
  ((((machine B).run (.new config) xs).value).solve_solved p).passesBounds hnumbers
    (keeps_run splitting_fixesCones config xs)

/-- The point two, kept by the equality alone: other bounds are infinite, or too large. -/
def widened : CheckedProblem where
  problem :=
    { Problem.new ⟨1, 1, 1⟩ with
      objMat := .identity 1, eqMat := .identity 1, eqVec := [2]
      ineqMat := .identity 1, ineqVec := [1 / 0], xMin := [-1e31], xMax := [3] }
  fits f := by cases f <;> rfl

theorem valid_bounds_handed_over_widened :
    let past := (machine Backends.interval.splitting).run (.new Solver.hotOsqp.osqp)
      [.solve widened.problem]
    let clipped : Bounds := ⟨[2, -1e30, -1e30], [2, 1e30, 3]⟩
    widened.BoundedByNumbers ∧ .change (.rhs clipped) ∈ (past.value.solve widened).calls ∧
      Held.Always Backends.interval.splitting (PassesBounds widened)
        (Held.calls Backends.interval.splitting none past.calls) (past.value.solve widened).calls := by
  intro past clipped
  have hnumbers : widened.BoundedByNumbers := by
    unfold CheckedProblem.BoundedByNumbers
    decide +kernel
  have hrow : splitting.crossedRow? widened = none := by decide +kernel
  have hwarm : past.value.triesWarm widened := by
    refine ⟨by decide +kernel, by decide +kernel, ?_⟩
    rw [← Option.isSome_iff_ne_none]
    decide +kernel
  have hrhs : (dataOf splitting widened).rhs = clipped := by decide +kernel
  have hmem : .rhs (dataOf splitting widened).rhs ∈ (dataOf splitting widened).changes :=
    .tail _ (.tail _ (.tail _ (.head _)))
  rw [hrhs] at hmem
  have hchange := (past.value.solve_solved widened).change_mem (by decide) hrow hwarm hmem
  have hlaw := valid_bounds_handed_over Backends.interval.splitting Solver.hotOsqp.osqp
    [.solve widened.problem] widened hnumbers
  exact ⟨hnumbers, hchange, hlaw⟩

end Workspace

end QuadOpt
