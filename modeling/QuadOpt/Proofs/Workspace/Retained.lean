import QuadOpt.Adapter.InteriorPoint
import QuadOpt.Adapter.Splitting
import QuadOpt.Proofs.Matrix.Stored
import QuadOpt.Proofs.Workspace.Path

/-!
# What a warm start finds in the workspace

The native calls of a run, read on their own, say what the native side holds: the data of the latest
setup, changed part by part since. A warm start changes that workspace in place. It never compares
the cones, nor what the workspace was set up with, so both have to follow from what is compared: the
dimensions, the stored positions, and the success of the solve before.
-/

namespace QuadOpt

namespace Workspace

variable {T : Technique} {B : Backend T}

/-! ## The native side -/

/-- What the native side holds: the data its workspace was set up with, its data now, and its
settings. -/
structure Held (T : Technique) where
  initial : Data T
  data : Data T
  settings : T.Settings

namespace Held

variable (B)

/-- One call. A setup leaves a new workspace, or none if it is refused. -/
def call (h : Option (Held T)) : Call T → Option (Held T)
  | .setup d settings =>
    match B.setup d settings with
    | .ok _ => some ⟨d, d, settings⟩
    | .error _ => none
  | .change c => h.map fun h => { h with data := h.data.apply c }
  | .run => h

def calls (h : Option (Held T)) (cs : List (Call T)) : Option (Held T) := cs.foldl (call B) h

@[simp] theorem calls_append (h : Option (Held T)) (cs ds : List (Call T)) :
    calls B h (cs ++ ds) = calls B (calls B h cs) ds := List.foldl_append

/-- Every run among the calls finds a workspace with the given data and settings. -/
def RunsOn (d : Data T) (settings : T.Settings) : Option (Held T) → List (Call T) → Prop
  | _, [] => True
  | h, c :: cs =>
    (c = .run → ∃ now, h = some now ∧ now.data = d ∧ now.settings = settings) ∧
      RunsOn d settings (call B h c) cs

theorem runsOn_append {d : Data T} {settings : T.Settings} {h : Option (Held T)}
    {cs ds : List (Call T)} (hcs : RunsOn B d settings h cs)
    (hds : RunsOn B d settings (calls B h cs) ds) : RunsOn B d settings h (cs ++ ds) := by
  induction cs generalizing h with
  | nil => exact hds
  | cons c cs ih => exact ⟨hcs.1, ih hcs.2 hds⟩

theorem calls_changeCalls (h : Held T) (d : Data T) :
    calls B (some h) (State.changeCalls d) =
      some { h with data := { d with cones := h.data.cones } } := rfl

theorem runsOn_changeCalls (d : Data T) (settings : T.Settings) (h : Option (Held T)) (e : Data T) :
    RunsOn B d settings h (State.changeCalls e) := by
  simp [State.changeCalls, Data.changes, RunsOn]

theorem runsOn_run {d : Data T} {settings : T.Settings} {h : Held T} (hdata : h.data = d)
    (hsettings : h.settings = settings) : RunsOn B d settings (some h) [.run] :=
  ⟨fun _ => ⟨h, rfl, hdata, hsettings⟩, trivial⟩

theorem calls_coldSolve (s : State T B) (d : Data T) (stale : List Float) (h : Option (Held T))
    {memory : B.Memory} (hsetup : B.setup d s.config.settings = .ok memory) :
    calls B h (s.coldSolve d stale).calls = some ⟨d, d, s.config.settings⟩ := by
  rw [s.calls_coldSolve, hsetup]
  simp [calls, call, hsetup]

theorem runsOn_coldSolve (s : State T B) (d : Data T) (stale : List Float)
    (h : Option (Held T)) : RunsOn B d s.config.settings h (s.coldSolve d stale).calls := by
  rw [s.calls_coldSolve]
  refine ⟨by simp, ?_⟩
  cases hsetup : B.setup d s.config.settings with
  | error refusal => trivial
  | ok memory =>
    simp only [call, hsetup]
    exact runsOn_run B rfl rfl

end Held

/-! ## Layouts -/

/-- Data that differ in numbers only: the same sizes, stored positions and cones. -/
structure SameLayout (a b : Data T) : Prop where
  linear : a.linear.length = b.linear.length
  rows : a.constraints.nrows = b.constraints.nrows
  objective : a.objective.samePattern b.objective = true
  constraints : a.constraints.samePattern b.constraints = true
  cones : a.cones = b.cones

theorem SameLayout.refl (a : Data T) : SameLayout a a := ⟨rfl, rfl, by simp, by simp, rfl⟩

theorem SameLayout.trans {a b c : Data T} (hab : SameLayout a b) (hbc : SameLayout b c) :
    SameLayout a c where
  linear := hab.linear.trans hbc.linear
  rows := hab.rows.trans hbc.rows
  objective := Csc.samePattern_trans hab.objective hbc.objective
  constraints := Csc.samePattern_trans hab.constraints hbc.constraints
  cones := hab.cones.trans hbc.cones

/-- A live workspace takes data of its own layout. -/
def Backend.TakesUpdates (B : Backend T) : Prop :=
  ∀ (w : Live T B) (d : Data T), SameLayout w.data d → ∃ left, w.update d.changes = .ok left

/-- The cones follow from the dimensions and the number of rows. -/
def Technique.FixesCones (T : Technique) : Prop :=
  ∀ p q : CheckedProblem, p.dims = q.dims → (T.form p).mat.nrows = (T.form q).mat.nrows →
    (T.form p).cones = (T.form q).cones

theorem sameLayout_dataOf (hT : T.FixesCones) {p q : CheckedProblem} (hdims : p.dims = q.dims)
    (hobjective : (dataOf T p).objective.samePattern (dataOf T q).objective = true)
    (hconstraints : (dataOf T p).constraints.samePattern (dataOf T q).constraints = true) :
    SameLayout (dataOf T p) (dataOf T q) where
  linear := by
    have hp := p.objVec_length
    have hq := q.objVec_length
    rw [hdims] at hp
    exact hp.trans hq.symm
  rows := ((Csc.samePattern_iff _ _).1 hconstraints).1
  objective := hobjective
  constraints := hconstraints
  cones := hT p q hdims ((Csc.samePattern_iff _ _).1 hconstraints).1

end Workspace

end QuadOpt
