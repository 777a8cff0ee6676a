import QuadOpt.Proofs.Form.Cones
import QuadOpt.Proofs.Workspace.Retained

/-!
# Warm starts are sound

After every run, a retained workspace is the one that the native side holds, its data are those of the
latest problem, and the adapter's record and stored matrices speak of that same problem. This is the
invariant that a warm start relies on: what it compares with the new problem is what the workspace
really holds.
-/

namespace QuadOpt

/-! ## Cones are fixed -/

theorem splitting_fixesCones : Workspace.Technique.FixesCones splitting := fun _ _ _ _ => rfl

/-- The interior point method never compares cones. The row count and the dimensions give them. -/
theorem interiorPoint_fixesCones : Workspace.Technique.FixesCones interiorPoint := by
  intro p q hdims hrows
  show p.coneForm.cones = q.coneForm.cones
  rw [p.cones_coneForm, q.cones_coneForm, hdims]
  exact congrArg (fun n => CheckedProblem.conesOf q.dims.eq (n - q.dims.eq)) hrows

namespace Workspace

variable {T : Technique} {B : Backend T}

/-! ## The invariant -/

/-- The retained workspace `live` is what the native side holds after the calls `cs`, and has the data
of `p`, the latest problem. -/
structure Retained (cs : List (Call T)) (s : State T B) (live : Live T B) (held : Held T)
    (p : CheckedProblem) : Prop where
  held_eq : Held.calls B none cs = some held
  held_data : held.data = live.data
  held_settings : held.settings = live.settings
  settings : live.settings = s.config.settings
  data : live.data = dataOf T p
  initial : SameLayout held.initial (dataOf T p)
  dims : s.record.warm.cachedDims = some p.dims
  objective : s.objective = (dataOf T p).objective
  constraints : s.constraints = (dataOf T p).constraints

/-- If a workspace is retained at all, it is in order. -/
def Keeps (cs : List (Call T)) (s : State T B) : Prop :=
  ∀ live, s.workspace = some live → ∃ held p, Retained cs s live held p

theorem keeps_of_none {cs : List (Call T)} {s : State T B} (h : s.workspace = none) :
    Keeps cs s := by
  intro live hlive
  rw [h] at hlive
  cases hlive

theorem Retained.sameLayout (hT : T.FixesCones) {cs : List (Call T)} {s : State T B}
    {live : Live T B} {held : Held T} {q p : CheckedProblem} (h : Retained cs s live held q)
    (hwarm : s.triesWarm p) : SameLayout (dataOf T q) (dataOf T p) := by
  obtain ⟨hplan, hfits, -⟩ := hwarm
  obtain ⟨-, hdims, -⟩ := (WarmStart.plan_eq_warm_iff _ _ _).1 hplan
  rw [h.dims, Option.some.injEq] at hdims
  rw [State.fits, Bool.and_eq_true, h.objective, h.constraints] at hfits
  exact sameLayout_dataOf hT hdims (Csc.samePattern_symm hfits.1) (Csc.samePattern_symm hfits.2)

theorem Retained.applyAll_changes (hT : T.FixesCones) {cs : List (Call T)} {s : State T B}
    {live : Live T B} {held : Held T} {q p : CheckedProblem} (h : Retained cs s live held q)
    (hwarm : s.triesWarm p) :
    live.applyAll (dataOf T p).changes = ⟨dataOf T p, s.config.settings, live.memory⟩ := by
  have hcones : live.data.cones = (dataOf T p).cones := by
    rw [h.data]
    exact (h.sameLayout hT hwarm).cones
  rw [Live.mk.injEq, Live.data_applyAll_changes, hcones]
  exact ⟨rfl, h.settings, rfl⟩

theorem Retained.calls_changeCalls (hT : T.FixesCones) {cs : List (Call T)} {s : State T B}
    {live : Live T B} {held : Held T} {q p : CheckedProblem} (h : Retained cs s live held q)
    (hwarm : s.triesWarm p) :
    Held.calls B none (cs ++ State.changeCalls (dataOf T p)) =
      some ⟨held.initial, dataOf T p, s.config.settings⟩ := by
  have hcones : held.data.cones = (dataOf T p).cones := by
    rw [h.held_data, h.data]
    exact (h.sameLayout hT hwarm).cones
  rw [Held.calls_append, h.held_eq, Held.calls_changeCalls, hcones, h.held_settings, h.settings]

/-! ## Every solve keeps it -/

theorem keeps_coldSolve (cs : List (Call T)) (s : State T B) (p : CheckedProblem)
    (attempts : List StartState) :
    let cold := s.coldSolve (dataOf T p) (s.stale p)
    Keeps (cs ++ cold.calls)
      ((s.store (dataOf T p)).after p attempts cold.value.1 cold.value.2) := by
  intro cold live hlive
  obtain ⟨hdata, hsettings, memory, hsetup⟩ := s.workspace_coldSolve _ _ hlive
  refine ⟨⟨dataOf T p, dataOf T p, s.config.settings⟩, p, ?_⟩
  exact
    { held_eq := by rw [Held.calls_append, Held.calls_coldSolve B s _ _ _ hsetup]
      held_data := hdata.symm
      held_settings := hsettings.symm
      settings := hsettings
      data := hdata
      initial := .refl _
      dims := rfl
      objective := rfl
      constraints := rfl }

theorem Retained.data_update (hT : T.FixesCones) {cs : List (Call T)} {s : State T B}
    {live left : Live T B} {held : Held T} {q p : CheckedProblem} (h : Retained cs s live held q)
    (hwarm : s.triesWarm p) (hupdate : live.update (dataOf T p).changes = .ok left) :
    left.data = dataOf T p ∧ left.settings = s.config.settings := by
  constructor
  · rw [Live.data_update hupdate, h.applyAll_changes hT hwarm]
  · rw [Live.settings_update hupdate, h.settings]

theorem keeps_warmRun (hT : T.FixesCones) {cs : List (Call T)} {s : State T B} {p : CheckedProblem}
    (h : Keeps cs s) (hwarm : s.triesWarm p) {live : Live T B} (hlive : s.workspace = some live)
    (hok : (s.warmRun (dataOf T p) (s.stale p) live).value.1.failure = none) :
    Keeps (cs ++ (s.warmRun (dataOf T p) (s.stale p) live).calls)
      ((s.store (dataOf T p)).after p [.warm] (s.warmRun (dataOf T p) (s.stale p) live).value.1
        (some (s.warmRun (dataOf T p) (s.stale p) live).value.2)) := by
  intro ran hran
  obtain ⟨held, q, hheld⟩ := h live hlive
  obtain ⟨left, hupdate⟩ := s.exists_update_of_succeeded hok
  obtain ⟨hleft, hkept⟩ := hheld.data_update hT hwarm hupdate
  have hvalue := s.value_warmRun (dataOf T p) (s.stale p) live
  simp only [hupdate] at hvalue
  have hdata : ran.data = dataOf T p := by
    rw [← Option.some.inj hran, hvalue, Live.data_run, hleft]
  have hsettings : ran.settings = s.config.settings := by
    rw [← Option.some.inj hran, hvalue, Live.settings_run, hkept]
  refine ⟨⟨held.initial, dataOf T p, s.config.settings⟩, p, ?_⟩
  exact
    { held_eq := by
        rw [s.calls_of_update _ _ hupdate, ← List.append_assoc, Held.calls_append,
          hheld.calls_changeCalls hT hwarm]
        rfl
      held_data := hdata.symm
      held_settings := hsettings.symm
      settings := hsettings
      data := hdata
      initial := hheld.initial.trans (hheld.sameLayout hT hwarm)
      dims := rfl
      objective := rfl
      constraints := rfl }

theorem Solved.keeps (hT : T.FixesCones) {cs ds : List (Call T)} {s t : State T B}
    {p : CheckedProblem} (hsolved : Solved s p ds t) (h : Keeps cs s) : Keeps (cs ++ ds) t := by
  cases hsolved with
  | withoutVariables => exact keeps_of_none rfl
  | crossed => exact keeps_of_none rfl
  | cold => exact keeps_coldSolve cs s p [.cold]
  | warm hvar hrow hwarm hlive hok => exact keeps_warmRun hT h hwarm hlive hok
  | retried hvar hrow hwarm hlive hfailed =>
    rw [← List.append_assoc]
    exact keeps_coldSolve _ s p [.warm, .cold]

theorem keeps_setForce {cs : List (Call T)} {s : State T B} (on : Bool) (h : Keeps cs s) :
    Keeps cs (s.setForce on) := by
  intro live hlive
  obtain ⟨held, p, hheld⟩ := h live hlive
  exact ⟨held, p, { hheld with }⟩

theorem keeps_run (hT : T.FixesCones) (config : WorkspaceConfig T.Settings) (xs : List Step) :
    let past := (machine B).run (.new config) xs
    Keeps past.calls past.value :=
  (machine B).run_invariant (I := Keeps) (fun _ s p h => (s.solve_solved p).keeps hT h)
    (fun _ _ on h => keeps_setForce on h) (keeps_of_none rfl) xs

/-! ## The start of a native run -/

theorem Solved.triesWarm {s t : State T B} {p : CheckedProblem} {ds : List (Call T)}
    (hsolved : Solved s p ds t) {c : Change T} (hc : .change c ∈ ds) : s.triesWarm p := by
  cases hsolved with
  | withoutVariables => cases hc
  | crossed => cases hc
  | cold =>
    rw [s.calls_coldSolve] at hc
    cases hsetup : B.setup (dataOf T p) s.config.settings <;> simp [hsetup] at hc
  | warm hvar hrow hwarm => exact hwarm
  | retried hvar hrow hwarm => exact hwarm

theorem Solved.change_mem {s t : State T B} {p : CheckedProblem} {ds : List (Call T)}
    (hsolved : Solved s p ds t) (hvar : p.dims.var ≠ 0) (hrow : T.crossedRow? p = none)
    (hwarm : s.triesWarm p) {c : Change T} (hc : c ∈ (dataOf T p).changes) : .change c ∈ ds := by
  have hmem (live : Live T B) :
      .change c ∈ (s.warmRun (dataOf T p) (s.stale p) live).calls := by
    rw [s.calls_warmRun]
    exact List.mem_append_left _ (List.mem_map_of_mem hc)
  cases hsolved with
  | withoutVariables hvar' => exact absurd hvar' hvar
  | crossed _ hrow' =>
    rw [hrow] at hrow'
    cases hrow'
  | cold _ _ hcold => exact absurd hwarm hcold
  | warm => exact hmem _
  | retried => exact List.mem_append_left _ (hmem _)

/-- Whatever was done before, a method that takes data of the same layout takes the changes. -/
theorem exists_update_of_triesWarm (hT : T.FixesCones) (hB : B.TakesUpdates) {cs : List (Call T)}
    {s : State T B} {p : CheckedProblem} (h : Keeps cs s) (hwarm : s.triesWarm p) {live : Live T B}
    (hlive : s.workspace = some live) : ∃ left, live.update (dataOf T p).changes = .ok left := by
  obtain ⟨held, q, hheld⟩ := h live hlive
  refine hB live (dataOf T p) ?_
  rw [hheld.data]
  exact hheld.sameLayout hT hwarm

/-- A workspace that takes the changes is run next. -/
theorem Solved.changes_run_isPrefix {s t : State T B} {p : CheckedProblem} {ds : List (Call T)}
    (hsolved : Solved s p ds t) {c : Change T} (hc : .change c ∈ ds) {live left : Live T B}
    (hlive : s.workspace = some live) (hupdate : live.update (dataOf T p).changes = .ok left) :
    State.changeCalls (dataOf T p) ++ [.run] <+: ds := by
  have hcalls := s.calls_of_update (dataOf T p) (s.stale p) hupdate
  cases hsolved with
  | withoutVariables => cases hc
  | crossed => cases hc
  | cold hvar hrow hcold => exact absurd (Solved.triesWarm (.cold hvar hrow hcold) hc) hcold
  | warm _ _ _ hlive' =>
    rw [hlive, Option.some.injEq] at hlive'
    subst hlive'
    rw [hcalls]
  | retried _ _ _ hlive' =>
    rw [hlive, Option.some.injEq] at hlive'
    subst hlive'
    rw [hcalls]
    exact List.prefix_append _ _

/-- Each native run of a solve, warm or cold, finds the data of the problem. -/
theorem Solved.runsOn (hT : T.FixesCones) {cs ds : List (Call T)} {s t : State T B}
    {p : CheckedProblem} (hsolved : Solved s p ds t) (h : Keeps cs s) :
    Held.RunsOn B (dataOf T p) s.config.settings (Held.calls B none cs) ds := by
  have hchange {live : Live T B} (hwarm : s.triesWarm p) (hlive : s.workspace = some live) :
      Held.RunsOn B (dataOf T p) s.config.settings (Held.calls B none cs)
        (s.warmRun (dataOf T p) (s.stale p) live).calls := by
    obtain ⟨held, q, hheld⟩ := h live hlive
    rw [s.calls_warmRun]
    refine Held.runsOn_append B (Held.runsOn_changeCalls B _ _ _ _) ?_
    rw [← Held.calls_append, hheld.calls_changeCalls hT hwarm]
    split
    · exact Held.runsOn_run B rfl rfl
    · trivial
  cases hsolved with
  | withoutVariables => trivial
  | crossed => trivial
  | cold => exact Held.runsOn_coldSolve B s _ _ _
  | warm hvar hrow hwarm hlive => exact hchange hwarm hlive
  | retried hvar hrow hwarm hlive =>
    exact Held.runsOn_append B (hchange hwarm hlive) (Held.runsOn_coldSolve B s _ _ _)

/-- Whatever was done before, a solve that changes a retained workspace finds one that was set up
with the settings in force and with the layout of the problem; the changes give it the data of the
problem, and each native run of the solve starts from these data. The first run is that of the changed
workspace, unless the method refuses the changes. -/
theorem warm_start_sound (T : Technique) (hT : T = splitting ∨ T = interiorPoint) (B : Backend T)
    (config : WorkspaceConfig T.Settings) (xs : List Step) (p : CheckedProblem) (c : Change T)
    (hchange : .change c ∈ (((machine B).run (.new config) xs).value.solve p).calls) :
    let past := (machine B).run (.new config) xs
    let settings := past.value.config.settings
    ∃ live held, past.value.workspace = some live ∧ Held.calls B none past.calls = some held ∧
      held.data = live.data ∧ held.settings = settings ∧ live.settings = settings ∧
      SameLayout held.initial (dataOf T p) ∧
      live.applyAll (dataOf T p).changes = ⟨dataOf T p, settings, live.memory⟩ ∧
      Held.RunsOn B (dataOf T p) settings (some held) (past.value.solve p).calls ∧
      ∀ left, live.update (dataOf T p).changes = .ok left →
        left.data = dataOf T p ∧ left.settings = settings ∧
          State.changeCalls (dataOf T p) ++ [.run] <+: (past.value.solve p).calls := by
  have hcones : T.FixesCones := by
    rcases hT with rfl | rfl
    · exact splitting_fixesCones
    · exact interiorPoint_fixesCones
  intro past settings
  have hkeeps : Keeps past.calls past.value := keeps_run hcones config xs
  have hsolved := past.value.solve_solved p
  have hwarm := hsolved.triesWarm hchange
  have hruns := hsolved.runsOn hcones hkeeps
  cases hlive : past.value.workspace with
  | none => exact absurd hlive hwarm.2.2
  | some live =>
    obtain ⟨held, q, hheld⟩ := hkeeps live hlive
    rw [hheld.held_eq] at hruns
    refine ⟨live, held, rfl, hheld.held_eq, hheld.held_data,
      hheld.held_settings.trans hheld.settings, hheld.settings,
      hheld.initial.trans (hheld.sameLayout hcones hwarm), hheld.applyAll_changes hcones hwarm,
      hruns, fun left hupdate => ?_⟩
    obtain ⟨hdata, hkept⟩ := hheld.data_update hcones hwarm hupdate
    exact ⟨hdata, hkept, hsolved.changes_run_isPrefix hchange hlive hupdate⟩

/-! ## An instance -/

/-- The optimum where no row binds and the objective is the identity. -/
def negation : Backend interiorPoint where
  Memory := Unit
  setup _ _ := .ok ()
  update _ _ _ _ := .ok ()
  run d _ _ := (⟨.solved, some (d.linear.map (-·)), 1⟩, ())

def parabola (c : Float) : Problem :=
  { Problem.new ⟨1, 0, 0⟩ with objMat := .identity 1, objVec := [c] }

/-- A start, a refused problem, and a forced start. -/
def earlierSteps : List Step :=
  [.solve (parabola 1), .solve { parabola 1 with objVec := [] }, .force true, .solve (parabola 2),
    .force false]

theorem warm_start_sound_parabola :
    let past := (machine negation).run (.new Config.defaultClarabel) earlierSteps
    let p : CheckedProblem := ⟨parabola 3, fun f => by cases f <;> rfl⟩
    .change (.linear [3]) ∈ (past.value.solve p).calls ∧ ∃ live, past.value.workspace = some live ∧
      (live.applyAll (dataOf interiorPoint p).changes).data = dataOf interiorPoint p ∧
      State.changeCalls (dataOf interiorPoint p) ++ [.run] <+: (past.value.solve p).calls := by
  intro past p
  have hwarm : past.value.triesWarm p := by
    refine ⟨by decide +kernel, by decide +kernel, ?_⟩
    have hsome : past.value.workspace.isSome = true := by decide +kernel
    intro hnone
    rw [hnone] at hsome
    cases hsome
  have hmem : .linear [3] ∈ (dataOf interiorPoint p).changes :=
    List.mem_cons_of_mem _ List.mem_cons_self
  have hchange := (past.value.solve_solved p).change_mem (by decide) rfl hwarm hmem
  obtain ⟨live, held, hlive, -, -, -, -, -, happly, -, htaken⟩ :=
    warm_start_sound interiorPoint (.inr rfl) negation Config.defaultClarabel earlierSteps p
      (.linear [3]) hchange
  obtain ⟨-, -, hrun⟩ := htaken _ rfl
  refine ⟨hchange, live, hlive, ?_, hrun⟩
  rw [happly]

end Workspace

end QuadOpt
