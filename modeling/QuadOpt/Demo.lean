import QuadOpt.Catalogue
import QuadOpt.Config.Toml
import QuadOpt.Log.Filter
import QuadOpt.Sample

/-!
# The demonstration

Solves every sample twice with every backend there is, then a problem without solution. The second
solve shows the warm start. Log lines that pass the filter stand between the lines of the report.
-/

namespace QuadOpt.Demo

inductive Source where
  /-- Nothing is given; every setting has its default. -/
  | none
  | text (s : String)
  /-- The file could not be read, for this reason. -/
  | unreadable (path reason : String)
  deriving DecidableEq, Repr

structure Outcome where
  exitCode : UInt32
  /-- The lines of the report. -/
  report : List String
  /-- What is wrong, if something is. -/
  complaint : Option String
  deriving DecidableEq, Repr

/-- The distance from the known optimum up to which an answer is called small. -/
def smallDistance : Float := 1e-2

def distance (a b : List Float) : Float :=
  Float.sqrt (((a.zip b).map fun (x, y) => (x - y) * (x - y)).foldl (· + ·) 0)

/-- How near an answer is. A failed solve has no answer. -/
def nearness (failed : Bool) (x solution : List Float) : String :=
  if failed then "_" else if distance x solution < smallDistance then "small" else "large"

def padded (width : Nat) (s : String) : String :=
  s ++ String.ofList (List.replicate (width - s.length) ' ')

/-- A line of the report about one backend; the names stand in a column. -/
def kindLine (kind : Kind) (rest : String) : String := "  " ++ padded 9 kind.name ++ " " ++ rest

def title : String := "=== QP Solver Collection Demo ==="

def heading (name : String) : String := "--- " ++ name ++ " ---"

/-- The lines of a message and the log lines of a step, as far as they are shown. -/
def shown (filter : Log.Filter) (lines : List Log.Line) : List String :=
  (lines.filter filter.shows).flatMap fun l => l.fullText.splitOn "\n"

variable {B : Backends}

def logOf {α : Type} (filter : Log.Filter) (t : Traced NativeCall α) : List String :=
  shown filter t.logs

/-- One solve of a sample: what is logged, a line about the outcome, and the solver afterwards. -/
def solveSample (filter : Log.Filter) (sample : Sample) (s : Solver B) :
    List String × Solver B :=
  match s.solve sample.problem with
  | .error mismatch =>
    (["  " ++ s.kind.name ++ ": " ++ (Error.dimensionMismatch mismatch).message], s)
  | .ok traced =>
    let t := traced.value
    (logOf filter traced ++
      [kindLine t.kind (StartState.listText t.lastAttempts ++ " failed=" ++ toString t.failed ++
        " error=" ++ nearness t.failed t.solution sample.solution)], t)

/-- Two solves of a sample with a fresh solver. -/
def backendLines (c : Catalogue) (B : Backends) (filter : Log.Filter) (config : Config)
    (sample : Sample) (kind : Kind) : List String :=
  match c.allocate B kind config with
  | .error e => ["  " ++ kind.name ++ ": " ++ e.message]
  | .ok solver =>
    let (first, solved) := solveSample filter sample solver
    let (second, _) := solveSample filter sample solved
    shown filter (solver.info true "  ") ++ first ++ second

def sampleLines (c : Catalogue) (B : Backends) (filter : Log.Filter) (config : Config)
    (sample : Sample) : List String :=
  heading sample.name :: shown filter (sample.problem.info true "  ") ++
    c.available.flatMap (backendLines c B filter config sample) ++ [""]

def infeasibleLines (c : Catalogue) (B : Backends) (filter : Log.Filter) (config : Config)
    (kind : Kind) : List String :=
  match c.allocate B kind config with
  | .error _ => []
  | .ok solver =>
    let line (ok failed : Bool) :=
      kindLine kind ("ok=" ++ toString ok ++ " failed=" ++ toString failed)
    match solver.solve Sample.infeasible with
    | .error _ => [line false solver.failed]
    | .ok traced => logOf filter traced ++ [line true traced.value.failed]

/-- The report on a configuration, behind its title. -/
def reportLines (c : Catalogue) (B : Backends) (filter : Log.Filter) (config : Config) :
    List String :=
  ["Available backends: " ++ ", ".intercalate (c.available.map Kind.name), ""] ++
    Sample.all.flatMap (sampleLines c B filter config) ++
    heading "infeasible" :: c.available.flatMap (infeasibleLines c B filter config)

/-- The configuration that a source gives, or what is wrong with it. -/
def configOf : Source → Except String Config
  | .none => .ok .default
  | .unreadable path reason => .error ("Cannot read " ++ path ++ ": " ++ reason)
  | .text s => (Config.fromToml s).mapError Error.message

def run (c : Catalogue) (B : Backends) (filter : Log.Filter) (source : Source) : Outcome :=
  match configOf source with
  | .error complaint => ⟨1, [title, ""], some complaint⟩
  | .ok config => ⟨0, [title, ""] ++ reportLines c B filter config, none⟩

end QuadOpt.Demo
