import QuadOpt.Log

/-!
# Log filters

A filter is a list of directives with commas between them. A directive says down to which level lines
are shown, for all origins or for those that begin with a given text. Of several directives that
speak of a line the one with the longest origin counts, and of two with the same origin the later.
-/

namespace QuadOpt.Log

/-- A threshold for the lines of some origins. -/
structure Directive where
  /-- How an origin has to begin; nothing is the same for all. -/
  origin : Option String
  /-- The least urgent level that is shown; nothing if no line is. -/
  threshold : Option Level
  deriving DecidableEq, Repr

abbrev Filter := List Directive

def Level.rank : Level → Nat
  | error => 0
  | warn => 1
  | info => 2
  | debug => 3
  | trace => 4

def Level.all : List Level := [error, warn, info, debug, trace]

namespace Directive

/-- A threshold by its name, in either case, or by the number of levels shown. -/
def threshold? (s : String) : Option (Option Level) :=
  if s = "0" ∨ s.toUpper = "OFF" then some none
  else
    (Level.all.find? fun l => l.name == s.toUpper || toString (l.rank + 1) == s).map some

/-- A threshold alone, an origin with a threshold, or an origin alone, for which every line is shown. -/
def ofText? (s : String) : Option Directive :=
  match s.splitOn "=" with
  | [one] =>
    match threshold? one with
    | some threshold => some ⟨none, threshold⟩
    | none => some ⟨some one, some .trace⟩
  | [origin, level] => (threshold? level).map fun threshold => ⟨some origin, threshold⟩
  | _ => none

/-- Whether the directive speaks of the lines of an origin. -/
def covers (d : Directive) (origin : String) : Bool := (d.origin.getD "").isPrefixOf origin

/-- The longer the origin the closer the fit; a directive for all fits least. -/
def closeness (d : Directive) : Nat :=
  match d.origin with
  | none => 0
  | some origin => origin.utf8ByteSize + 1

def allows (d : Directive) (level : Level) : Bool :=
  match d.threshold with
  | none => false
  | some threshold => level.rank ≤ threshold.rank

end Directive

namespace Filter

/-- Only errors are shown where nothing is said. -/
def ofText (s : String) : Filter :=
  let directives := ((s.splitOn ",").filter (· != "")).filterMap Directive.ofText?
  if directives.isEmpty then [⟨none, some .error⟩] else directives

def decisive? (f : Filter) (origin : String) : Option Directive :=
  (f.filter (·.covers origin)).foldl (fun best d =>
    match best with
    | some b => if b.closeness ≤ d.closeness then some d else best
    | none => some d) none

def shows (f : Filter) (line : Line) : Bool :=
  match f.decisive? line.origin with
  | some d => d.allows line.level
  | none => false

end Filter

end QuadOpt.Log
