import QuadOpt.Document.Tree

/-!
# Building tables

A document fills its tables piece by piece: assignments under dotted keys, headers that open a table,
headers that add a table to a list. A table that is only implied by something inside it can be filled
further; one that was written out cannot, and no key is set twice.
-/

namespace QuadOpt.Toml

open Document

/-- The entries of a table, in the order in which their keys first appear. -/
abbrev Entries := List Entry

/-- Changes what stands under a key, which is added at the end if it is new. A key keeps the place and
the span of its first appearance. -/
def alter (key : Key) (f : Option Node → Option Node) : Entries → Option Entries
  | [] => do return [(key, ← f none)]
  | e :: es =>
    if e.1.text = key.text then do return (e.1, ← f (some e.2)) :: es
    else do return e :: (← alter key f es)

def alterLast {α : Type} (f : α → Option α) : List α → Option (List α)
  | [] => none
  | [a] => do return [← f a]
  | a :: b :: as => do return a :: (← alterLast f (b :: as))

/-- A way to a table: which tables it makes where there are none, and which ones it may go through. -/
structure Passage where
  makes : TableForm
  enters : TableForm → Bool

/-- Headers go through every table but those that are values. -/
def headerPassage : Passage := ⟨.implied, (· != .inline)⟩

/-- Dotted keys only go through tables that are implied by what they hold. -/
def dottedPassage : Passage := ⟨.dotted, fun form => form == .dotted || form == .implied⟩

/-- A change of a table's entries that may depend on how the table came about. -/
abbrev Edit := TableForm → Entries → Option Entries

/-- Edits a table. The last table stands for a list of tables. -/
def enter (passage : Passage) (edit : Edit) : Node → Option Node
  | (span, .table form entries closed) => do
    if passage.enters form then return (span, .table form (← edit form entries) closed) else none
  | (span, .list true items closed) => do
    let items ← alterLast (fun
      | (s, .table form entries c) => do return (s, .table form (← edit form entries) c)
      | _ => none) items
    return (span, .list true items closed)
  | _ => none

/-- Edits the table at the end of a path. -/
def editAt (passage : Passage) : List Key → Edit → Edit
  | [], edit => edit
  | key :: path, edit => fun _ => alter key fun
    | none => do return (none, .table passage.makes (← editAt passage path edit passage.makes []) true)
    | some node => enter passage (editAt passage path edit) node

/-- A dotted key: the last part, and the parts before it. -/
structure Path where
  parents : List Key
  last : Key

def setNew (key : Key) (node : Node) : Entries → Option Entries :=
  alter key fun
    | none => some node
    | some _ => none

/-- Assigns a value. Behind a dotted key the table must have been made by dotted keys alone. -/
def assign (path : Path) (value : Node) (entries : Entries) : Option Entries :=
  editAt dottedPassage path.parents
    (fun form es =>
      if path.parents.isEmpty || form == .dotted then setNew path.last value es else none)
    .header entries

def assignAll (assignments : List (Path × Node)) (entries : Entries) : Option Entries :=
  assignments.foldlM (fun es (path, value) => assign path value es) entries

inductive Opening where
  | table
  | tableInList
  deriving DecidableEq, Repr

structure Section where
  opening : Opening
  path : Path
  span : Span
  assignments : List (Path × Node)

/-- From the start of one span to the end of another. -/
def spanning (first last : Option Span) : Option Span := do
  let first ← first
  let last ← last
  return ⟨first.start, last.stop⟩

/-- What a section makes of the value that stands under its key. -/
def Section.fill (s : Section) : Option Node → Option Node :=
  let table (entries : Entries) : Option Node := do
    return (some s.span, .table .header (← assignAll s.assignments entries) true)
  match s.opening with
  | .table => fun
    | none => table []
    | some (_, .table .implied entries _) => table entries
    | some _ => none
  | .tableInList => fun
    | none => do return (some s.span, .list true [← table []] true)
    | some (span, .list true items _) => do
      return (spanning span s.span, .list true (items ++ [← table []]) true)
    | some _ => none

def Section.add (entries : Entries) (s : Section) : Option Entries :=
  editAt headerPassage s.path.parents (fun _ => alter s.path.last s.fill) .header entries

end QuadOpt.Toml
