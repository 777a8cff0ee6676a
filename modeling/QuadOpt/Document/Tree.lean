/-!
# Document trees

What a reader of structured text has understood: scalars, lists and tables, in text order, each with
its place in the text where the format gives one. A reader may also stop where the text goes wrong.
Then the list or table it was in is left open, and everything up to that point can still be looked at.
-/

namespace QuadOpt.Document

/-- A run of characters of the text, from `start` up to `stop`. -/
structure Span where
  start : Nat
  stop : Nat
  deriving DecidableEq, Repr

/-- What stands at the place of a key. -/
inductive KeyText where
  | name (s : String)
  /-- A key whose text stands for no string. -/
  | unreadable
  /-- Something that is no key; the value beside it says what. -/
  | stray
  deriving DecidableEq, Repr

structure Key where
  text : KeyText
  span : Option Span := none
  deriving DecidableEq, Repr

inductive TableForm where
  /-- Written out as a value. -/
  | inline
  /-- Opened by a header of its own. -/
  | header
  /-- Implied by the header of a table inside it. -/
  | implied
  /-- Implied by a dotted key. -/
  | dotted
  deriving DecidableEq, Repr

/-- A value. Elements and entries carry the span of their value. -/
inductive Tree where
  | null
  | bool (b : Bool)
  | int (i : Int)
  | float (x : Float)
  | text (s : String)
  | date
  /-- A list, of tables that were opened by headers or of plain values; `closed` if the text goes on
  behind it. -/
  | list (ofTables : Bool) (items : List (Option Span × Tree)) (closed : Bool)
  | table (form : TableForm) (entries : List (Key × Option Span × Tree)) (closed : Bool)
  /-- Nothing that could be read as a value. -/
  | unreadable

/-- A value with its place in the text. -/
abbrev Node := Option Span × Tree

abbrev Entry := Key × Node

end QuadOpt.Document
