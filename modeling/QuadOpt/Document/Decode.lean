import QuadOpt.Document.Fault
import QuadOpt.Number.Reading

/-!
# Decoding

Scalars are decoded by what their place asks for. A record is a table, or a list that gives the
fields in declaration order; the decoder goes through the text in order, so the first misfit is the
error. Where two formats differ they differ in a `Dialect`.
-/

namespace QuadOpt.Document

abbrev Decoded (α : Type) := Except Fault α

def misfit {α : Type} (cause : Misfit) : Decoded α := .error (.misfit cause none)

/-- Refuses a value that is of another type than its place asks for. -/
def wrongType {α : Type} (t : Tree) (expected : Expected) : Decoded α :=
  match t.found? with
  | none => .error .malformed
  | some found => misfit (.invalidType found expected)

def decodeBool : Tree → Decoded Bool
  | .bool b => .ok b
  | t => wrongType t .boolean

/-- An integer from zero up to `limit`, `limit` not included. -/
def decodeNat (limit : Nat) (expected : Expected) : Tree → Decoded Nat
  | .int i => if 0 ≤ i ∧ i < limit then .ok i.toNat else misfit (.invalidValue (.int i) expected)
  | t => wrongType t expected

def decodeWord32 (t : Tree) : Decoded UInt32 := (decodeNat (Nat.pow 2 32) .word32 t).map UInt32.ofNat

def decodeWord64 (t : Tree) : Decoded UInt64 := (decodeNat (Nat.pow 2 64) .word64 t).map UInt64.ofNat

def decodeFloat : Tree → Decoded Float
  | .float x => .ok x
  | .int i => .ok (Decimal.signed (i < 0) ⟨i.natAbs, 0⟩)
  | t => wrongType t .double

/-- The element of an enumeration that has the given name. -/
def decodeName {α : Type} (all : List α) (nameOf : α → String) (name : String) : Decoded α :=
  match all.find? (nameOf · == name) with
  | some a => .ok a
  | none => misfit (.unknownVariant name (all.map nameOf))

/-- A field of a record: its name, and how its value goes into the record. -/
structure Setter (σ : Type) where
  name : String
  set : Tree → σ → Decoded σ

structure Dialect where
  /-- A list may have more elements than the record has fields. -/
  surplusAllowed : Bool

/-- Sets a field from a node; a misfit without a place of its own is at the node or else at the
key. -/
def Setter.run {σ : Type} (s : Setter σ) (key : Option Span) (node : Node) (r : σ) : Decoded σ :=
  (s.set node.2 r).mapError (·.orPlace (node.1 <|> key))

/-- A record that is being decoded, and the fields that it has so far. -/
structure Partial (σ : Type) where
  record : σ
  seen : List String

/-- Reads one entry. An unknown key is passed over, a known one must not come twice. -/
def readEntry {σ : Type} (setters : List (Setter σ)) (p : Partial σ) (e : Entry) :
    Decoded (Partial σ) :=
  match e.1.text with
  | .name name =>
    match setters.find? (·.name == name) with
    | none => .ok p
    | some s =>
      if p.seen.contains name then misfit (.duplicateField name)
      else (s.run e.1.span e.2 p.record).map fun record => ⟨record, name :: p.seen⟩
  | _ => .error .malformed

/-- Sets the fields from elements, as far as there are both. -/
def readItems {σ : Type} : List (Setter σ) → List Node → σ → Decoded σ
  | s :: setters, item :: items, r => do readItems setters items (← s.run none item r)
  | _, _, r => .ok r

/-- A record of the given title, every field of which has a default. A date is a record without any
of the fields. -/
def decodeRecord {σ : Type} (d : Dialect) (title : String) (setters : List (Setter σ))
    (start : σ) : Tree → Decoded σ
  | .table _ entries closed => do
    let p ← entries.foldlM (readEntry setters) ⟨start, []⟩
    if closed then .ok p.record else .error .malformed
  | .list _ items closed => do
    let record ← readItems setters items start
    if closed && (d.surplusAllowed || items.length ≤ setters.length) then .ok record
    else .error .malformed
  | .date => .ok start
  | t => wrongType t (.record title)

/-- A record of the given title, every field of which has to be given. -/
def decodeFull {σ : Type} (d : Dialect) (title : String) (setters : List (Setter σ))
    (start : σ) : Tree → Decoded σ
  | .table form entries closed => do
    let p ← entries.foldlM (readEntry setters) ⟨start, []⟩
    if !closed then .error .malformed
    else
      match setters.find? fun s => !p.seen.contains s.name with
      | some s => misfit (.missingField s.name)
      | none => decodeRecord d title setters start (.table form entries closed)
  | .list ofTables items closed => do
    let _ ← readItems setters items start
    if closed && items.length < setters.length then
      misfit (.invalidLength items.length (.record title) setters.length)
    else decodeRecord d title setters start (.list ofTables items closed)
  | t => wrongType t (.record title)

end QuadOpt.Document
