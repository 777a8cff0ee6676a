import QuadOpt.Json.Document

/-!
# Names in JSON

A value of an enumeration is a string with its name, or a table with that name as its only key and
`null` behind it.
-/

namespace QuadOpt.Json

open Document

def decodeUnit : Tree → Decoded Unit
  | .null => .ok ()
  | t => wrongType t .unit

/-- The name at the place of a key. -/
def decodeNameKey {α : Type} (all : List α) (nameOf : α → String) (e : Entry) : Decoded α :=
  match e.1.text with
  | .name name => decodeName all nameOf name
  | .unreadable => .error .malformed
  | .stray => wrongType e.2.2 .variantName

def decodeVariant {α : Type} (all : List α) (nameOf : α → String) : Tree → Decoded α
  | .text name => decodeName all nameOf name
  | .table _ (e :: more) closed => do
    let a ← decodeNameKey all nameOf e
    let _ ← decodeUnit e.2.2
    if closed && more.isEmpty then return a else .error .malformed
  | _ => .error .malformed

end QuadOpt.Json
