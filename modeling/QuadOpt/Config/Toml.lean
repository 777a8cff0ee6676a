import QuadOpt.Config.Decode
import QuadOpt.Error
import QuadOpt.Toml.Document

/-!
# Configurations in TOML

The backend is named by a string, or by the only key of a table whose value there is empty.
-/

namespace QuadOpt.Config

open Document

/-- The word for a value that should have been a table. -/
def typeWord : Tree → String
  | .text _ => "string"
  | .int _ => "integer"
  | .float _ => "float"
  | .bool _ => "boolean"
  | .date => "datetime"
  | .list .. => "array"
  | .table .. => "table"
  | .null | .unreadable => "none"

/-- Nothing may stand behind the name of a backend. -/
def decodeEmpty : Tree → Decoded Unit
  | .table _ [] _ | .list _ [] _ => .ok ()
  | .table .. => misfit .emptyTableWanted
  | .list true .. => misfit .emptyListWanted
  | .list false .. => misfit .emptyTableWanted
  | t => misfit (.tableWanted (typeWord t))

/-- The kind that the key of an entry names, if the entry is empty. -/
def kindOfEntry (e : Entry) : Decoded Kind :=
  match e.1.text with
  | .name name => do
    let kind ← (kindNamed name).mapError (·.orPlace e.1.span)
    let _ ← (decodeEmpty e.2.2).mapError (·.orPlace e.2.1)
    return kind
  | _ => .error .malformed

def kindOfToml : Tree → Decoded Kind
  | .text name => kindNamed name
  | .table _ [e] _ => kindOfEntry e
  | .table _ [] _ => misfit (.oneEntryWanted false)
  | .table .. => misfit (.oneEntryWanted true)
  | _ => misfit .stringOrTableWanted

def ofToml (text : String) : Decoded Config :=
  match Toml.read text with
  | some t => ofTree Toml.dialect kindOfToml t
  | none => .error .malformed

/-- The configuration that a text gives, or the error that a caller gets. -/
def fromToml (text : String) : Except Error Config := (ofToml text).mapError (.config text)

end QuadOpt.Config
