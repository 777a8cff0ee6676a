import QuadOpt.Kind
import QuadOpt.Problem.Checked
import QuadOpt.Toml.Message

/-!
# Errors

Why a call was refused. A solve that found no point is no error; its reason is in the log.
-/

namespace QuadOpt

inductive ErrorCategory where
  | invalidDimension
  | dimensionMismatch
  | unknownBackendName
  | backendUnavailable
  | noBackendAvailable
  | config
  deriving DecidableEq, Repr

namespace ErrorCategory

def all : List ErrorCategory :=
  [invalidDimension, dimensionMismatch, unknownBackendName, backendUnavailable, noBackendAvailable,
    config]

def name : ErrorCategory → String
  | invalidDimension => "InvalidDimension"
  | dimensionMismatch => "DimensionMismatch"
  | unknownBackendName => "UnknownBackendName"
  | backendUnavailable => "BackendUnavailable"
  | noBackendAvailable => "NoBackendAvailable"
  | config => "Config"

def ofName? (s : String) : Option ErrorCategory := all.find? (·.name == s)

def message (c : ErrorCategory) (detail : String) : String :=
  match c with
  | invalidDimension => "Invalid dimension: " ++ detail
  | dimensionMismatch => "Dimension mismatch: " ++ detail
  | unknownBackendName => "Unknown backend name: " ++ detail
  | backendUnavailable => "Backend unavailable: " ++ detail
  | noBackendAvailable => "No backend available"
  | config => "Configuration error: " ++ detail

end ErrorCategory

inductive Error where
  | invalidDimension (cause : Dims.Negative)
  | dimensionMismatch (cause : Problem.Mismatch)
  | unknownBackendName (name : String)
  | backendUnavailable (kind : Kind)
  | noBackendAvailable
  /-- The text is no configuration. -/
  | config (text : String) (fault : Document.Fault)
  deriving DecidableEq, Repr

namespace Error

def category : Error → ErrorCategory
  | invalidDimension _ => .invalidDimension
  | dimensionMismatch _ => .dimensionMismatch
  | unknownBackendName _ => .unknownBackendName
  | backendUnavailable _ => .backendUnavailable
  | noBackendAvailable => .noBackendAvailable
  | config .. => .config

def detail : Error → String
  | invalidDimension cause => cause.detail
  | dimensionMismatch cause => cause.detail
  | unknownBackendName name => name
  | backendUnavailable kind => kind.name
  | noBackendAvailable => ""
  | config text (.misfit cause place) => Toml.message text cause place
  | config _ .malformed => "not well formed\n"

def message (e : Error) : String := e.category.message e.detail

end Error

end QuadOpt
