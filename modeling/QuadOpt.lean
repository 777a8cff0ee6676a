import QuadOpt.Adapter.Conic
import QuadOpt.Adapter.Factored
import QuadOpt.Adapter.InteriorPoint
import QuadOpt.Adapter.Splitting
import QuadOpt.Adapter.Workspace
import QuadOpt.Catalogue
import QuadOpt.Config
import QuadOpt.Config.Decode
import QuadOpt.Config.Json
import QuadOpt.Config.Section
import QuadOpt.Config.Toml
import QuadOpt.Config.Write
import QuadOpt.Demo
import QuadOpt.Dims
import QuadOpt.Document.Decode
import QuadOpt.Document.Fault
import QuadOpt.Document.Tree
import QuadOpt.Error
import QuadOpt.Form.Cone
import QuadOpt.Form.Flat
import QuadOpt.Form.OneSided
import QuadOpt.Form.Ranges
import QuadOpt.Json.Document
import QuadOpt.Json.Domain
import QuadOpt.Json.Number
import QuadOpt.Json.Text
import QuadOpt.Json.Variant
import QuadOpt.Kind
import QuadOpt.Log
import QuadOpt.Log.Filter
import QuadOpt.Main
import QuadOpt.Matrix
import QuadOpt.Matrix.Sparse
import QuadOpt.Matrix.Stack
import QuadOpt.Matrix.Triangular
import QuadOpt.Method.ActiveSet
import QuadOpt.Method.Coordinates
import QuadOpt.Method.Native
import QuadOpt.Method.Proximal
import QuadOpt.Number.Binary64
import QuadOpt.Number.Fixed
import QuadOpt.Number.Notation
import QuadOpt.Number.Reading
import QuadOpt.Number.Shortest
import QuadOpt.Problem
import QuadOpt.Problem.Checked
import QuadOpt.Problem.Dump
import QuadOpt.Sample
import QuadOpt.Solve.Attempt
import QuadOpt.Solve.Reason
import QuadOpt.Solve.Record
import QuadOpt.Solve.Traced
import QuadOpt.Solve.WarmStart
import QuadOpt.Solver
import QuadOpt.Text.Digits
import QuadOpt.Text.Printable
import QuadOpt.Text.Quoted
import QuadOpt.Toml.Document
import QuadOpt.Toml.Message
import QuadOpt.Toml.Number
import QuadOpt.Toml.Scan
import QuadOpt.Toml.Table
import QuadOpt.Toml.Text
import QuadOpt.Proofs.Run
import QuadOpt.Proofs.Workspace.Path
import QuadOpt.Proofs.Workspace.Retained
import QuadOpt.Proofs.Form.Cones
import QuadOpt.Proofs.Workspace.WarmStart
import QuadOpt.Proofs.Factored.Cache
import QuadOpt.Proofs.Number.Unpacked
import QuadOpt.Proofs.Number.Value
import QuadOpt.Proofs.Form.Rows
import QuadOpt.Proofs.Form.Feasible
import QuadOpt.Proofs.Form.Bounded
import QuadOpt.Proofs.History
import QuadOpt.Proofs.Matrix.Entries
import QuadOpt.Proofs.Matrix.Stored
import QuadOpt.Proofs.Factored.Path
import QuadOpt.Proofs.Form.Crossed
import QuadOpt.Proofs.Solver.Outcome
import QuadOpt.Proofs.Solver.Start
import QuadOpt.Proofs.Solver.Bookkeeping
import QuadOpt.Proofs.Solver.Stale
import QuadOpt.Proofs.Finding
import QuadOpt.Proofs.Solver.Cold
import QuadOpt.Proofs.Problem.Mismatch
import QuadOpt.Proofs.Solver.Observed
import QuadOpt.Proofs.Solver.Empty
import QuadOpt.Proofs.Matrix.Upper
import QuadOpt.Proofs.Matrix.Compressed
import QuadOpt.Proofs.Matrix.Quadratic
import QuadOpt.Proofs.Solver.KeptRows
import QuadOpt.Proofs.Solver.LowerPart
import QuadOpt.Proofs.Matrix.Stacked
import QuadOpt.Proofs.Solver.Bounds
import QuadOpt.Proofs.Solver.Pattern
import QuadOpt.Proofs.Attempts
import QuadOpt.Proofs.Solver.Log
import QuadOpt.Proofs.Matrix.Guarded
import QuadOpt.Proofs.Form.Guarded
import QuadOpt.Proofs.Matrix.Factor
import QuadOpt.Proofs.Config.Overlay
import QuadOpt.Proofs.Config.Partial
import QuadOpt.Proofs.Number.Shortest
import QuadOpt.Proofs.Number.Written
import QuadOpt.Proofs.Problem.Dump
import QuadOpt.Proofs.Matrix.Window
import QuadOpt.Proofs.WarmStart
import QuadOpt.Proofs.Form.Aligned
import QuadOpt.Proofs.Form.Selected
