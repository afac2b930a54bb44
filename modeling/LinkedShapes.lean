import LinkedShapes.Description.Operations
import LinkedShapes.Graph.Isomorphism
import LinkedShapes.Query.Parser
import LinkedShapes.Term.Json
import LinkedShapes.Proofs.Graph.Store
import LinkedShapes.Proofs.Alias
import LinkedShapes.Proofs.Alias.Table
import LinkedShapes.Proofs.Description.Legible
import LinkedShapes.Proofs.Description.Literals
import LinkedShapes.Proofs.Description.Visits
import LinkedShapes.Proofs.Description.Simulation
import LinkedShapes.Proofs.Description.Focus
import LinkedShapes.Proofs.Description.Resources
import LinkedShapes.Proofs.Description.Scanning
import LinkedShapes.Proofs.Graph.Isomorphism
import LinkedShapes.Proofs.Description.RoundTrip
import LinkedShapes.Proofs.Trace
import LinkedShapes.Proofs.Check
import LinkedShapes.Proofs.Description.Terms
import LinkedShapes.Proofs.Description.Verdicts
import LinkedShapes.Proofs.Description.Runs
import LinkedShapes.Proofs.Description.Places
import LinkedShapes.Proofs.Description.Comparison
import LinkedShapes.Proofs.Description.Agreement
import LinkedShapes.Proofs.Shape.Normal
import LinkedShapes.Proofs.Shape.Redaction
import LinkedShapes.Proofs.Description.Outcomes
import LinkedShapes.Proofs.Shape.Driver
import LinkedShapes.Proofs.Shape.Cache
import LinkedShapes.Proofs.Text.Percent
import LinkedShapes.Proofs.Json.Parser
import LinkedShapes.Proofs.Query.Filtering
import LinkedShapes.Proofs.Query.Defects
import LinkedShapes.Proofs.Query.Encodings
import LinkedShapes.Proofs.Query.Path
import LinkedShapes.Proofs.Description.Sufficiency
import LinkedShapes.Proofs.Description.Inference
import LinkedShapes.Proofs.Description.Consistency
import LinkedShapes.Proofs.Description.Defects
import LinkedShapes.Proofs.Description.MemberOrder
import LinkedShapes.Proofs.Description.Arrays
import LinkedShapes.Proofs.Graph.Matching
import LinkedShapes.Proofs.Description.Numbers
import LinkedShapes.Proofs.Description.Backreferences
import LinkedShapes.Proofs.Description.Reach
import LinkedShapes.Proofs.Alias.Order
import LinkedShapes.Proofs.Description.Probes
import LinkedShapes.Proofs.Description.Languages
import LinkedShapes.Proofs.Iri.Relative
import LinkedShapes.Proofs.Alias.Expansion
import LinkedShapes.Proofs.Shape.Closure
import LinkedShapes.Proofs.Shape.Bounds
import LinkedShapes.Proofs.Description.Kinds
import LinkedShapes.Proofs.Description.Connected
import LinkedShapes.Proofs.Term.Comparison
import LinkedShapes.Proofs.Query.Links
import LinkedShapes.Proofs.Pattern.Whole
import LinkedShapes.Proofs.Trace.Laws
import LinkedShapes.Proofs.Shape.Laws
import LinkedShapes.Proofs.Query.Grammar
import LinkedShapes.Proofs.Description.Context
import LinkedShapes.Proofs.Text.Words
