import SchemaGraph.Json.Reader
import SchemaGraph.Main
import SchemaGraph.Proofs.Ancestry
import SchemaGraph.Proofs.Anchors
import SchemaGraph.Proofs.Binding
import SchemaGraph.Proofs.Bounds
import SchemaGraph.Proofs.Casing
import SchemaGraph.Proofs.Fields
import SchemaGraph.Proofs.Growth
import SchemaGraph.Proofs.Inherited
import SchemaGraph.Proofs.KeyOrder
import SchemaGraph.Proofs.Layers
import SchemaGraph.Proofs.Limit
import SchemaGraph.Proofs.Lookup
import SchemaGraph.Proofs.Naming
import SchemaGraph.Proofs.Nearest
import SchemaGraph.Proofs.Nesting
import SchemaGraph.Proofs.Parameters
import SchemaGraph.Proofs.ReadBack
import SchemaGraph.Proofs.References
import SchemaGraph.Proofs.Required
import SchemaGraph.Proofs.Roster
import SchemaGraph.Proofs.SchemaText
import SchemaGraph.Proofs.Signed
import SchemaGraph.Proofs.Spelling
import SchemaGraph.Proofs.Stacking
import SchemaGraph.Proofs.Unfolding
import SchemaGraph.Proofs.Union
import SchemaGraph.Proofs.Wrapping
import SchemaGraph.TypeExpr.Order
