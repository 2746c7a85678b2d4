import StyleChain.Builder.Basic
import StyleChain.Builder.Order
import StyleChain.Builder.Run
import StyleChain.Chain.Basic
import StyleChain.Chain.Dispatch
import StyleChain.Chain.Primitive
import StyleChain.Compare.Mismatch
import StyleChain.Compare.Policy
import StyleChain.Decimal.Shortest
import StyleChain.Decimal.Text
import StyleChain.Geometry.Dp
import StyleChain.Geometry.Extent
import StyleChain.Geometry.Shape
import StyleChain.Handle.Handler
import StyleChain.Handle.Source
import StyleChain.Log.Entry
import StyleChain.Log.Writing
import StyleChain.Loose.BaseType
import StyleChain.Loose.Basic
import StyleChain.Loose.Distance
import StyleChain.Number.Binary
import StyleChain.Number.Format
import StyleChain.Number.Rounding
import StyleChain.Op.Basic
import StyleChain.Op.Kind
import StyleChain.Paint.Brush
import StyleChain.Paint.Color
import StyleChain.Paint.Stroke
import StyleChain.Proofs.Builder.History
import StyleChain.Proofs.Compare.FirstMismatch
import StyleChain.Proofs.Compare.SelfComparison
import StyleChain.Proofs.Compare.Settings
import StyleChain.Proofs.Slot.Accepts
import StyleChain.Scope.Basic
import StyleChain.Scope.Methods
import StyleChain.Slot.Assignment
import StyleChain.Slot.Basic
import StyleChain.Slot.OfLoose
import StyleChain.Slot.OfTyped
import StyleChain.Slot.Value
import StyleChain.Text.Record
import StyleChain.Proofs.Builder.Interchange
import StyleChain.Proofs.Builder.Direct
import StyleChain.Proofs.Builder.Ignored
import StyleChain.Proofs.Builder.Interleaving
import StyleChain.Proofs.Builder.Stability
import StyleChain.Proofs.Scope.Coherence
import StyleChain.Proofs.Compare.Congruence
import StyleChain.Proofs.Compare.ValueEquality
import StyleChain.Proofs.Compare.Equivalence
import StyleChain.Proofs.Compare.Leniency
import StyleChain.Proofs.Builder.Routing
import StyleChain.Proofs.Builder.NormalForm
import StyleChain.Proofs.Builder.Renaming
import StyleChain.Proofs.Handle.Conservation
import StyleChain.Proofs.Handle.Renaming
import StyleChain.Proofs.Compare.Layers
import StyleChain.Proofs.Slot.Resolution
import StyleChain.Proofs.Number.Widening
import StyleChain.Proofs.Number.Nearest
import StyleChain.Proofs.Slot.Spelling
import StyleChain.Proofs.Slot.Union
import StyleChain.Proofs.Loose.Wrapping
import StyleChain.Proofs.Log.Reading
import StyleChain.Proofs.Log.Transcript
import StyleChain.Proofs.Handle.Circulation
import StyleChain.Proofs.Handle.SharedLog
import StyleChain.Proofs.Chain.Algebra
import StyleChain.Proofs.Slot.Method
