import StyledMap.Main
import StyledMap.Sample
import StyledMap.Proofs.Double.Order
import StyledMap.Proofs.Reading
import StyledMap.Proofs.Selector.Meaning
import StyledMap.Proofs.Selector.Membership
import StyledMap.Proofs.Declaration.Grammar
import StyledMap.Proofs.Declaration.PlainStops
import StyledMap.Proofs.Document
import StyledMap.Proofs.Link.Flight
import StyledMap.Proofs.Link.Load
import StyledMap.Proofs.Layer.Inheritance
import StyledMap.Proofs.RoundTrip
import StyledMap.Proofs.Link.Provider
import StyledMap.Proofs.Link.Stability
import StyledMap.Proofs.Link.Requests
import StyledMap.Proofs.Merging
import StyledMap.Proofs.Link.Token
import StyledMap.Proofs.Link.Reload
import StyledMap.Proofs.Style
import StyledMap.Proofs.Link.Strict
import StyledMap.Proofs.Link.Compile
import StyledMap.Proofs.Canonical
import StyledMap.Proofs.Layer.Acceptance
import StyledMap.Proofs.Report
import StyledMap.Proofs.Evaluator.Colors
import StyledMap.Proofs.Selector.Keys
import StyledMap.Proofs.Exact
import StyledMap.Proofs.Color.Channels
import StyledMap.Proofs.Evaluator.Fallback
import StyledMap.Proofs.Selector.Grammar
import StyledMap.Proofs.Declaration.Notations
import StyledMap.Proofs.Declaration.Acceptance
import StyledMap.Proofs.Evaluator.ZoomStops
import StyledMap.Proofs.Merging.Runs
import StyledMap.Proofs.Shape
import StyledMap.Proofs.Settings
import StyledMap.Proofs.Evaluator.Categories
import StyledMap.Proofs.Evaluator.Steps
import StyledMap.Proofs.Scale
import StyledMap.Proofs.Interpolator.Brackets
import StyledMap.Proofs.Interpolator.Monotone
import StyledMap.Proofs.Decimal
import StyledMap.Proofs.Double.Nearest
import StyledMap.Proofs.Words
import StyledMap.Proofs.Color.Written
import StyledMap.Proofs.Color.Spellings
import StyledMap.Proofs.Double.Arithmetic
import StyledMap.Proofs.Double.Special
import StyledMap.Proofs.Double.Powers
import StyledMap.Proofs.Interpolator.Doubles
import StyledMap.Proofs.Evaluator.Numbers
