import Toolbench.Main
import Toolbench.Session
import Toolbench.Settings.Sources
import Toolbench.Stock.Readers
import Toolbench.Proofs.Sources
import Toolbench.Proofs.Catalog
import Toolbench.Proofs.Declaration
import Toolbench.Proofs.History
import Toolbench.Proofs.Chronicle
import Toolbench.Proofs.Reading
import Toolbench.Proofs.Sequence
import Toolbench.Proofs.Run
import Toolbench.Proofs.Value
import Toolbench.Proofs.Classification
import Toolbench.Proofs.Escape
import Toolbench.Proofs.Modes
import Toolbench.Proofs.Numeral
import Toolbench.Proofs.Standard
import Toolbench.Proofs.Fallbacks
import Toolbench.Proofs.Delivery
import Toolbench.Proofs.Stages
import Toolbench.Proofs.Views
import Toolbench.Proofs.Trail
import Toolbench.Proofs.ReadBack
import Toolbench.Proofs.Forwarding
import Toolbench.Proofs.Alterations
import Toolbench.Proofs.Apart
import Toolbench.Proofs.Idle
import Toolbench.Proofs.Likeness
import Toolbench.Proofs.Parallel
import Toolbench.Proofs.Remarks
import Toolbench.Proofs.Export
import Toolbench.Proofs.Overlooked
import Toolbench.Proofs.Coercion
import Toolbench.Proofs.Wording
import Toolbench.Proofs.Cancellation
import Toolbench.Proofs.Grammar
import Toolbench.Proofs.Normalisation
import Toolbench.Proofs.Rounding
import Toolbench.Proofs.Decimal
import Toolbench.Proofs.Layout
import Toolbench.Proofs.Shortest
import Toolbench.Proofs.RoundTrip
import Toolbench.Proofs.Defaulting
import Toolbench.Proofs.Sameness
import Toolbench.Proofs.WholeNumerals
import Toolbench.Proofs.Commuting
import Toolbench.Proofs.Delimiters
import Toolbench.Proofs.Words
import Toolbench.Proofs.Recognition
import Toolbench.Proofs.Description
import Toolbench.Proofs.Demonstration
import Toolbench.Proofs.Quotation
