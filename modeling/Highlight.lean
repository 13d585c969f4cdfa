import Highlight.Main
import Highlight.Token.Expectation
import Highlight.Proofs.Expansion
import Highlight.Proofs.Lookahead
import Highlight.Proofs.PlainMachine
import Highlight.Proofs.Coverage
import Highlight.Proofs.EmptyMatch
import Highlight.Proofs.Termination
import Highlight.Proofs.Stalls
import Highlight.Proofs.References
import Highlight.Proofs.Validation
import Highlight.Proofs.Bounds
import Highlight.Proofs.Scopes
import Highlight.Proofs.Captures
import Highlight.Proofs.Lockstep
import Highlight.Proofs.Alike
import Highlight.Proofs.Correspondence
import Highlight.Proofs.Renaming
import Highlight.Proofs.Inlining
import Highlight.Proofs.ScopeNames
import Highlight.Proofs.Boundaries
import Highlight.Proofs.ReadBack
import Highlight.Proofs.Members
import Highlight.Proofs.RoundTrip
import Highlight.Proofs.MarkReuse
import Highlight.Proofs.Childless
import Highlight.Proofs.Histories
import Highlight.Proofs.Overrides
import Highlight.Proofs.BuildOrder
import Highlight.Proofs.StreamChecks
import Highlight.Proofs.AuthoredKeys
import Highlight.Proofs.WrittenJson
import Highlight.Proofs.ReportLines
import Highlight.Proofs.NavigationOrder
import Highlight.Proofs.Selectors
