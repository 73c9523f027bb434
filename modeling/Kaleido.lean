import Kaleido.CommandLine
import Kaleido.Compilation
import Kaleido.Declarations
import Kaleido.Diagnostic
import Kaleido.Diagnostic.Excerpt
import Kaleido.Expr
import Kaleido.FileTree
import Kaleido.Grammar.Declaration
import Kaleido.Grammar.Expression
import Kaleido.Grammar.Program
import Kaleido.Grammar.Progress
import Kaleido.Item
import Kaleido.Main
import Kaleido.Number.Binary64
import Kaleido.Number.Decimal
import Kaleido.Number.Shortest
import Kaleido.Position
import Kaleido.Proofs.Climbing
import Kaleido.Proofs.Lexemes
import Kaleido.Proofs.Reading
import Kaleido.Prototype
import Kaleido.Reply
import Kaleido.Resolution
import Kaleido.Resolver
import Kaleido.Scope
import Kaleido.Scope.Script
import Kaleido.Session
import Kaleido.Table
import Kaleido.Text
import Kaleido.Token
import Kaleido.Token.Cursor
import Kaleido.Token.Pattern
import Kaleido.Proofs.Prototypes
import Kaleido.Proofs.OperatorTable
import Kaleido.Proofs.Derivation
import Kaleido.Proofs.WellFormed
import Kaleido.Proofs.Outcomes
import Kaleido.Proofs.OperatorCalls
import Kaleido.Proofs.LexicalScoping
import Kaleido.Proofs.Extent
import Kaleido.Proofs.Termination
import Kaleido.Proofs.Recovery
import Kaleido.Proofs.Numerals
import Kaleido.Proofs.Scanning
import Kaleido.Proofs.Spelling
import Kaleido.Proofs.RoundTrip
import Kaleido.Proofs.Comparison
import Kaleido.Proofs.Containment
import Kaleido.Proofs.Registration
import Kaleido.Proofs.Stability
import Kaleido.Proofs.Positions
import Kaleido.Proofs.SourceOrder
import Kaleido.Proofs.Rescanning
import Kaleido.Proofs.Layout
import Kaleido.Proofs.Lines
import Kaleido.Proofs.Headlines
import Kaleido.Proofs.Excerpts
import Kaleido.Proofs.Forms
import Kaleido.Proofs.Bodies
import Kaleido.Proofs.FreeNames
import Kaleido.Proofs.PrototypeGrammar
import Kaleido.Proofs.Readability
import Kaleido.Proofs.FirstDeclarations
import Kaleido.Proofs.Recounting
import Kaleido.Proofs.Restoration
import Kaleido.Proofs.Neutrality
