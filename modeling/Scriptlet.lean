import Scriptlet.Token.Scan
import Scriptlet.Syntax.Action
import Scriptlet.Dump.Format
import Scriptlet.File.Tree
import Scriptlet.Value.Snapshot
import Scriptlet.Value.FrameStep
import Scriptlet.Runner.Command
import Scriptlet.Main
import Scriptlet.Proofs.Syntax.Acceptance
import Scriptlet.Proofs.Syntax.FirstOffence
import Scriptlet.Proofs.Syntax.Reparse
import Scriptlet.Proofs.Evaluation.Calls
import Scriptlet.Proofs.Text.Language
import Scriptlet.Proofs.Token.Longest
import Scriptlet.Proofs.Token.Lexemes
import Scriptlet.Proofs.Text.LineTable
import Scriptlet.Proofs.Token.Positions
import Scriptlet.Proofs.Syntax.Nesting
import Scriptlet.Proofs.Syntax.Placement
import Scriptlet.Proofs.Syntax.Progress
import Scriptlet.Proofs.Token.DataText
import Scriptlet.Proofs.Syntax.DataTree
import Scriptlet.Proofs.Evaluation.ReadBack
import Scriptlet.Proofs.Runner.Sequel
import Scriptlet.Proofs.Token.Boundaries
import Scriptlet.Proofs.Runner.Debugging
import Scriptlet.Proofs.Runner.Session
import Scriptlet.Proofs.Runner.Reports
import Scriptlet.Proofs.Token.StringUnits
import Scriptlet.Proofs.Value.Equality
import Scriptlet.Proofs.Evaluation.InlineCall
import Scriptlet.Proofs.Dump.Faithful
import Scriptlet.Proofs.Source.Merging
import Scriptlet.Proofs.Value.Slots
import Scriptlet.Proofs.Evaluation.Activities
import Scriptlet.Proofs.Evaluation.Provenance
import Scriptlet.Proofs.Syntax.Termination
