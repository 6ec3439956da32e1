import TaskRunner.Text.Letter
import TaskRunner.Text.Dedent
import TaskRunner.Token.Scan
import TaskRunner.Token.Listing
import TaskRunner.Source
import TaskRunner.Statement.Layout
import TaskRunner.Statement.Select
import TaskRunner.Statement.Cursor
import TaskRunner.Environment
import TaskRunner.Session
import TaskRunner.Machine
import TaskRunner.Machine.Change
import TaskRunner.CommandLine
import TaskRunner.Main
import TaskRunner.Proofs.CommandLine.Canonical
import TaskRunner.Proofs.Scan.Location
import TaskRunner.Proofs.Tree.Appended
import TaskRunner.Proofs.Scan.Refusal
import TaskRunner.Proofs.Scan.Relayout
import TaskRunner.Proofs.Grammar.Earliest
import TaskRunner.Proofs.Scan.Depth
import TaskRunner.Proofs.Session.Frame
import TaskRunner.Proofs.Session.Reformatted
import TaskRunner.Proofs.Session.Queue
import TaskRunner.Proofs.Session.Chain
import TaskRunner.Proofs.Session.Collected
import TaskRunner.Proofs.Session.Inclusion
import TaskRunner.Proofs.Session.Calls
import TaskRunner.Proofs.Session.Starts
import TaskRunner.Proofs.Cursor.Safety
import TaskRunner.Proofs.Cursor.Input
import TaskRunner.Proofs.Environment.History
import TaskRunner.Proofs.Session.Stages
import TaskRunner.Proofs.Text.Margin
import TaskRunner.Proofs.Session.Chunks
import TaskRunner.Proofs.Session.Failures
import TaskRunner.Proofs.Session.Selection
