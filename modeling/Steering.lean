import Steering.Shell.Tab
import Steering.Grammar.Outline
import Steering.Grammar.Validity
import Steering.Program.Basic
import Steering.Main
import Steering.Proofs.Dict
import Steering.Proofs.Disk
import Steering.Proofs.Suggestion
import Steering.Proofs.Text.Pieces
import Steering.Proofs.Instant
import Steering.Proofs.Line.Words
import Steering.Proofs.Line.Start
import Steering.Proofs.Line.Continuation
import Steering.Proofs.Grammar.Faults
import Steering.Proofs.Grammar.Tree
import Steering.Proofs.Grammar.Walk
import Steering.Proofs.Grammar.Reading
import Steering.Proofs.Grammar.Prefix
import Steering.Proofs.Grammar.Completion
import Steering.Proofs.Grammar.Commands
import Steering.Proofs.Grammar.Defects
import Steering.Proofs.Grammar.Origin
import Steering.Proofs.Json.Bytes
import Steering.Proofs.Json.Scan
import Steering.Proofs.Json.RoundTrip
import Steering.Proofs.Json.Record
import Steering.Proofs.Traffic.Record
import Steering.Proofs.Store.Document
import Steering.Proofs.Store.Workspace
import Steering.Proofs.Store.Orderly
import Steering.Proofs.Store.Catalog
import Steering.Proofs.Store.Plan
import Steering.Proofs.Store.Namesake
import Steering.Proofs.Store.Format
import Steering.Proofs.Store.Reopen
import Steering.Proofs.Shell.Console
import Steering.Proofs.Shell.Effect
import Steering.Proofs.Shell.Atomic
import Steering.Proofs.Shell.Restart
import Steering.Proofs.Store.Run
import Steering.Proofs.Store.Durable
import Steering.Proofs.Grammar.Offer
import Steering.Proofs.Shell.Tab
import Steering.Proofs.Shell.Change
import Steering.Proofs.Shell.Interleaving
import Steering.Proofs.Shell.Watch
import Steering.Proofs.Shell.Platform
import Steering.Proofs.Shell.Address
import Steering.Proofs.Shell.Sweep
import Steering.Proofs.Shell.Table
