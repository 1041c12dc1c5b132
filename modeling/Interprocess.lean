import Interprocess.Session.Dispatching
import Interprocess.Session.Messages
import Interprocess.Session.Transfer
import Interprocess.Proofs.Channel.Traffic
import Interprocess.Proofs.Call.Harmony
import Interprocess.Proofs.Call.Reentry
import Interprocess.Proofs.Call.Races
import Interprocess.Proofs.Message.Scan
import Interprocess.Proofs.Message.Grammar
import Interprocess.Proofs.Stream.Parsing
import Interprocess.Proofs.Stream.Reassembly
import Interprocess.Proofs.Message.Fields
import Interprocess.Proofs.Message.Reading
import Interprocess.Proofs.Message.Places
import Interprocess.Proofs.Message.Cursor
import Interprocess.Proofs.Channel.Passage
import Interprocess.Proofs.Message.Logs
import Interprocess.Proofs.Message.Rewriting
import Interprocess.Proofs.Custody.Holdings
import Interprocess.Proofs.Custody.Operations
import Interprocess.Proofs.Custody.Channels
import Interprocess.Proofs.Custody.Estate
import Interprocess.Proofs.Custody.Ownership
import Interprocess.Proofs.Dispatch.Precedence
import Interprocess.Proofs.Message.Sizes
import Interprocess.Proofs.Message.Counted
import Interprocess.Proofs.Channel.Numbering
import Interprocess.Proofs.Call.Completion
import Interprocess.Proofs.Call.Numbers
import Interprocess.Proofs.Channel.Ending
import Interprocess.Proofs.Channel.Sending
import Interprocess.Proofs.Shutdown.Threaded
import Interprocess.Proofs.Flags.Senders
import Interprocess.Proofs.Call.Refusals
import Interprocess.Proofs.Custody.Ledger
import Interprocess.Proofs.Custody.Rows
import Interprocess.Proofs.Custody.Indexed
import Interprocess.Proofs.Custody.Limits
import Interprocess.Proofs.Custody.Objections
import Interprocess.Proofs.Header.Fields
import Interprocess.Proofs.Stream.Accounting
import Interprocess.Proofs.Shutdown.Processes
import Interprocess.Proofs.Dispatch.Registrations
import Interprocess.Proofs.Shutdown.Draining
import Interprocess.Proofs.Channel.Chunking
