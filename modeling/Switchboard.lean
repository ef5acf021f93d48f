import Switchboard.Main
import Switchboard.Scripted
import Switchboard.Proofs.Ordered
import Switchboard.Proofs.Options.Merge
import Switchboard.Proofs.Json.Text
import Switchboard.Proofs.Options.Objects
import Switchboard.Proofs.Options.Sync
import Switchboard.Proofs.Options.Commands
import Switchboard.Proofs.Registry.Insertion
import Switchboard.Proofs.Registry.Operation
import Switchboard.Proofs.Registry.Journal
import Switchboard.Proofs.Registry.Replay
import Switchboard.Proofs.Registry.Generations
import Switchboard.Proofs.Registry.Ownership
import Switchboard.Proofs.Registry.Joining
import Switchboard.Proofs.Registry.Refusal
import Switchboard.Proofs.Negotiation.Advertisement
import Switchboard.Proofs.Negotiation.Commands
import Switchboard.Proofs.Negotiation.Served
import Switchboard.Proofs.Client.Declaration
import Switchboard.Proofs.Client.Typed
import Switchboard.Proofs.Negotiation.Channels
import Switchboard.Proofs.Negotiation.Independence
import Switchboard.Proofs.Negotiation.Repeats
import Switchboard.Proofs.Negotiation.Names
import Switchboard.Proofs.Negotiation.SyncKinds
import Switchboard.Proofs.Negotiation.Scopes
import Switchboard.Proofs.Negotiation.Order
import Switchboard.Proofs.Sync.Continuity
import Switchboard.Proofs.Server.Welcome
import Switchboard.Proofs.Server.Commands
import Switchboard.Proofs.Loop.Calls
import Switchboard.Proofs.Loop.Lifecycle
import Switchboard.Proofs.Loop.Delivery
import Switchboard.Proofs.Sync.History
import Switchboard.Proofs.Text.Lines
import Switchboard.Proofs.Text.Bytes
import Switchboard.Proofs.Uri.Escapes
import Switchboard.Proofs.Uri.Files
import Switchboard.Proofs.Document.Protocol
import Switchboard.Proofs.Document.Edits
import Switchboard.Proofs.Document.Positions
