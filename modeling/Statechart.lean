import Statechart.Engine.InputDriven
import Statechart.Engine.Scripted
import Statechart.Session.Request
import Statechart.Proofs.Machine.Advance
import Statechart.Proofs.Machine.Containment
import Statechart.Proofs.Session.Effect
import Statechart.Proofs.Session.Lifecycle
import Statechart.Proofs.Declaration.Checklist
import Statechart.Proofs.Declaration.Outline
import Statechart.Proofs.Declaration.Deciding
import Statechart.Proofs.Machine.Unlinked
import Statechart.Proofs.Declaration.Draft
import Statechart.Proofs.Declaration.Following
import Statechart.Proofs.Declaration.Linking
import Statechart.Proofs.Declaration.Acceptance
import Statechart.Proofs.Machine.Depth
import Statechart.Proofs.Machine.Adjacency
import Statechart.Proofs.Machine.Subtree
import Statechart.Proofs.Identifier
import Statechart.Proofs.Machine.Identity
import Statechart.Proofs.Record.Check
import Statechart.Proofs.Record.Rendering
import Statechart.Proofs.Declaration.Usability
import Statechart.Proofs.Declaration.Image
import Statechart.Proofs.Session.Parsing
import Statechart.Proofs.Machine.Numbering
import Statechart.Proofs.Record.Showing
import Statechart.Proofs.Record.Faithful
import Statechart.Proofs.Record.Recovery
import Statechart.Proofs.Declaration.Leftover
import Statechart.Proofs.Session.Minting
import Statechart.Proofs.Session.Scope
import Statechart.Proofs.Json.Reading
import Statechart.Proofs.Json.Codec
import Statechart.Proofs.Json.Structure
import Statechart.Proofs.Location
import Statechart.Proofs.Json.Nesting
import Statechart.Proofs.Record.Codec
import Statechart.Proofs.Declaration.Codec
import Statechart.Proofs.Protocol.RoundTrip
import Statechart.Proofs.Machine.Workshop
import Statechart.Proofs.Session.Response
import Statechart.Proofs.Session.Reporting
import Statechart.Proofs.Record.Spelling
import Statechart.Proofs.Session.Switches
import Statechart.Proofs.Session.Independence
import Statechart.Proofs.Session.Completion
import Statechart.Proofs.Record.Refusal
import Statechart.Proofs.Json.Untagged
import Statechart.Proofs.Json.Yield
import Statechart.Proofs.Record.Reading
import Statechart.Proofs.Protocol.Normalization
import Statechart.Proofs.Record.Excerpt
import Statechart.Proofs.Machine.Descent
import Statechart.Proofs.Record.Verdict
import Statechart.Proofs.Machine.Editing
import Statechart.Proofs.Machine.Rejection
import Statechart.Proofs.Machine.Handle
import Statechart.Proofs.Session.Consultation
import Statechart.Proofs.Record.Nesting
import Statechart.Proofs.Protocol.Capacity
import Statechart.Proofs.Machine.Renaming
import Statechart.Proofs.Declaration.Renaming
import Statechart.Proofs.Record.Renaming
import Statechart.Proofs.Session.Renumbering
import Statechart.Proofs.Loop
import Statechart.Proofs.Machine.Ascent
import Statechart.Proofs.Record.Visiting
import Statechart.Proofs.Text.Bytes
import Statechart.Proofs.Record.Occurrence
