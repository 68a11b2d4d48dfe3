import CallFlow.Main
import CallFlow.Script.Json
import CallFlow.Proofs.Graph.Compilation
import CallFlow.Proofs.Graph.Conversation
import CallFlow.Proofs.Markup.Entity
import CallFlow.Proofs.Markup.Reader
import CallFlow.Proofs.Markup.RoundTrip
import CallFlow.Proofs.Markup.VerbTree
import CallFlow.Proofs.Url.Characters
import CallFlow.Proofs.Url.Reading
import CallFlow.Proofs.Graph.Attempt
import CallFlow.Proofs.Response.FailSafe
import CallFlow.Proofs.Binary.Delimited
import CallFlow.Proofs.Script.Bytes
import CallFlow.Proofs.Graph.Ending
import CallFlow.Proofs.Graph.Rotation
import CallFlow.Proofs.Graph.Resumption
import CallFlow.Proofs.Response.Replay
import CallFlow.Proofs.Graph.Renaming
import CallFlow.Proofs.Graph.Unvisited
import CallFlow.Proofs.Url.Punycode
import CallFlow.Proofs.Url.Domain
import CallFlow.Proofs.Url.Form
import CallFlow.Proofs.Callback.Gather
import CallFlow.Proofs.Callback.Below
import CallFlow.Proofs.Graph.Mapping
import CallFlow.Proofs.Graph.Order
import CallFlow.Proofs.Response.Sources
import CallFlow.Proofs.Markup.Pretty
import CallFlow.Proofs.Graph.Entry
import CallFlow.Proofs.Json.Ordered
import CallFlow.Proofs.Json.Record
import CallFlow.Proofs.Flow.Stored
import CallFlow.Proofs.Flow.Format
import CallFlow.Proofs.Flow.Reload
import CallFlow.Proofs.Url.Segments
import CallFlow.Proofs.Callback.Endpoint
import CallFlow.Proofs.Text.Trim
import CallFlow.Proofs.Graph.Routes
import CallFlow.Proofs.Callback.Plain
import CallFlow.Proofs.Block.Contribution
import CallFlow.Proofs.Response.Spoken
import CallFlow.Proofs.Binary64.Nearest
import CallFlow.Proofs.Block.Numerals
import CallFlow.Proofs.Block.Counts
import CallFlow.Proofs.Response.Sections
import CallFlow.Proofs.Markup.Caller
import CallFlow.Proofs.Markup.Escaping
import CallFlow.Proofs.Json.Grammar
import CallFlow.Proofs.Json.Written
import CallFlow.Proofs.Json.Filled
import CallFlow.Proofs.Json.Given
import CallFlow.Proofs.Json.Printed
import CallFlow.Proofs.Json.Form
import CallFlow.Proofs.Script.Text
import CallFlow.Proofs.Options.Override
