import TraceIdentity.IdSource.Counting
import TraceIdentity.IdSource.Scrambled
import TraceIdentity.Component.Departure
import TraceIdentity.Component.Hosting
import TraceIdentity.Record.Format
import TraceIdentity.Proofs.Ids.Canonical
import TraceIdentity.Proofs.SpanContext.Traceparent
import TraceIdentity.Proofs.Headers.TraceContext
import TraceIdentity.Proofs.Component.Chain
import TraceIdentity.Proofs.Component.LegacyRoot
import TraceIdentity.Proofs.Component.Identity
import TraceIdentity.Proofs.Component.Separation
import TraceIdentity.Proofs.Component.TwoHeaders
import TraceIdentity.Proofs.Component.Pieces
import TraceIdentity.Proofs.Component.Reuse
import TraceIdentity.Proofs.Host.OpenScopes
import TraceIdentity.Proofs.Host.Isolation
import TraceIdentity.Proofs.Program.Ending
import TraceIdentity.Proofs.Program.Bookkeeping
import TraceIdentity.Proofs.Program.Conservation
import TraceIdentity.Proofs.AppId
import TraceIdentity.Proofs.SpanContext.Grammar
import TraceIdentity.Proofs.Component.Introduction
import TraceIdentity.Proofs.Component.OwnIds
import TraceIdentity.Proofs.Program.Nesting
import TraceIdentity.Proofs.Program.Requests
import TraceIdentity.Proofs.TraceState.Members
import TraceIdentity.Proofs.Component.LastValue
import TraceIdentity.Proofs.Component.Coherence
import TraceIdentity.Proofs.Component.Respelling
import TraceIdentity.Proofs.Component.Recasing
import TraceIdentity.Proofs.Component.Answering
import TraceIdentity.Proofs.Record.Order
import TraceIdentity.Proofs.Record.Repeated
import TraceIdentity.Proofs.Record.Format
import TraceIdentity.Proofs.Component.Naming
