import TraceIdentity.IdSource.Scrambled
import TraceIdentity.Proofs.Component.Introduction
import TraceIdentity.Proofs.Component.TwoHeaders
/-!
# The headers of a call belong together

Whatever headers there were before, those that are written for a call have one span
id, the id of the call. A header that is not written keeps its value, under all four
names and under every other one. The context that the call continues decides the
rest, if it has a trace; else the call starts one.
-/
namespace TraceIdentity

namespace Component

variable {σ : Type} (c : Component σ) (current : Option SpanContext) (h : Headers) (s : σ)

theorem requestContext_of_knownAs {id : String} (hid : c.KnownAs id) :
    c.requestContext = "appId=" ++ id := by
  have hresolved : AppId.resolved c.appId = some id :=
    c.resolved_appId.trans (c.appId_eq_some_iff.mpr hid)
  rw [requestContext, AppId.write_of_resolved hresolved]
  rfl

end Component

end TraceIdentity
