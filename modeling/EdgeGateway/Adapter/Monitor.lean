import EdgeGateway.Adapter.Publish
import EdgeGateway.Metrics.Basic

/-!
# Subscription monitoring

The source of a subscription reports that it is alive or that its session is lost. Both are
counted; after a loss the subscription is to be recreated.
-/

namespace EdgeGateway

inductive SourceReport where
  | keepAlive (subscription : FieldSubscription)
  | transferFailed (subscription : FieldSubscription)
  deriving DecidableEq, Repr

namespace SourceReport

def counter : SourceReport → AdapterCounter
  | .keepAlive _ => .keepAlives
  | .transferFailed _ => .transfersFailed

def recreated : SourceReport → Option FieldSubscription
  | .keepAlive _ => none
  | .transferFailed s => some s

end SourceReport

def Metrics.report (m : Metrics) (adapter : String) (r : SourceReport) : Metrics :=
  m.countAdapter adapter r.counter

end EdgeGateway
