import LiveEvents.Http.Status
import LiveEvents.Metrics.Text

/-!
# Probes

The service answers probes over HTTP: it is alive while it answers, and ready while its store is
reachable and no shutdown has begun. Metrics are served beside them.
-/

namespace LiveEvents

structure Health where
  accepting : Bool := true
  deriving DecidableEq, Repr

namespace Health

def beginShutdown (_ : Health) : Health :=
  { accepting := false }

def isReady (h : Health) (storeHealthy : Bool) : Bool :=
  h.accepting && storeHealthy

end Health

namespace Http

structure Page where
  status : Status
  body : String
  deriving DecidableEq, Repr

def route (path : String) : String :=
  String.ofList (path.toList.takeWhile (· ≠ '?'))

/-- Serves a page to those who get it; who asks for its head gets no body. -/
def serve (pages : List (String × Page)) (method path : String) : Page :=
  match pages.lookup (route path) with
  | none => ⟨.notFound, ""⟩
  | some page =>
    if method = "GET" then page
    else if method = "HEAD" then { page with body := "" }
    else ⟨.methodNotAllowed, ""⟩

def healthPages (ready : Bool) : List (String × Page) := [
  ("/live", ⟨.ok, "OK"⟩),
  ("/ready", if ready then ⟨.ok, "READY"⟩ else ⟨.serviceUnavailable, "NOT READY"⟩)]

def metricsPages (m : Metrics) : List (String × Page) :=
  [("/metrics", ⟨.ok, m.text⟩)]

end Http

end LiveEvents
