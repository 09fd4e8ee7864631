import LiveEvents.Http.Status
import LiveEvents.Json.Reader
import LiveEvents.Retry
import LiveEvents.Text.Utf8
import LiveEvents.Tick

/-!
# Fetching a document

A document is requested and its response is read as JSON. What can go wrong is sorted by
whether another attempt could succeed: a client error and an unusable value never do, except
that too many requests may pass.
-/

namespace LiveEvents.Http

structure Request where
  url : String
  headers : List (String × String)
  deriving DecidableEq, Repr

namespace Request

def get (url : String) (headers : List (String × String)) : Request :=
  ⟨url, ("accept", "application/json") :: headers⟩

end Request

structure Response where
  status : Status
  body : List UInt8
  deriving DecidableEq, Repr

inductive FetchError where
  /-- No response came. -/
  | transport (cause : String)
  | status (status : Status) (body : String)
  | decode
  | missingField (name : String)
  | invalidValue (cause : TickError)
  deriving DecidableEq, Repr

namespace FetchError

def message : FetchError → String
  | transport cause => "request failed: " ++ cause
  | status s body => "HTTP " ++ s.text ++ ": " ++ body
  | decode => "invalid response body"
  | missingField name => "response has empty " ++ name
  | invalidValue cause => cause.message

instance : Retryable FetchError where
  isRetryable
    | status s _ => !s.isClientError || s == .tooManyRequests
    | transport _ | decode | missingField _ => true
    | invalidValue _ => false

end FetchError

def errorBodyLimit : Nat := 512

def errorBody (body : String) : String :=
  Text.Utf8.cut errorBodyLimit body

namespace Response

/-- The body of a response as a text, whatever its bytes are. -/
def text (r : Response) : String :=
  String.ofList (Text.Utf8.lossy r.body)

def document (r : Response) : Except FetchError Json.Node :=
  if r.status.isSuccess then
    match Json.Node.ofSegments? (Text.Utf8.segments r.body) with
    | some node => .ok node
    | none => .error .decode
  else .error (.status r.status (errorBody r.text))

def read (decode : Json.Node → Option α) (r : Response) : Except FetchError α := do
  match decode (← r.document) with
  | some a => return a
  | none => throw .decode

end Response

def receive (decode : Json.Node → Option α) : Except String Response → Except FetchError α
  | .ok response => response.read decode
  | .error cause => .error (.transport cause)

end LiveEvents.Http
