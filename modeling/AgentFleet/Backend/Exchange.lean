import AgentFleet.Address.Reader
import AgentFleet.Backend.Call
import AgentFleet.Wire.Executions
import AgentFleet.Wire.Heartbeats

/-!
Calls of the backend as exchanges over HTTP: the request that makes a call, and the result that a
reply to it brings.
-/

namespace AgentFleet.Backend

/-- A request to the backend; one with a body posts it as JSON. -/
structure Request where
  address : Address
  body : Option Json

structure Reply where
  status : Nat
  body : ByteArray

def path : BackendCall → String
  | .initConfig _ => "/internal/agents/get-init-config"
  | .nextBatch _ => "/internal/agents/get-next-run-config"
  | .reportState _ _ _ => "/internal/agents/update-status"
  | .resultsSaved _ => "/internal/test-executions/are-results-saved"
  | .failTests _ => "/internal/test-executions/mark-as-failed"
  | .agentStatuses _ => "/internal/agents/statuses"
  | .reportExecution _ _ _ => "/internal/executions/update-status"
  | .addAgents _ _ => "/internal/agents/insert"

def pairs : BackendCall → List (String × String)
  | .initConfig c => [("containerId", c)]
  | .nextBatch c => [("containerId", c)]
  | .resultsSaved c => [("containerId", c)]
  | .agentStatuses e => [("executionId", e)]
  | _ => []

/-- What a call posts; a call without a body only gets something. -/
def body? : BackendCall → Option Json
  | .reportState c state time =>
    some (.object [("containerId", .string c), ("state", state.toJson), ("time", time.toJson)])
  | .failTests cs => some (.strings cs)
  | .reportExecution e status reason =>
    some (.object ([("executionId", .string e), ("status", status.toJson)] ++ match reason with
      | some reason => [("reason", .string reason)]
      | none => []))
  | .addAgents e cs => some (.object [("executionId", .string e), ("containerIds", .strings cs)])
  | _ => none

def backendFault (detail : String) : Fault := ⟨.backend, detail⟩

def longestAddress : Nat := 65534

/-- Characters that a host may have been given with, but that no request can name. -/
def isUnaskable (c : Char) : Bool := ['"', '`', '\x7b', '\x7d'].contains c

def canBeAsked (a : Address) : Bool :=
  (a.scheme = "http" || a.scheme = "https") && !(a.lead.any isUnaskable)
    && decide (a.text.length ≤ longestAddress)

def endpoint (base : String) (call : BackendCall) : Except Fault Address :=
  match Address.ofText (trimSlashes base ++ path call) with
  | .error e =>
    .error (backendFault ("invalid backend url for " ++ path call ++ ": " ++ e.message))
  | .ok address => .ok (address.withPairs (pairs call))

/-- The request of a call, for a backend at `base`. The user's name and password are no part of the
address that is asked. -/
def request (base : String) (call : BackendCall) : Except Fault Request := do
  let asked := (← endpoint base call).withoutUser
  if canBeAsked asked then return ⟨asked, body? call⟩
  else throw (backendFault ("builder error for url (" ++ asked.text ++ ")"))

/-! ### Replies -/

def reasonPhrase? : Nat → Option String
  | 100 => some "Continue"
  | 101 => some "Switching Protocols"
  | 102 => some "Processing"
  | 103 => some "Early Hints"
  | 200 => some "OK"
  | 201 => some "Created"
  | 202 => some "Accepted"
  | 203 => some "Non Authoritative Information"
  | 204 => some "No Content"
  | 205 => some "Reset Content"
  | 206 => some "Partial Content"
  | 207 => some "Multi-Status"
  | 208 => some "Already Reported"
  | 226 => some "IM Used"
  | 300 => some "Multiple Choices"
  | 301 => some "Moved Permanently"
  | 302 => some "Found"
  | 303 => some "See Other"
  | 304 => some "Not Modified"
  | 305 => some "Use Proxy"
  | 307 => some "Temporary Redirect"
  | 308 => some "Permanent Redirect"
  | 400 => some "Bad Request"
  | 401 => some "Unauthorized"
  | 402 => some "Payment Required"
  | 403 => some "Forbidden"
  | 404 => some "Not Found"
  | 405 => some "Method Not Allowed"
  | 406 => some "Not Acceptable"
  | 407 => some "Proxy Authentication Required"
  | 408 => some "Request Timeout"
  | 409 => some "Conflict"
  | 410 => some "Gone"
  | 411 => some "Length Required"
  | 412 => some "Precondition Failed"
  | 413 => some "Payload Too Large"
  | 414 => some "URI Too Long"
  | 415 => some "Unsupported Media Type"
  | 416 => some "Range Not Satisfiable"
  | 417 => some "Expectation Failed"
  | 418 => some "I'm a teapot"
  | 421 => some "Misdirected Request"
  | 422 => some "Unprocessable Entity"
  | 423 => some "Locked"
  | 424 => some "Failed Dependency"
  | 425 => some "Too Early"
  | 426 => some "Upgrade Required"
  | 428 => some "Precondition Required"
  | 429 => some "Too Many Requests"
  | 431 => some "Request Header Fields Too Large"
  | 451 => some "Unavailable For Legal Reasons"
  | 500 => some "Internal Server Error"
  | 501 => some "Not Implemented"
  | 502 => some "Bad Gateway"
  | 503 => some "Service Unavailable"
  | 504 => some "Gateway Timeout"
  | 505 => some "HTTP Version Not Supported"
  | 506 => some "Variant Also Negotiates"
  | 507 => some "Insufficient Storage"
  | 508 => some "Loop Detected"
  | 510 => some "Not Extended"
  | 511 => some "Network Authentication Required"
  | _ => none

def statusText (status : Nat) : String :=
  toString status ++ " " ++ (reasonPhrase? status).getD "<unknown status code>"

def isSuccess (status : Nat) : Bool := 200 ≤ status && status < 300

def failure (address : Address) (reply : Reply) : Fault :=
  backendFault (String.ofList address.pathText ++ " returned " ++ statusText reply.status ++ ": "
    ++ Text.trim (Text.Utf8.lossy reply.body))

def unanswered (address : Address) : Fault :=
  backendFault ("error sending request for url (" ++ address.text ++ ")")

def readBody {α : Type} (decoder : Json.Decoder α) (address : Address) (reply : Reply) :
    Except Fault α :=
  match decoder.decodeBytes reply.body with
  | .ok a => .ok a
  | .error _ => .error (backendFault
      ("error decoding response body for url (" ++ address.text ++ ")"))

/-- The result of a call whose success brings a body. -/
def required {α : Type} (decoder : Json.Decoder α) (address : Address) (reply : Reply) :
    Except Fault α :=
  if isSuccess reply.status then readBody decoder address reply
  else .error (failure address reply)

/-- The result of a call that may find nothing. -/
def optional (address : Address) (reply : Reply) : Except Fault (Option Json) :=
  if reply.status = 204 ∨ reply.status = 404 then .ok none
  else some <$> required Json.Decoder.any address reply

/-- The result of a call whose success brings nothing. -/
def accepted (address : Address) (reply : Reply) : Except Fault Unit :=
  if isSuccess reply.status then .ok () else .error (failure address reply)

def result (address : Address) (reply : Reply) : (call : BackendCall) → call.Answer
  | .initConfig _ => optional address reply
  | .nextBatch _ => optional address reply
  | .reportState _ _ _ => accepted address reply
  | .resultsSaved _ => required Json.Decoder.bool address reply
  | .failTests _ => accepted address reply
  | .agentStatuses _ => required (Json.Decoder.list AgentStatus.decoder) address reply
  | .reportExecution _ _ _ => accepted address reply
  | .addAgents _ _ => accepted address reply

/-- Makes a call; `exchange` sends the request and brings the reply, if there is one. -/
def perform {m : Type → Type} [Monad m] (base : String) (exchange : Request → m (Option Reply))
    (call : BackendCall) : m call.Answer :=
  match request base call with
  | .error f => pure (.error f)
  | .ok r => do
    match ← exchange r with
    | some reply => return result r.address reply call
    | none => return .error (unanswered r.address)

end AgentFleet.Backend
