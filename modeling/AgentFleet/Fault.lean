/-!
Faults: why an operation of the service failed. The kind says where the cause lies; the detail is
for people.
-/

namespace AgentFleet

inductive FaultKind where
  /-- The configuration, or a request that cannot be served. -/
  | config
  /-- The backend, or the way to it. -/
  | backend
  /-- The container engine. -/
  | runner
  /-- A rule of the bookkeeping would have been broken. -/
  | invariant
  | notFound
  /-- The HTTP server. -/
  | http
  /-- Files and other input and output. -/
  | io
  deriving DecidableEq, Repr

structure Fault where
  kind : FaultKind
  detail : String
  deriving DecidableEq, Repr

def FaultKind.lead : FaultKind → String
  | .config => "config: "
  | .backend => "backend: "
  | .runner => "runner: "
  | .invariant => "invariant violated: "
  | .notFound => "not found: "
  | .http => "http: "
  | .io => "io: "

def FaultKind.name : FaultKind → String
  | .config => "Config"
  | .backend => "Backend"
  | .runner => "Runner"
  | .invariant => "Invariant"
  | .notFound => "NotFound"
  | .http => "Http"
  | .io => "Io"

def Fault.message (f : Fault) : String := f.kind.lead ++ f.detail

def FaultKind.httpStatus : FaultKind → Nat
  | .config => 400
  | .notFound => 404
  | .invariant => 409
  | .backend => 502
  | .runner | .http | .io => 500

end AgentFleet
