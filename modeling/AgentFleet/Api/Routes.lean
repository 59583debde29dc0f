import AgentFleet.Address.Form
import AgentFleet.Api.Listener
import AgentFleet.Api.MediaType
import AgentFleet.Service.Heartbeats
import AgentFleet.Service.Launch
import AgentFleet.Wire.Executions
import AgentFleet.Wire.Heartbeats

/-!
The interface for agents and for those who launch and stop them: which requests are understood, what
they do, and how they are answered.
-/

namespace AgentFleet.Api

inductive Refusal where
  | unknownPath
  | wrongMethod
  | notJson
  /-- The body is no JSON text. -/
  | malformedBody
  /-- The body is JSON, but not what is asked for. -/
  | wrongBody
  | badQuery
  deriving DecidableEq, Repr

/-- The words of some refusals go on with details of the readers, which are left out here. -/
def Refusal.response : Refusal → Response
  | unknownPath => ⟨404, ""⟩
  | wrongMethod => ⟨405, ""⟩
  | notJson => ⟨415, "Expected request with `Content-Type: application/json`"⟩
  | malformedBody => ⟨400, "Failed to parse the request body as JSON"⟩
  | wrongBody => ⟨422, "Failed to deserialize the JSON body into the target type"⟩
  | badQuery => ⟨400, "Failed to deserialize query string"⟩

def faultResponse (f : Fault) : Response := ⟨f.kind.httpStatus, f.message⟩

def jsonResponse (v : Json) : Response := ⟨200, v.text⟩

inductive Command where
  /-- Whether the answer is to be without a body. -/
  | health (headOnly : Bool)
  | heartbeat (h : Heartbeat)
  | launch (r : LaunchRequest)
  | stopAgents (cs : List ContainerId)
  | cleanup (e : ExecutionId)

/-- Whether a request says that its body is JSON, in nothing but plain characters. -/
def Request.hasJson (r : Request) : Bool :=
  match (r.contentType.filter (·.toList.all Text.isAsciiText)).bind MediaType.ofText? with
  | some m => m.isJson
  | none => false

def Request.read {α : Type} (r : Request) (decoder : Json.Decoder α) : Except Refusal α :=
  if r.hasJson then
    match decoder.decodeBytes r.body with
    | .ok a => .ok a
    | .error (.shape _) => .error .wrongBody
    | .error _ => .error .malformedBody
  else .error .notJson

/-- The execution that a query names; it has to name just one. -/
def Request.execution (r : Request) : Except Refusal ExecutionId :=
  match (Address.Form.pairs r.query.toUTF8.toList).filter (·.1 = "executionId") with
  | [(_, e)] => .ok e
  | _ => .error .badQuery

def Request.posted {α : Type} (r : Request) (read : Request → Except Refusal α) :
    Except Refusal α :=
  if r.method = "POST" then read r else .error .wrongMethod

def Request.command (r : Request) : Except Refusal Command :=
  match r.path with
  | "/health" =>
    if r.method = "GET" then .ok (.health false)
    else if r.method = "HEAD" then .ok (.health true)
    else .error .wrongMethod
  | "/heartbeat" => .heartbeat <$> r.posted (·.read Heartbeat.decoder)
  | "/initializeAgents" => .launch <$> r.posted (·.read LaunchRequest.decoder)
  | "/stopAgents" => .stopAgents <$> r.posted (·.read (Json.Decoder.list Json.Decoder.string))
  | "/cleanup" => .cleanup <$> r.posted Request.execution
  | _ => .error .unknownPath

/-- Stops containers on request; brings those that could be stopped. -/
def stopAgents : List ContainerId → Activity (List ContainerId)
  | [] => return []
  | c :: cs => do
    let stopped : Except Fault Bool ← Activity.runner (.stopAgent c)
    match stopped with
    | .error _ => stopAgents cs
    | .ok _ =>
      let now ← Activity.clock
      let _ ← Activity.backend (.reportState c .stoppedByOrch now.wall.timestamp)
      let _ ← Activity.tracker (.delete c)
      return c :: (← stopAgents cs)

/-- Launches the agents of a request in the background, if it can be served at all. -/
def acceptLaunch (r : LaunchRequest) : Activity Response := do
  match r.check with
  | .error refusal => return faultResponse refusal.fault
  | .ok () =>
    Activity.spawn (.launch r)
    return ⟨202, ""⟩

/-- Removes what belongs to an execution; only if that succeeds it is no longer tracked. -/
def cleanup (e : ExecutionId) : Activity Response := do
  let cleaned : Except Fault Unit ← Activity.runner (.cleanup e)
  match cleaned with
  | .error f => return faultResponse f
  | .ok () =>
    let _ ← Activity.tracker (.deleteExecution e)
    return ⟨200, ""⟩

def Command.perform : Command → Activity Response
  | health headOnly => return ⟨200, if headOnly then "" else "ok"⟩
  | heartbeat h => return jsonResponse (← Activity.heartbeat h).toJson
  | launch r => acceptLaunch r
  | stopAgents cs => return jsonResponse (.strings (← Api.stopAgents cs))
  | cleanup e => Api.cleanup e

def respond (r : Request) : Activity Response :=
  match r.command with
  | .ok command => command.perform
  | .error refusal => pure refusal.response

end AgentFleet.Api
