import AgentFleet.Wire.Agents
import AgentFleet.Model.Heartbeat

/-!
Heartbeats and their answers in JSON. An answer is a map whose member `type` names its kind, in any
place, or a sequence that starts with the kind.
-/

namespace AgentFleet

open Json (Decoder Reader)
open Json.Decoder (Record Field required)

namespace Progress

def toJson (p : Progress) : Json :=
  .object [("executionId", .string p.executionId), ("percentCompletion", .nat p.percentCompletion)]

structure Draft where
  executionId : Option ExecutionId := none
  percentCompletion : Option Nat := none

def finish (d : Draft) : Except Wire.Mismatch Progress := do
  return ⟨← required "executionId" d.executionId, d.percentCompletion.getD 0⟩

def record : Record Draft Progress where
  title := "ExecutionProgress"
  fields :=
    [.of "executionId" Decoder.string (·.executionId)
        (fun a d => { d with executionId := a }) false,
      .of "percentCompletion" (Decoder.natural "u8" 255) (·.percentCompletion)
        (fun a d => { d with percentCompletion := a }) true]
  empty := {}
  finish := finish

def decoder : Decoder Progress := Decoder.record record

end Progress

namespace Heartbeat

def toJson (h : Heartbeat) : Json :=
  .object [("agentId", .string h.agentId), ("state", h.state.toJson),
    ("executionProgress", h.progress.toJson), ("timestamp", h.timestamp.toJson)]

structure Draft where
  agentId : Option ContainerId := none
  state : Option AgentState := none
  progress : Option Progress := none
  timestamp : Option Timestamp := none

def finish (d : Draft) : Except Wire.Mismatch Heartbeat := do
  return ⟨← required "agentId" d.agentId, ← required "state" d.state,
    ← required "executionProgress" d.progress, ← required "timestamp" d.timestamp⟩

def record : Record Draft Heartbeat where
  title := "Heartbeat"
  fields :=
    [.of "agentId" Decoder.string (·.agentId) (fun a d => { d with agentId := a }) false,
      .of "state" AgentState.decoder (·.state) (fun a d => { d with state := a }) false,
      .of "executionProgress" Progress.decoder (·.progress)
        (fun a d => { d with progress := a }) false,
      .of "timestamp" Timestamp.decoder (·.timestamp) (fun a d => { d with timestamp := a }) false]
  empty := {}
  finish := finish

def decoder : Decoder Heartbeat := Decoder.record record

end Heartbeat

namespace Answer

/-- The kinds of answers; those with a payload are made from it. -/
inductive Tag where
  | bare (answer : Answer)
  | payload (name : String) (answer : Json → Answer)

def tags : List (String × Tag) :=
  [("InitResponse", .payload "InitResponse" .init),
    ("NewJobResponse", .payload "NewJobResponse" .newJob),
    ("ContinueResponse", .bare .keepOn), ("WaitResponse", .bare .wait),
    ("TerminateResponse", .bare .terminate)]

def tagName : Answer → String
  | init _ => "InitResponse"
  | newJob _ => "NewJobResponse"
  | keepOn => "ContinueResponse"
  | wait => "WaitResponse"
  | terminate => "TerminateResponse"

def payload? : Answer → Option Json
  | init config => some config
  | newJob config => some config
  | _ => none

def toJson (a : Answer) : Json :=
  .object (("type", .string a.tagName) ::
    match a.payload? with
    | some config => [("config", config)]
    | none => [])

def taggedMembers (depth : Nat) :
    Nat → Bool → Option Tag → Reader (Option Tag × List (String × Json))
  | 0, _, _ => fun cs => .error (Json.Read.unexpected cs)
  | fuel + 1, first, tag => do
    match ← Json.Read.nextName first with
    | none => return (tag, [])
    | some name =>
      if name = "type" then
        if tag.isSome then Decoder.fail (.duplicateField "type")
        else
          Json.Read.symbol ':'
          taggedMembers depth fuel false (some (← Decoder.variantName tags))
      else
        Json.Read.symbol ':'
        let value ← Json.Read.value depth
        let (tag, rest) ← taggedMembers depth fuel false tag
        return (tag, (name, value) :: rest)

def ofMembers (members : List (String × Json)) : Tag → Except Wire.Mismatch Answer
  | .bare answer => .ok answer
  | .payload _ answer =>
    match members.filter (·.1 = "config") with
    | [] => .error (.missingField "config")
    | [(_, config)] => .ok (answer config)
    | _ => .error (.duplicateField "config")

def ofElements (elements : List Json) : Tag → Except Wire.Mismatch Answer
  | .bare answer =>
    if elements = [] then .ok answer
    else .error (.invalidLength elements.length (Wire.elements 0 ++ " in sequence"))
  | .payload name answer =>
    match elements with
    | [] => .error (.invalidLength 0 ("struct variant HeartbeatResponse::" ++ name ++ " with "
        ++ Wire.elements 1))
    | [config] => .ok (answer config)
    | _ => .error (.invalidLength elements.length (Wire.elements 1 ++ " in sequence"))

def finish : Except Wire.Mismatch Answer → Reader Answer
  | .ok answer => pure answer
  | .error m => Decoder.fail m

def ofMap (depth : Nat) : Reader Answer := fun cs =>
  (do match ← taggedMembers depth (cs.length + 1) true none with
      | (some tag, members) => finish (ofMembers members tag)
      | (none, _) => Decoder.fail (.missingField "type") : Reader Answer) cs

def ofSequence (depth : Nat) : Reader Answer := fun cs =>
  (do if ← Json.Read.nextElement true then
        let tag ← Decoder.variantName tags
        let elements ← Json.Read.elementsFrom (Json.Read.value depth) (cs.length + 1) false
        finish (ofElements elements tag)
      else Decoder.fail (.missingField "type") : Reader Answer) cs

def decoder : Decoder Answer := fun depth cs =>
  match Json.Read.skipSpace cs with
  | '[' :: rest => Json.Read.nested depth ofSequence rest
  | '\x7b' :: rest => Json.Read.nested depth ofMap rest
  | cs => Decoder.mismatch "internally tagged enum HeartbeatResponse" cs

end Answer

end AgentFleet
