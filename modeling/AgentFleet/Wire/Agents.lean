import AgentFleet.Json.Decoder
import AgentFleet.Model.Agent

/-!
Agents in JSON: their states by name, and what the backend knows of them.
-/

namespace AgentFleet

open Json (Decoder)
open Json.Decoder (Record Field required)

namespace Timestamp

def toJson (t : Timestamp) : Json := .string t.text

def decoder : Decoder Timestamp := fun _ => do
  let s ← Decoder.text "an RFC 3339 formatted date and time string"
  match ofText? s with
  | some t => return t
  | none => Decoder.fail .malformed

end Timestamp

namespace AgentState

def toJson (s : AgentState) : Json := .string s.name

def decoder : Decoder AgentState := Decoder.variant named

end AgentState

namespace AgentStatus

def toJson (s : AgentStatus) : Json :=
  .object [("containerId", .string s.containerId), ("state", s.state.toJson),
    ("time", s.time.toJson)]

structure Draft where
  containerId : Option ContainerId := none
  state : Option AgentState := none
  time : Option Timestamp := none

def finish (d : Draft) : Except Wire.Mismatch AgentStatus := do
  return ⟨← required "containerId" d.containerId, ← required "state" d.state,
    ← required "time" d.time⟩

def record : Record Draft AgentStatus where
  title := "AgentStatus"
  fields :=
    [.of "containerId" Decoder.string (·.containerId)
        (fun a d => { d with containerId := a }) false,
      .of "state" AgentState.decoder (·.state) (fun a d => { d with state := a }) false,
      .of "time" Timestamp.decoder (·.time) (fun a d => { d with time := a }) false]
  empty := {}
  finish := finish

def decoder : Decoder AgentStatus := Decoder.record record

end AgentStatus

end AgentFleet
