import AgentFleet.Engine.Session

/-!
A container engine that follows a script: it answers the commands of a session with prepared
outputs, one after another, and with empty success when none is left.
-/

namespace AgentFleet.Rehearsal

open Engine (Command Output Request Session)

/-- A rehearsal does not sit out pauses of more than thirty years of 365 days; in milliseconds. -/
def longestPause : Nat := 946080000000

structure ScriptedEngine where
  /-- The only program that can be started. -/
  binary : String
  outputs : List Output
  /-- The commands that were run, the last one first. -/
  commands : List Command := []
  elapsedMillis : Nat := 0

namespace ScriptedEngine

/-- Why a command cannot be started: its program is missing, or an argument holds a character that
ends arguments. -/
def obstacle? (s : ScriptedEngine) (binary : String) (c : Command) : Option String :=
  if (binary :: c).any fun arg => arg.toList.contains '\x00' then
    some "nul byte found in provided data"
  else if binary ≠ s.binary then some "No such file or directory (os error 2)"
  else none

def output (s : ScriptedEngine) (c : Command) : Output × ScriptedEngine :=
  let s := { s with commands := c :: s.commands }
  match s.outputs with
  | [] => (⟨true, "", ""⟩, s)
  | output :: rest => (output, { s with outputs := rest })

def answer (binary : String) : (q : Request) → StateM ScriptedEngine q.Answer
  | .run c => fun s =>
    match s.obstacle? binary c with
    | some reason => ((.error reason : Except String Output), s)
    | none =>
      let (output, s) := s.output c
      ((.ok output : Except String Output), s)
  | .pause millis => fun s =>
    let elapsed := s.elapsedMillis + min millis longestPause
    (((), { s with elapsedMillis := elapsed }) : Unit × ScriptedEngine)

def play {α : Type} (s : ScriptedEngine) (settings : EngineSettings) (session : Session α) :
    Except Fault α × ScriptedEngine :=
  (Procedure.run (answer settings.binary) session.run).run s

end ScriptedEngine

end AgentFleet.Rehearsal
