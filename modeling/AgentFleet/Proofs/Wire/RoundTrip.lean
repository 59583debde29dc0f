import AgentFleet.Proofs.Wire.Answers
import AgentFleet.Proofs.Wire.Records

/-!
Whatever text a value is decoded from, map or sequence, in any order, with names that mean nothing
or members left out: the value's own text is decoded as that value again. Only a payload with
doubles is left aside.
-/

namespace AgentFleet.Wire

open Json Json.Decoder

/-- A type of values on the wire: how they are written and read, and the payload that the backend
has put into one. -/
structure Kind where
  Value : Type
  toJson : Value → Json
  decoder : Decoder Value
  payload? : Value → Option Json

namespace Kind

def plain (Value : Type) (toJson : Value → Json) (decoder : Decoder Value) : Kind where
  Value := Value
  toJson := toJson
  decoder := decoder
  payload? _ := none

def heartbeat : Kind := plain Heartbeat Heartbeat.toJson Heartbeat.decoder

def answer : Kind where
  Value := Answer
  toJson := Answer.toJson
  decoder := Answer.decoder
  payload? := Answer.payload?

end Kind

def kinds : List Kind :=
  [.plain AgentState AgentState.toJson AgentState.decoder,
    .plain AgentStatus AgentStatus.toJson AgentStatus.decoder,
    .plain ExecutionStatus ExecutionStatus.toJson ExecutionStatus.decoder, .heartbeat, .answer,
    .plain LaunchRequest LaunchRequest.toJson LaunchRequest.decoder,
    .plain ContainerPlan ContainerPlan.toJson ContainerPlan.decoder]

def Kind.DoubleFree (k : Kind) (v : k.Value) : Prop := ∀ config ∈ k.payload? v, config.DoubleFree

/-- Decoding gives values with the property `P`, and the texts of such values are decoded as
them. -/
structure Kind.Faithful (k : Kind) (P : k.Value → Prop) : Prop where
  yields : Reader.Yields (k.decoder Read.maxDepth) P
  doubleFree : ∀ v, k.DoubleFree v → (k.toJson v).DoubleFree
  decodes : ∀ v, P v → k.DoubleFree v → Decodes k.decoder Read.maxDepth (k.toJson v) v

theorem Kind.Faithful.decode {k : Kind} {P : k.Value → Prop} (h : k.Faithful P)
    {pieces : List (Option Char)} {v : k.Value} (hrun : run k.decoder pieces = .ok v)
    (hfree : k.DoubleFree v) : decode k.decoder (k.toJson v).text = .ok v :=
  decode_text (h.doubleFree v hfree) (h.decodes v (of_run h.yields hrun) hfree)

theorem exists_faithful {k : Kind} (hk : k ∈ kinds) : ∃ P, k.Faithful P := by
  simp only [kinds, List.mem_cons, List.not_mem_nil, or_false] at hk
  rcases hk with rfl | rfl | rfl | rfl | rfl | rfl | rfl
  · exact ⟨fun _ => True, Reader.yields_any, fun _ _ => .string _,
      fun s _ _ => AgentState.decodes_toJson s _⟩
  · exact ⟨_, AgentStatus.keeps.record _, fun s _ => s.doubleFree_toJson,
      fun _ h _ => AgentStatus.decodes_toJson h _⟩
  · exact ⟨fun _ => True, Reader.yields_any, fun _ _ => .string _,
      fun s _ _ => ExecutionStatus.decodes_toJson s _⟩
  · exact ⟨_, Heartbeat.keeps.record _, fun h _ => h.doubleFree_toJson,
      fun _ h _ => Heartbeat.decodes_toJson h.1 h.2 _⟩
  · exact ⟨_, Answer.yields_decoder _, fun _ hfree => Answer.doubleFree_toJson hfree,
      fun _ hwell hfree => Answer.decodes_toJson hwell hfree⟩
  · exact ⟨_, LaunchRequest.keeps.record _, fun r _ => r.doubleFree_toJson,
      fun _ h _ => LaunchRequest.decodes_toJson h _⟩
  · exact ⟨fun _ => True, Reader.yields_any, fun p _ => p.doubleFree_toJson,
      fun p _ _ => p.decodes_toJson _⟩

theorem eq_ok_of_toOption {ε α : Type} {r : Except ε α} {a : α} (h : r.toOption = some a) :
    r = .ok a := by
  cases r with
  | error e => cases h
  | ok b =>
    cases h
    rfl

/-- The text of a decoded value is decoded as a value equal to it, whose text is the same. -/
theorem round_trip {k : Kind} (hk : k ∈ kinds) {pieces : List (Option Char)} {v : k.Value}
    (hrun : run k.decoder pieces = .ok v) (hfree : k.DoubleFree v) :
    ∃ w, decode k.decoder (k.toJson v).text = .ok w ∧ w = v ∧
      (k.toJson w).text = (k.toJson v).text := by
  obtain ⟨P, hfaithful⟩ := exists_faithful hk
  exact ⟨v, hfaithful.decode hrun hfree, rfl, rfl⟩

/-- A heartbeat at a leap second, as a sequence that leaves a field out, and an answer with a
payload. -/
theorem round_trip_leapSecond :
    let h : Heartbeat := ⟨"a", .idle, ⟨"e", 0⟩, ⟨1483228799, 1500000000⟩⟩
    let a : Answer := .newJob (.object [("x", .int 1), ("y", .null)])
    (decode Heartbeat.decoder "[\"a\", \"IDLE\", [\"e\"], \"2016-12-31t23:59:60.5z\"]" = .ok h ∧
      ∃ w, decode Heartbeat.decoder h.toJson.text = .ok w ∧ w = h ∧
        w.toJson.text = h.toJson.text) ∧
    decode Answer.decoder
        "\x7b\"type\":\"NewJobResponse\",\"config\":\x7b\"x\":1,\"y\":null\x7d\x7d" = .ok a ∧
      (∀ config ∈ a.payload?, config.DoubleFree) ∧
      ∃ w, decode Answer.decoder a.toJson.text = .ok w ∧ w = a ∧
        w.toJson.text = a.toJson.text := by
  intro h a
  have hh : decode Heartbeat.decoder "[\"a\", \"IDLE\", [\"e\"], \"2016-12-31t23:59:60.5z\"]" =
      .ok h := eq_ok_of_toOption (by decide +kernel)
  have hfree : ∀ config ∈ a.payload?, config.DoubleFree := by
    rintro _ ⟨⟩
    exact .object (List.forall_mem_cons.mpr ⟨.number trivial, List.forall_mem_singleton.mpr .null⟩)
  have hwell : ∀ config ∈ a.payload?, WellFormed 126 config := by
    rintro _ ⟨⟩
    refine .object (List.pairwise_pair.mpr (by decide)) ?_
    exact List.forall_mem_cons.mpr ⟨.number trivial, List.forall_mem_singleton.mpr .null⟩
  have htext : a.toJson.text =
      "\x7b\"type\":\"NewJobResponse\",\"config\":\x7b\"x\":1,\"y\":null\x7d\x7d" := by
    decide +kernel
  have ha := decode_text (Answer.doubleFree_toJson hfree) (Answer.decodes_toJson hwell hfree)
  rw [htext] at ha
  have hheartbeat : Kind.heartbeat ∈ kinds := by simp [kinds]
  have hanswer : Kind.answer ∈ kinds := by simp [kinds]
  exact ⟨⟨hh, round_trip hheartbeat hh nofun⟩, ha, hfree, round_trip hanswer ha hfree⟩

end AgentFleet.Wire
