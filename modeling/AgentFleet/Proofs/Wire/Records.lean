import AgentFleet.Proofs.Json.Decoding
import AgentFleet.Proofs.Time.Written
import AgentFleet.Wire.Heartbeats

/-!
The records on the wire. A value that is decoded keeps to the ranges of its numbers and times, and
the text of such a value is decoded as that value.
-/

namespace AgentFleet

open Json (Reader)
open Json.Decoder

namespace Timestamp

theorem yields_decoder (depth : Nat) : Reader.Yields (decoder depth) IsProper := by
  refine Reader.yields_any.bind fun s _ => ?_
  cases h : ofText? s with
  | some t => exact Reader.yields_pure (isProper_of_ofChars h)
  | none => exact Reader.yields_fail _

theorem decodes_toJson {t : Timestamp} (h : t.IsProper) (depth : Nat) :
    Decodes decoder depth t.toJson t := by
  intro rest _
  rw [toJson, Json.chars, decoder, Reader.bind_ok (text_quoted _ _ rest), ofText_text h]
  rfl

end Timestamp

namespace AgentState

theorem decodes_toJson (s : AgentState) (depth : Nat) : Decodes decoder depth s.toJson s :=
  decodes_variant s.lookup_name depth

end AgentState

namespace AgentStatus

theorem keeps : record.Keeps (fun d => ∀ t ∈ d.time, t.IsProper) (·.time.IsProper) where
  empty := nofun
  read := by
    intro field hfield depth d hd
    simp only [record, List.mem_cons, List.not_mem_nil, or_false] at hfield
    rcases hfield with rfl | rfl | rfl
    · exact Field.yields_of Reader.yields_any fun _ _ => hd
    · exact Field.yields_of Reader.yields_any fun _ _ => hd
    · exact Field.yields_of (Timestamp.yields_decoder depth) fun t ht => by simpa using ht
  finish := by
    intro d s hd h
    obtain ⟨_, -, h⟩ := of_required h
    obtain ⟨_, -, h⟩ := of_required h
    obtain ⟨t, ht, h⟩ := of_required h
    cases h
    exact hd t ht

theorem doubleFree_toJson (s : AgentStatus) : s.toJson.DoubleFree := by
  refine .object ?_
  simp only [List.forall_mem_cons]
  exact ⟨.string _, .string _, .string _, nofun⟩

theorem decodes_toJson {s : AgentStatus} (h : s.time.IsProper) (depth : Nat) :
    Decodes decoder (depth + 1) s.toJson s :=
  Record.Fills.decodes
    (.field rfl rfl (decodes_string depth s.containerId) <|
      .field rfl rfl (s.state.decodes_toJson depth) <|
      .field rfl rfl (Timestamp.decodes_toJson h depth) <| .nil _) rfl

end AgentStatus

namespace Progress

theorem keeps : record.Keeps (fun d => ∀ n ∈ d.percentCompletion, n ≤ 255)
    (·.percentCompletion ≤ 255) where
  empty := nofun
  read := by
    intro field hfield depth d hd
    simp only [record, List.mem_cons, List.not_mem_nil, or_false] at hfield
    rcases hfield with rfl | rfl
    · exact Field.yields_of Reader.yields_any fun _ _ => hd
    · exact Field.yields_of (yields_natural _ _ depth) fun n hn => by simpa using hn
  finish := by
    intro d p hd h
    obtain ⟨_, -, h⟩ := of_required h
    cases h
    dsimp only
    cases hn : d.percentCompletion with
    | none => exact Nat.zero_le 255
    | some n => exact hd n hn

theorem doubleFree_toJson (p : Progress) : p.toJson.DoubleFree := by
  refine .object ?_
  simp only [List.forall_mem_cons]
  exact ⟨.string _, .number trivial, nofun⟩

theorem decodes_toJson {p : Progress} (h : p.percentCompletion ≤ 255) (depth : Nat) :
    Decodes decoder (depth + 1) p.toJson p :=
  Record.Fills.decodes
    (.field rfl rfl (decodes_string depth p.executionId) <|
      .field rfl rfl (decodes_natural _ h (by decide) depth) <| .nil _) rfl

end Progress

namespace Heartbeat

theorem keeps : record.Keeps
    (fun d => (∀ p ∈ d.progress, p.percentCompletion ≤ 255) ∧ ∀ t ∈ d.timestamp, t.IsProper)
    (fun h => h.progress.percentCompletion ≤ 255 ∧ h.timestamp.IsProper) where
  empty := ⟨nofun, nofun⟩
  read := by
    intro field hfield depth d hd
    simp only [record, List.mem_cons, List.not_mem_nil, or_false] at hfield
    rcases hfield with rfl | rfl | rfl | rfl
    · exact Field.yields_of Reader.yields_any fun _ _ => hd
    · exact Field.yields_of Reader.yields_any fun _ _ => hd
    · exact Field.yields_of (Progress.keeps.record depth) fun p hp => ⟨by simpa using hp, hd.2⟩
    · exact Field.yields_of (Timestamp.yields_decoder depth) fun t ht => ⟨hd.1, by simpa using ht⟩
  finish := by
    intro d heartbeat hd h
    obtain ⟨_, -, h⟩ := of_required h
    obtain ⟨_, -, h⟩ := of_required h
    obtain ⟨p, hp, h⟩ := of_required h
    obtain ⟨t, ht, h⟩ := of_required h
    cases h
    exact ⟨hd.1 p hp, hd.2 t ht⟩

theorem doubleFree_toJson (h : Heartbeat) : h.toJson.DoubleFree := by
  refine .object ?_
  simp only [List.forall_mem_cons]
  exact ⟨.string _, .string _, h.progress.doubleFree_toJson, .string _, nofun⟩

theorem decodes_toJson {h : Heartbeat} (hpercent : h.progress.percentCompletion ≤ 255)
    (htime : h.timestamp.IsProper) (depth : Nat) : Decodes decoder (depth + 2) h.toJson h :=
  Record.Fills.decodes
    (.field rfl rfl (decodes_string _ h.agentId) <|
      .field rfl rfl (h.state.decodes_toJson _) <|
      .field rfl rfl (Progress.decodes_toJson hpercent depth) <|
      .field rfl rfl (Timestamp.decodes_toJson htime _) <| .nil _) rfl

end Heartbeat

namespace ExecutionStatus

theorem decodes_toJson (s : ExecutionStatus) (depth : Nat) : Decodes decoder depth s.toJson s :=
  decodes_variant s.lookup_name depth

end ExecutionStatus

namespace LaunchRequest

theorem keeps : record.Keeps (fun d => ∀ n ∈ d.replicas, n ≤ 4294967295)
    (·.replicas ≤ 4294967295) where
  empty := nofun
  read := by
    intro field hfield depth d hd
    simp only [record, List.mem_cons, List.not_mem_nil, or_false] at hfield
    rcases hfield with rfl | rfl | rfl | rfl | rfl
    · exact Field.yields_of Reader.yields_any fun _ _ => hd
    · exact Field.yields_of Reader.yields_any fun _ _ => hd
    · exact Field.yields_of (yields_natural _ _ depth) fun n hn => by simpa using hn
    · exact Field.yields_of Reader.yields_any fun _ _ => hd
    · exact Field.yields_of Reader.yields_any fun _ _ => hd
  finish := by
    intro d r hd h
    obtain ⟨_, -, h⟩ := of_required h
    obtain ⟨n, hn, h⟩ := of_required h
    cases h
    exact hd n hn

theorem doubleFree_toJson (r : LaunchRequest) : r.toJson.DoubleFree := by
  refine .object ?_
  simp only [List.forall_mem_cons]
  exact ⟨.string _, .string _, .number trivial, doubleFree_optionalString _,
    doubleFree_optionalString _, nofun⟩

theorem decodes_toJson {r : LaunchRequest} (h : r.replicas ≤ 4294967295) (depth : Nat) :
    Decodes decoder (depth + 1) r.toJson r :=
  Record.Fills.decodes
    (.field rfl rfl (decodes_string depth r.executionId) <|
      .field rfl rfl (decodes_string depth r.sdk) <|
      .field rfl rfl (decodes_natural _ h (by decide) depth) <|
      .field rfl rfl (decodes_optionalString r.organization depth) <|
      .field rfl rfl (decodes_optionalString r.project depth) <| .nil _) rfl

end LaunchRequest

namespace ResourceLimits

theorem doubleFree_toJson (r : ResourceLimits) : r.toJson.DoubleFree := by
  refine .object ?_
  simp only [List.forall_mem_cons]
  exact ⟨doubleFree_optionalString _, doubleFree_optionalString _, nofun⟩

theorem decodes_toJson (r : ResourceLimits) (depth : Nat) :
    Decodes decoder (depth + 1) r.toJson r :=
  Record.Fills.decodes
    (.field rfl rfl (decodes_optionalString r.cpu depth) <|
      .field rfl rfl (decodes_optionalString r.memory depth) <| .nil _) rfl

end ResourceLimits

namespace Volume

theorem doubleFree_toJson (v : Volume) : v.toJson.DoubleFree := by
  refine .object ?_
  simp only [List.forall_mem_cons]
  exact ⟨.string _, .string _, nofun⟩

theorem decodes_toJson (v : Volume) (depth : Nat) : Decodes decoder (depth + 1) v.toJson v :=
  Record.Fills.decodes
    (.field rfl rfl (decodes_string depth v.name) <|
      .field rfl rfl (decodes_string depth v.mountPath) <| .nil _) rfl

end Volume

namespace ContainerPlan

theorem foldl_insert_toList (env : Environment) :
    env.toList.foldl (fun env (key, value) => env.insert key value) (∅ : Environment) = env := by
  have hfold : env.toList.foldl (fun env (key, value) => env.insert key value) (∅ : Environment) =
      Std.ExtTreeMap.ofList env.toList compare := by
    rw [Std.ExtTreeMap.ofList_eq_insertMany_empty, Std.ExtTreeMap.insertMany_list_eq_foldl]
  rw [hfold]
  refine Std.ExtTreeMap.ext_getElem? fun key => ?_
  cases hkey : env[key]? with
  | some value =>
    exact Std.ExtTreeMap.getElem?_ofList_of_mem Std.ReflCmp.compare_self
      Std.ExtTreeMap.distinct_keys_toList (Std.ExtTreeMap.mem_toList_iff_getElem?_eq_some.mpr hkey)
  | none =>
    refine Std.ExtTreeMap.getElem?_ofList_of_contains_eq_false ?_
    rw [Std.ExtTreeMap.map_fst_toList_eq_keys, Std.ExtTreeMap.contains_keys,
      Std.ExtTreeMap.contains_eq_isSome_getElem?, hkey, Option.isSome_none]

theorem decodes_env (env : Environment) (depth : Nat) :
    Decodes envDecoder (depth + 1)
      (.object (env.toList.map fun (key, value) => (key, .string value))) env := by
  intro rest hrest
  have hread := decodes_map (l := env.toList) (fun m _ => decodes_string depth m.2) rest hrest
  rw [envDecoder, Reader.map_ok hread, foldl_insert_toList]

theorem doubleFree_toJson (p : ContainerPlan) : p.toJson.DoubleFree := by
  have henv :
      (Json.object (p.env.toList.map fun (key, value) => (key, .string value))).DoubleFree :=
    .object (List.forall_mem_map.mpr fun m _ => .string m.2)
  refine .object ?_
  simp only [List.forall_mem_cons]
  exact ⟨.string _, .string _, p.resources.doubleFree_toJson, .string _, henv,
    p.volume.doubleFree_toJson, nofun⟩

theorem decodes_toJson (p : ContainerPlan) (depth : Nat) :
    Decodes decoder (depth + 2) p.toJson p :=
  Record.Fills.decodes
    (.field rfl rfl (decodes_string _ p.image) <|
      .field rfl rfl (decodes_string _ p.runCommand) <|
      .field rfl rfl (p.resources.decodes_toJson depth) <|
      .field rfl rfl (decodes_string _ p.workingDir) <|
      .field rfl rfl (decodes_env p.env depth) <|
      .field rfl rfl (p.volume.decodes_toJson depth) <| .nil _) rfl

end ContainerPlan

end AgentFleet
