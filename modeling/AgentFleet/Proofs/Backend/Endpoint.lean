import AgentFleet.Backend.Exchange
import AgentFleet.Proofs.Address.Extension
import AgentFleet.Proofs.Address.Form
import AgentFleet.Proofs.Config.Accepted

/-!
Where calls of the backend go. A call's path is put behind the address that is configured before the
two are read as one, so that the configured address decides where the path ends up.
-/

namespace AgentFleet

namespace Address

variable {a : Address} {ps : List (String × String)}

def asks (a : Address) : Option (List (String × String)) :=
  a.query.map fun query => Form.pairs (Form.octets query)

@[simp] theorem pathText_withPairs (a : Address) (ps : List (String × String)) :
    (a.withPairs ps).pathText = a.pathText := by
  unfold withPairs
  split_ifs <;> rfl

@[simp] theorem scheme_withPairs (a : Address) (ps : List (String × String)) :
    (a.withPairs ps).scheme = a.scheme := by
  unfold withPairs
  split_ifs <;> rfl

@[simp] theorem authority_withPairs (a : Address) (ps : List (String × String)) :
    (a.withPairs ps).authority = a.authority := by
  unfold withPairs
  split_ifs <;> rfl

@[simp] theorem fragment_withPairs (a : Address) (ps : List (String × String)) :
    (a.withPairs ps).fragment = a.fragment := by
  unfold withPairs
  split_ifs <;> rfl

/-- Pairs that are added to an address without a query are read back from it, and no others. -/
theorem asks_withPairs (h : a.query = none) (ps : List (String × String)) :
    (a.withPairs ps).asks = if ps = [] then none else some ps := by
  unfold withPairs
  split_ifs
  · rw [asks, h]
    rfl
  · simp only [asks, h, Option.map_some, Form.pairs_octets_text]

end Address

namespace Backend

variable {s s' : Settings} {a b : Address} {call : BackendCall} {base : String}

theorem exists_isPlain_path (call : BackendCall) :
    ∃ ys, (path call).toList = '/' :: ys ∧ ys ≠ [] ∧ Address.IsPlain ys := by
  refine ⟨(path call).toList.tail, ?_⟩
  cases call <;> rw [path] <;> decide +kernel

theorem endpoint_eq_ok_iff : endpoint base call = .ok a ↔
    ∃ read, Address.ofText (trimSlashes base ++ path call) = .ok read ∧
      a = read.withPairs (pairs call) := by
  unfold endpoint
  cases Address.ofText (trimSlashes base ++ path call) <;> simp [eq_comm]

/-- A call goes to its own path below the path of the backend's address, and asks just for what it
wants to know. -/
structure Reaches (b : Address) (call : BackendCall) (a : Address) : Prop where
  path : a.pathText = Address.stem b.pathText ++ (path call).toList
  asks : a.asks = if pairs call = [] then none else some (pairs call)
  fragment : a.fragment = none

/-- With settings that are accepted, calls reach the backend just if its address can be extended,
and then they go to the host that it names. -/
theorem endpoint_reaches_iff (hs : s.checked = .ok s')
    (hb : Address.ofText s'.backend.url = .ok b) (call : BackendCall) :
    ((∃ a, endpoint s'.backend.url call = .ok a ∧ Reaches b call a) ↔
      Address.Extensible s'.backend.url) ∧
    (Address.Extensible s'.backend.url → ∀ a, endpoint s'.backend.url call = .ok a →
      a.scheme = b.scheme ∧ a.authority = b.authority) := by
  obtain ⟨-, hsound⟩ := Settings.checked_eq_ok_iff.mp hs
  obtain ⟨l, rfl⟩ := Address.exists_layout hsound.backendUrl hb
  obtain ⟨ys, hpath, hne, hplain⟩ := exists_isPlain_path call
  simp only [endpoint_eq_ok_iff, hsound.trimmed]
  refine ⟨⟨?_, fun h => ?_⟩, ?_⟩
  · rintro ⟨a, ⟨read, hread, rfl⟩, hreaches⟩
    refine Address.extensible_of_pathText l hpath hplain hne hread ?_
    rw [← Address.pathText_withPairs read (pairs call)]
    exact hreaches.path
  · obtain ⟨read, hread, -, -, htext, hquery, hfragment⟩ := h.ofText_append l hpath hplain
    refine ⟨_, ⟨read, hread, rfl⟩, ?_, Address.asks_withPairs hquery _, ?_⟩
    · rw [Address.pathText_withPairs, htext]
    · rw [Address.fragment_withPairs, hfragment]
  · rintro h a ⟨read, hread, rfl⟩
    obtain ⟨read', hread', hscheme, hauthority, -⟩ := h.ofText_append l hpath hplain
    obtain rfl := Except.ok.inj (hread.symm.trans hread')
    rw [Address.scheme_withPairs, Address.authority_withPairs]
    exact ⟨hscheme, hauthority⟩

def settingsAt (url : String) : Settings where
  backend := { url := url }
  agent := { runCommand := "./save-agent", orchestratorUrl := "http://orchestrator:5100" }

/-- An identifier may hold what separates the parts of an address. -/
theorem endpoint_reaches_iff_below : let call := BackendCall.initConfig "a&b=c#d?e/.."
    ∃ b, (settingsAt "http://[::1]:5800/api/").checked = .ok (settingsAt "http://[::1]:5800/api") ∧
      Address.ofText "http://[::1]:5800/api" = .ok b ∧
      ∃ a, endpoint "http://[::1]:5800/api" call = .ok a ∧ Reaches b call a ∧
        a.scheme = b.scheme ∧ a.authority = b.authority := by
  intro call
  have hs : (settingsAt "http://[::1]:5800/api/").checked =
    .ok (settingsAt "http://[::1]:5800/api") := by decide +kernel
  have hb : Address.ofText "http://[::1]:5800/api" = .ok ⟨"http", some
    ⟨[], none, .v6 [0, 0, 0, 0, 0, 0, 0, 1], some 5800⟩, .parts ["api".toList], none, none⟩ := by
    decide +kernel
  have hextensible : Address.Extensible "http://[::1]:5800/api" := by decide
  obtain ⟨hiff, hsame⟩ := endpoint_reaches_iff hs hb call
  obtain ⟨a, ha, hreaches⟩ := hiff.mpr hextensible
  exact ⟨_, hs, hb, a, ha, hreaches, hsame hextensible a ha⟩

/-- Behind a fragment a call's path is no path: the call goes to the backend's own address. -/
theorem endpoint_misses_behind_fragment : let call := BackendCall.initConfig "c1"
    ∃ b a, (settingsAt "http://[::1]/x#f").checked = .ok (settingsAt "http://[::1]/x#f") ∧
      Address.ofText "http://[::1]/x#f" = .ok b ∧ endpoint "http://[::1]/x#f" call = .ok a ∧
      a.text = "http://[::1]/x?containerId=c1#f/internal/agents/get-init-config" ∧
      ¬ Reaches b call a := by
  intro call
  have hs : (settingsAt "http://[::1]/x#f").checked = .ok (settingsAt "http://[::1]/x#f") := by
    decide +kernel
  have hb : Address.ofText "http://[::1]/x#f" = .ok ⟨"http", some
    ⟨[], none, .v6 [0, 0, 0, 0, 0, 0, 0, 1], none⟩, .parts ["x".toList], none, some ['f']⟩ := by
    decide +kernel
  have ha : endpoint "http://[::1]/x#f" call = .ok ⟨"http", some
    ⟨[], none, .v6 [0, 0, 0, 0, 0, 0, 0, 1], none⟩, .parts ["x".toList],
      some "containerId=c1".toList, some "f/internal/agents/get-init-config".toList⟩ := by
    decide +kernel
  refine ⟨_, _, hs, hb, ha, by decide +kernel, fun h => ?_⟩
  cases h.fragment

end Backend

end AgentFleet
