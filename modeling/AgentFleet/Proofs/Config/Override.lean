import AgentFleet.Proofs.Config.Accepted
import AgentFleet.Proofs.Toml.Change

/-!
Which addresses of the backend are accepted, and what an address from the environment comes to: the
same as if it stood in the document that the settings are from.
-/

namespace AgentFleet

open Toml.Decoder (Record)
open Toml.Decoder.Field (follows_of follows_same)

namespace BackendSettings

def changeUrl (url : String) (name : String) (v : Toml) : Toml :=
  if name = "url" then .string url else v

theorem record_changeUrl {v : Toml} {s : BackendSettings} (url : String)
    (h : Toml.Decoder.record record v = .ok s) :
    Toml.Decoder.record record (record.change (changeUrl url) v) = .ok { s with url := url } := by
  refine Record.record_change (f := fun d => { d with url := d.url.map fun _ => url })
    (g := fun s => { s with url := url }) ?_ rfl (fun d s hs => ?_) h
  · simp only [record, List.forall_mem_cons]
    exact ⟨follows_of fun _ _ _ => ⟨url, rfl, fun _ => rfl⟩,
      follows_same (fun _ => rfl) fun _ _ => rfl, nofun⟩
  · obtain ⟨_ | address, timeout⟩ := d
    · cases hs
    · cases hs
      rfl

end BackendSettings

/-! ### Addresses -/

/-- One of the two schemes of the web, and something else than slashes behind it. -/
def IsWebAddress (url : String) : Prop :=
  ∃ scheme ∈ ["http://", "https://"], ∃ rest, url = scheme ++ rest ∧ ∃ c ∈ rest.toList, c ≠ '/'

/-- The address with some slashes at its end taken away, and none left there. -/
def StripsTo (url stripped : String) : Prop :=
  (∃ n, url.toList = stripped.toList ++ List.replicate n '/') ∧
    stripped.toList.getLast? ≠ some '/'

theorem withoutSlashes_append {rest : List Char} (h : ∃ c ∈ rest, c ≠ '/') (cs : List Char) :
    withoutSlashes (cs ++ rest) = cs ++ withoutSlashes rest := by
  have hrest : (rest.reverse.dropWhile (· = '/')).isEmpty = false := by
    rw [List.isEmpty_eq_false_iff, ne_eq, List.dropWhile_eq_nil_iff]
    simpa using h
  rw [withoutSlashes, List.reverse_append, List.dropWhile_append, hrest]
  simp [withoutSlashes]

theorem withoutSlashes_append_slashes {rest : List Char} (h : ∀ c ∈ rest, c = '/')
    (cs : List Char) : withoutSlashes (cs ++ rest) = withoutSlashes cs := by
  have hrest : (rest.reverse.dropWhile (· = '/')).isEmpty = true := by
    rw [List.isEmpty_iff, List.dropWhile_eq_nil_iff]
    simpa using h
  rw [withoutSlashes, List.reverse_append, List.dropWhile_append, hrest]
  rfl

theorem prefix_withoutSlashes_iff {scheme cs : List Char}
    (h : ¬ scheme <+: withoutSlashes scheme) :
    scheme <+: withoutSlashes cs ↔ ∃ rest, cs = scheme ++ rest ∧ ∃ c ∈ rest, c ≠ '/' := by
  constructor
  · intro hstart
    obtain ⟨rest, rfl⟩ := hstart.trans (List.rdropWhile_prefix _ cs)
    refine ⟨rest, rfl, ?_⟩
    -- With only slashes behind it the scheme would lose its own.
    by_contra hslashes
    push Not at hslashes
    rw [withoutSlashes_append_slashes hslashes] at hstart
    exact h hstart
  · rintro ⟨rest, rfl, hrest⟩
    rw [withoutSlashes_append hrest]
    exact List.prefix_append _ _

theorem hasWebScheme_trimSlashes_iff {url : String} :
    hasWebScheme (trimSlashes url) = true ↔ IsWebAddress url := by
  have hscheme : ∀ scheme : String, ¬ scheme.toList <+: withoutSlashes scheme.toList →
      (scheme.toList <+: withoutSlashes url.toList ↔
        ∃ rest, url = scheme ++ rest ∧ ∃ c ∈ rest.toList, c ≠ '/') := by
    intro scheme h
    rw [prefix_withoutSlashes_iff h]
    constructor
    · rintro ⟨rest, hurl, hrest⟩
      refine ⟨String.ofList rest, ?_, by simpa using hrest⟩
      rw [← String.toList_inj, hurl, String.toList_append, String.toList_ofList]
    · rintro ⟨rest, rfl, hrest⟩
      exact ⟨rest.toList, String.toList_append, hrest⟩
  have hschemes := or_congr (hscheme "http://" (by decide)) (hscheme "https://" (by decide))
  have htrimmed : (trimSlashes url).toList = withoutSlashes url.toList := String.toList_ofList
  rw [hasWebScheme, Bool.or_eq_true, List.isPrefixOf_iff_prefix, List.isPrefixOf_iff_prefix,
    htrimmed, hschemes]
  simp [IsWebAddress]

theorem stripsTo_trimSlashes (url : String) : StripsTo url (trimSlashes url) := by
  have hslashes : ∀ c ∈ url.toList.rtakeWhile (· = '/'), c = '/' := fun c hc => by
    simpa using List.mem_rtakeWhile_imp hc
  have hsplit : url.toList = withoutSlashes url.toList ++ url.toList.rtakeWhile (· = '/') :=
    List.rdropWhile_append_rtakeWhile.symm
  rw [StripsTo, trimSlashes, String.toList_ofList]
  refine ⟨⟨_, List.eq_replicate_of_mem hslashes ▸ hsplit⟩, fun hlast => ?_⟩
  have hne := List.ne_nil_of_mem (List.mem_of_getLast? hlast)
  rw [List.getLast?_eq_some_getLast hne, Option.some_inj] at hlast
  exact List.rdropWhile_last_not (· = '/') url.toList hne (decide_eq_true hlast)

namespace Settings

def changeUrl (url : String) (name : String) (v : Toml) : Toml :=
  if name = "backend" then BackendSettings.record.change (BackendSettings.changeUrl url) v else v

theorem record_changeUrl {v : Toml} {s : Settings} (url : String)
    (h : Toml.Decoder.record record v = .ok s) :
    Toml.Decoder.record record (record.change (changeUrl url) v) =
      .ok (s.withBackendUrl url) := by
  refine Record.record_change
    (f := fun d => { d with backend := d.backend.map fun b => { b with url := url } })
    (g := fun s => s.withBackendUrl url) ?_ rfl (fun d s hs => ?_) h
  · simp only [record, List.forall_mem_cons]
    refine ⟨?_, ?_, ?_, ?_, ?_, ?_, ?_, nofun⟩
    case refine_3 =>
      exact follows_of fun v b hb => ⟨_, BackendSettings.record_changeUrl url hb, fun _ => rfl⟩
    all_goals exact follows_same (fun _ => rfl) fun _ _ => rfl
  · obtain ⟨port, bind, _ | backend, _ | agent, engine, liveness, shutdown⟩ := d
    · cases hs
    · cases hs
    · cases hs
    · cases hs
      rfl

/-- With another address of the backend the settings would be accepted. -/
def OtherwiseValid (s : Settings) : Prop :=
  ∃ url accepted, (s.withBackendUrl url).checked = .ok accepted

variable {s accepted : Settings}

theorem OtherwiseValid.checked_eq (h : s.OtherwiseValid) : s.checked =
    if hasWebScheme (trimSlashes s.backend.url) then
      .ok (s.withBackendUrl (trimSlashes s.backend.url))
    else .error (.backendUrl s.backend.url) := by
  obtain ⟨url, accepted, h⟩ := h
  obtain ⟨rfl, hsound⟩ := checked_eq_ok_iff.mp h
  split
  next hscheme =>
    exact checked_eq_ok_iff.mpr ⟨rfl, { hsound with
      backendUrl := hscheme
      trimmed := trimSlashes_trimSlashes _ }⟩
  next hscheme => simp [checked, hscheme]

theorem ofText_eq {text : String} {doc : Toml} (htext : Toml.ofText? text = some doc)
    (hdoc : Toml.Decoder.record record doc = .ok s) :
    ofText text = s.checked.mapError .refused := by
  rw [ofText, htext]
  simp only [hdoc]

theorem of_ofText {text : String} {doc : Toml} (htext : Toml.ofText? text = some doc)
    (h : ofText text = .ok accepted) :
    ∃ s, Toml.Decoder.record record doc = .ok s ∧ s.checked = .ok accepted := by
  rw [ofText, htext] at h
  cases hdoc : Toml.Decoder.record record doc with
  | error m => simp [hdoc] at h
  | ok s =>
    simp only [hdoc] at h
    exact ⟨s, rfl, mapError_eq_ok_iff.mp h⟩

end Settings

def Toml.withBackendUrl (url : String) : Toml → Toml :=
  Settings.record.change (Settings.changeUrl url)

/-- Settings from a document that has nothing else to be refused for are accepted just if the
backend's address is one of the web; it is stored without the slashes at its end, and a second check
finds nothing to do. Settings that are accepted take an address from the environment as if it stood
in the document. -/
theorem backend_address_accepted_iff {text : String} {doc : Toml}
    (htext : Toml.ofText? text = some doc) :
    (∀ s : Settings, Toml.Decoder.record Settings.record doc = .ok s → s.OtherwiseValid →
      ((∃ accepted, Settings.ofText text = .ok accepted) ↔ IsWebAddress s.backend.url) ∧
      (¬ IsWebAddress s.backend.url →
        Settings.ofText text = .error (.refused (.backendUrl s.backend.url))) ∧
      ∀ accepted, Settings.ofText text = .ok accepted →
        accepted = s.withBackendUrl accepted.backend.url ∧
        StripsTo s.backend.url accepted.backend.url ∧ accepted.checked = .ok accepted) ∧
    ∀ accepted, Settings.ofText text = .ok accepted →
      accepted.applyOverride none = .ok accepted ∧
      accepted.applyOverride (some "") = .ok accepted ∧
      ∀ url, url ≠ "" →
        (∃ s, Toml.Decoder.record Settings.record (doc.withBackendUrl url) = .ok s ∧
          s.checked = accepted.applyOverride (some url)) ∧
        ∀ text', Toml.ofText? text' = some (doc.withBackendUrl url) →
          Settings.ofText text' = (accepted.applyOverride (some url)).mapError .refused := by
  constructor
  · intro s hdoc hvalid
    have hread := Settings.ofText_eq htext hdoc
    rw [hvalid.checked_eq] at hread
    by_cases haddress : IsWebAddress s.backend.url
    · rw [if_pos (hasWebScheme_trimSlashes_iff.mpr haddress)] at hread
      refine ⟨iff_of_true ⟨_, hread⟩ haddress, fun hno => (hno haddress).elim,
        fun accepted hok => ?_⟩
      have hsound := (Settings.Sound.of_ofText hok).checked
      obtain rfl := Except.ok.inj (hread.symm.trans hok)
      exact ⟨rfl, stripsTo_trimSlashes _, hsound⟩
    · rw [if_neg fun hscheme => haddress (hasWebScheme_trimSlashes_iff.mp hscheme)] at hread
      refine ⟨iff_of_false (fun ⟨_, hok⟩ => ?_) haddress, fun _ => hread, fun accepted hok => ?_⟩
      · cases hread.symm.trans hok
      · cases hread.symm.trans hok
  · intro accepted hok
    have hsound := (Settings.Sound.of_ofText hok).checked
    refine ⟨hsound, hsound, fun url hurl => ?_⟩
    obtain ⟨s, hdoc, hchecked⟩ := Settings.of_ofText htext hok
    obtain ⟨rfl, -⟩ := Settings.checked_eq_ok_iff.mp hchecked
    have hother := Settings.record_changeUrl url hdoc
    have hoverride : (s.withBackendUrl url).checked =
        (s.withBackendUrl (trimSlashes s.backend.url)).applyOverride (some url) := by
      rw [Settings.applyOverride, Settings.overridden, if_neg hurl]
      rfl
    refine ⟨⟨_, hother, hoverride⟩, fun text' htext' => ?_⟩
    rw [Settings.ofText_eq htext' hother, hoverride]

def leastText (url : String) : String :=
  "[backend]\nurl=\"" ++ url ++ "\"\n[agent]\nrun_command=\"run\"\norchestrator_url=\"o\"\n"

def leastDocument (url : String) : Toml :=
  .table [("backend", .table [("url", .string url)]),
    ("agent", .table [("run_command", .string "run"), ("orchestrator_url", .string "o")])]

def leastSettings (url : String) : Settings where
  backend := { url := url }
  agent := { runCommand := "run", orchestratorUrl := "o" }

theorem ofText?_leastText :
    Toml.ofText? (leastText "http://b//") = some (leastDocument "http://b//") := by
  decide +kernel

theorem ofText?_leastText_changed : Toml.ofText? (leastText "https://c/") =
    some ((leastDocument "http://b//").withBackendUrl "https://c/") := by
  decide +kernel

theorem backend_address_accepted_iff_least :
    Settings.ofText (leastText "http://b//") = .ok (leastSettings "http://b") ∧
    IsWebAddress "http://b//" ∧
    Settings.ofText (leastText "https://c/") =
      ((leastSettings "http://b").applyOverride (some "https://c/")).mapError .refused := by
  obtain ⟨hread, hoverride⟩ := backend_address_accepted_iff ofText?_leastText
  have haccepted : Settings.ofText (leastText "http://b//") = .ok (leastSettings "http://b") := by
    decide +kernel
  have hvalid : (leastSettings "http://b//").OtherwiseValid :=
    ⟨"http://b", leastSettings "http://b", by decide +kernel⟩
  exact ⟨haccepted, (hread (leastSettings "http://b//") rfl hvalid).1.mp ⟨_, haccepted⟩,
    ((hoverride _ haccepted).2.2 "https://c/" (by decide)).2 _ ofText?_leastText_changed⟩

end AgentFleet
