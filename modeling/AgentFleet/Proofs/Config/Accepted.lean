import Mathlib.Data.List.DropRight
import Mathlib.Tactic.SplitIfs
import AgentFleet.CommandLine.Startup
import AgentFleet.Proofs.Text.Utf8

/-!
What settings that are accepted keep to, and whether the service starts with them. The interval of
the watch is checked, but neither the one of pruning nor how long the staleness threshold is, so
that settings may be accepted and break the service when it starts.
-/

namespace AgentFleet

namespace Settings

variable {s s' accepted settings : Settings} {text : String} {url : Option String}

/-- The settings keep to all rules, and the backend's address has no slashes at its end. -/
structure Sound (s : Settings) : Prop where
  backendUrl : hasWebScheme s.backend.url = true
  trimmed : trimSlashes s.backend.url = s.backend.url
  requestTimeout : s.backend.requestTimeoutSeconds ≠ 0
  runCommand : ¬ Text.IsBlank s.agent.runCommand
  createPollAttempts : s.engine.createPollAttempts ≠ 0
  stalenessThreshold : s.liveness.stalenessThresholdSeconds ≠ 0
  watchdogInterval : s.liveness.watchdogIntervalSeconds ≠ 0
  finalizedRetention : s.liveness.finalizedRetentionSeconds ≠ 0
  maxChecks : s.shutdown.maxChecks ≠ 0
  timeout : s.shutdown.timeoutSeconds ≠ 0

/-! ### Checks -/

theorem trimSlashes_trimSlashes (url : String) :
    trimSlashes (trimSlashes url) = trimSlashes url := by
  rw [trimSlashes, trimSlashes, String.toList_ofList]
  exact congrArg String.ofList (List.rdropWhile_idempotent _ url.toList)

/-- A check accepts what keeps to the rules once the address is trimmed, and trims it. -/
theorem checked_eq_ok_iff : s.checked = .ok s' ↔
    s' = s.withBackendUrl (trimSlashes s.backend.url) ∧ s'.Sound := by
  constructor
  · intro h
    simp only [checked] at h
    split_ifs at h with hurl htimeout hcommand hattempts hliveness hshutdown
    obtain rfl := Except.ok.inj h
    rw [Bool.not_eq_true', Bool.not_eq_false] at hurl
    push Not at hliveness hshutdown
    exact ⟨rfl, hurl, trimSlashes_trimSlashes _, htimeout, hcommand, hattempts, hliveness.1,
      hliveness.2.1, hliveness.2.2, hshutdown.1, hshutdown.2⟩
  · rintro ⟨rfl, hurl, -, htimeout, hcommand, hattempts, hstaleness, hwatchdog, hretention,
      hchecks, hend⟩
    simp only [withBackendUrl] at *
    simp [checked, withBackendUrl, *]

theorem Sound.checked (h : s.Sound) : s.checked = .ok s :=
  checked_eq_ok_iff.mpr ⟨by rw [h.trimmed]; rfl, h⟩

theorem mapError_eq_ok_iff {α ε ε' : Type} {f : ε → ε'} {r : Except ε α} {a : α} :
    r.mapError f = .ok a ↔ r = .ok a := by
  cases r <;> simp [Except.mapError]

/-- What is accepted as settings keeps to the rules, so that it stays as it is if nothing overrides
it. -/
theorem Sound.of_ofText (h : ofText text = .ok s) : s.Sound := by
  unfold ofText at h
  split at h
  · cases h
  · split at h
    · cases h
    · exact (checked_eq_ok_iff.mp (mapError_eq_ok_iff.mp h)).2

theorem withBackendUrl_overridden (s : Settings) (url : Option String) (address : String) :
    (s.overridden url).withBackendUrl address = s.withBackendUrl address := by
  unfold overridden
  split
  · rfl
  · split <;> rfl

/-- The override changes nothing but the backend's address, and what it comes to is checked. -/
theorem of_applyOverride (h : accepted.applyOverride url = .ok settings) :
    settings.Sound ∧ settings = accepted.withBackendUrl settings.backend.url := by
  obtain ⟨rfl, hsound⟩ := checked_eq_ok_iff.mp h
  refine ⟨hsound, ?_⟩
  rw [withBackendUrl_overridden]
  rfl

/-! ### Breakdowns -/

theorem Sound.canTurn_watch (h : s.Sound) : Routine.CanTurn (Routine.watch.periodSeconds s) :=
  Nat.pos_of_ne_zero h.watchdogInterval

theorem canTurn_prune_iff :
    Routine.CanTurn (Routine.prune.periodSeconds s) ↔ s.engine.pruneIntervalSeconds ≠ 0 :=
  Nat.pos_iff_ne_zero

/-- Of the routines only the watch has an interval that is checked. -/
theorem Sound.breakdowns_eq (h : s.Sound) : s.breakdowns =
    (if s.liveness.stalenessThresholdSeconds ≤ LivenessSettings.maxThresholdSeconds then []
      else [.staleness]) ++
    if s.engine.pruneIntervalSeconds = 0 then [.routine .prune] else [] := by
  unfold breakdowns
  congr 1
  · unfold LivenessSettings.stalenessSeconds?
    split <;> rfl
  · by_cases hzero : s.engine.pruneIntervalSeconds = 0 <;>
      simp [Routine.all, h.canTurn_watch, canTurn_prune_iff, hzero]

theorem Sound.breakdowns_eq_nil_iff (h : s.Sound) : s.breakdowns = [] ↔
    s.liveness.stalenessThresholdSeconds ≤ LivenessSettings.maxThresholdSeconds ∧
      s.engine.pruneIntervalSeconds ≠ 0 := by
  rw [h.breakdowns_eq]
  simp

theorem Sound.isFatal_breakdowns_iff (h : s.Sound) : s.breakdowns.any Breakdown.isFatal = true ↔
    ¬ s.liveness.stalenessThresholdSeconds ≤ LivenessSettings.maxThresholdSeconds := by
  rw [h.breakdowns_eq]
  by_cases hspan : s.liveness.stalenessThresholdSeconds ≤ LivenessSettings.maxThresholdSeconds <;>
    by_cases hzero : s.engine.pruneIntervalSeconds = 0 <;>
    simp [hspan, hzero, Breakdown.isFatal]

end Settings

theorem LivenessSettings.stalenessSeconds?_eq_some_iff {s : LivenessSettings} {n : Nat} :
    s.stalenessSeconds? = some n ↔
      s.stalenessThresholdSeconds ≤ maxThresholdSeconds ∧ s.stalenessThresholdSeconds = n := by
  simp [stalenessSeconds?]

/-- To cut the threshold to the largest signed number of 64 bits changes nothing: what is cut is too
long all the same. -/
theorem LivenessSettings.stalenessSeconds?_cut (s : LivenessSettings) :
    ({ s with stalenessThresholdSeconds := min s.stalenessThresholdSeconds 9223372036854775807 } :
      LivenessSettings).stalenessSeconds? = s.stalenessSeconds? := by
  unfold stalenessSeconds? maxThresholdSeconds
  grind

namespace CommandLine

variable {text : String} {url : Option String} {accepted settings : Settings}

theorem Invocation.settings_eq (haccepted : Settings.ofText text = .ok accepted)
    (hsettings : accepted.applyOverride url = .ok settings) (i : Invocation) :
    i.settings (.ok text.toUTF8) url =
      .ok { settings with httpPort := i.port.getD settings.httpPort } := by
  have hread : Settings.ofBytes text.toUTF8 = .ok accepted := by
    rw [Settings.ofBytes, Text.Utf8.strict_toUTF8]
    exact haccepted
  simp only [Invocation.settings, Except.mapError, bind, Except.bind, hread, hsettings]
  rfl

/-- Whether the program comes up is up to the staleness threshold alone; a routine that breaks does
not keep it from coming up. -/
theorem Invocation.start_eq (haccepted : Settings.ofText text = .ok accepted)
    (hsettings : accepted.applyOverride url = .ok settings) (i : Invocation) :
    i.start (.ok text.toUTF8) url =
      if settings.liveness.stalenessThresholdSeconds ≤ LivenessSettings.maxThresholdSeconds then
        .ready i.logFormat { settings with httpPort := i.port.getD settings.httpPort }
      else .brokenDown i.logFormat { settings with httpPort := i.port.getD settings.httpPort } := by
  have hfatal := (Settings.of_applyOverride hsettings).1.isFatal_breakdowns_iff
  have hport (port : Nat) :
      ({ settings with httpPort := port } : Settings).breakdowns = settings.breakdowns := rfl
  simp only [Invocation.start, settings_eq haccepted hsettings, hport, hfatal, ite_not]

end CommandLine

/-- Whatever text is accepted as settings, and whatever overrides the backend's address: the watch
never breaks when the service starts, and nothing does unless the staleness threshold is too long or
the interval of pruning is zero. The first keeps the program from coming up, the second does not. -/
theorem accepted_settings_start_iff {text : String} {url : Option String}
    {accepted settings : Settings} (haccepted : Settings.ofText text = .ok accepted)
    (hsettings : accepted.applyOverride url = .ok settings) :
    let threshold := accepted.liveness.stalenessThresholdSeconds
    let interval := accepted.engine.pruneIntervalSeconds
    (settings.liveness.stalenessSeconds? = some threshold ↔
      threshold ≤ LivenessSettings.maxThresholdSeconds) ∧
    Routine.CanTurn (Routine.watch.periodSeconds settings) ∧
    (Routine.CanTurn (Routine.prune.periodSeconds settings) ↔ interval ≠ 0) ∧
    (settings.breakdowns = [] ↔
      threshold ≤ LivenessSettings.maxThresholdSeconds ∧ interval ≠ 0) ∧
    ∀ i : CommandLine.Invocation, i.start (.ok text.toUTF8) url =
      if threshold ≤ LivenessSettings.maxThresholdSeconds then
        .ready i.logFormat { settings with httpPort := i.port.getD settings.httpPort }
      else .brokenDown i.logFormat { settings with httpPort := i.port.getD settings.httpPort } := by
  intro threshold interval
  obtain ⟨hsound, heq⟩ := Settings.of_applyOverride hsettings
  have hthreshold : settings.liveness.stalenessThresholdSeconds = threshold := by rw [heq]; rfl
  have hinterval : settings.engine.pruneIntervalSeconds = interval := by rw [heq]; rfl
  refine ⟨?_, hsound.canTurn_watch, ?_, ?_, fun i => ?_⟩
  · rw [LivenessSettings.stalenessSeconds?_eq_some_iff, hthreshold]
    exact and_iff_left rfl
  · rw [Settings.canTurn_prune_iff, hinterval]
  · rw [hsound.breakdowns_eq_nil_iff, hthreshold, hinterval]
  · rw [CommandLine.Invocation.start_eq haccepted hsettings, hthreshold]

def plainText : String :=
  "http_port = 0\n[backend]\nurl = \"http://backend:5800\"\n" ++
    "[agent]\nrun_command = \"./save-agent\"\norchestrator_url = \"http://orchestrator:5100\"\n"

def plainSettings : Settings where
  httpPort := 0
  backend := { url := "http://backend:5800" }
  agent := { runCommand := "./save-agent", orchestratorUrl := "http://orchestrator:5100" }

/-- Without an interval for pruning the program comes up, but nothing is pruned. -/
theorem accepted_settings_start_iff_noPruning :
    let text := plainText ++ "[docker]\nprune_interval_seconds = 0\n"
    let accepted : Settings := { plainSettings with engine := { pruneIntervalSeconds := 0 } }
    let settings := accepted.withBackendUrl "https://other-backend:9000"
    Settings.ofText text = .ok accepted ∧
    accepted.applyOverride (some "https://other-backend:9000/") = .ok settings ∧
    ¬ Routine.CanTurn (Routine.prune.periodSeconds settings) ∧
    CommandLine.Invocation.start ⟨"service.toml", .text, none⟩ (.ok text.toUTF8)
      (some "https://other-backend:9000/") = .ready .text settings := by
  intro text accepted settings
  have haccepted : Settings.ofText text = .ok accepted := by decide +kernel
  have hsettings : accepted.applyOverride (some "https://other-backend:9000/") = .ok settings := by
    decide +kernel
  obtain ⟨-, -, hprune, -, hstart⟩ := accepted_settings_start_iff haccepted hsettings
  exact ⟨haccepted, hsettings, fun h => hprune.mp h rfl, hstart ⟨"service.toml", .text, none⟩⟩

/-- With a threshold that is no span of time the settings are accepted, and the program does not
come up. -/
theorem accepted_threshold_breaks_start :
    let text := plainText ++ "[liveness]\nstaleness_threshold_seconds = 9223372036854776\n"
    ∃ settings, Settings.ofText text = .ok settings ∧ settings.applyOverride none = .ok settings ∧
      settings.breakdowns = [.staleness] ∧
      CommandLine.Invocation.start ⟨"service.toml", .text, none⟩ (.ok text.toUTF8) none =
        .brokenDown .text settings := by
  intro text
  let settings : Settings :=
    { plainSettings with liveness := { stalenessThresholdSeconds := 9223372036854776 } }
  have haccepted : Settings.ofText text = .ok settings := by decide +kernel
  have hsettings : settings.applyOverride none = .ok settings :=
    (Settings.Sound.of_ofText haccepted).checked
  exact ⟨settings, haccepted, hsettings, by decide +kernel,
    CommandLine.Invocation.start_eq haccepted hsettings ⟨"service.toml", .text, none⟩⟩

end AgentFleet
