import Mathlib.Data.List.Nodup
import AgentFleet.Engine.Command
import AgentFleet.Proofs.Wire.Records

/-!
How the engine reads the call that creates a container: some options have a value of their own, what
is neither an option nor such a value is the image, and all behind it is the command. What is read
is what a request chose, unless the image that it names looks like an option.
-/

namespace AgentFleet.Engine

structure CreateCall where
  /-- Options with their values, in order. -/
  settings : List (String × String)
  /-- Options that stand alone. -/
  flags : List String
  image : String
  command : List String
  deriving DecidableEq, Repr

namespace CreateCall

/-- The options whose values are arguments of their own. -/
def valued : List String := ["--name", "--label", "--workdir", "--env", "--volume", "--hostname"]

def IsOption (argument : String) : Prop := argument.toList.head? = some '-'

instance (argument : String) : Decidable (IsOption argument) :=
  inferInstanceAs (Decidable (_ = _))

def after (settings : List (String × String)) (flags : List String) (call : CreateCall) :
    CreateCall :=
  { call with settings := settings ++ call.settings, flags := flags ++ call.flags }

def read : List String → Option CreateCall
  | [] => none
  | argument :: rest =>
    if argument ∈ valued then
      match rest with
      | [] => none
      | value :: rest => (read rest).map (after [(argument, value)] [])
    else if IsOption argument then (read rest).map (after [] [argument])
    else some ⟨[], [], argument, rest⟩

def valuesOf (settings : List (String × String)) (name : String) : List String :=
  settings.filterMap fun setting => if setting.1 = name then some setting.2 else none

/-- A variable with the value that it is given behind the first equals sign. -/
def assignment? (value : String) : Option (String × String) :=
  match value.toList.dropWhile (· ≠ '=') with
  | [] => none
  | _ :: rest => some (String.ofList (value.toList.takeWhile (· ≠ '=')), String.ofList rest)

/-- The variables that are set; of several values of one variable the last one stands. -/
def environment (call : CreateCall) : Environment :=
  (∅ : Environment).insertMany ((valuesOf call.settings "--env").filterMap assignment?)

end CreateCall

def Command.created? : Command → Option CreateCall
  | "create" :: arguments => CreateCall.read arguments
  | _ => none

namespace CreateCall

variable {args args' : List String} {settings settings' : List (String × String)}
  {flags flags' : List String}

/-! ### Reading -/

theorem isOption_of_mem_valued : ∀ name ∈ valued, IsOption name := by decide +kernel

theorem not_mem_valued {argument : String} (h : '=' ∈ argument.toList) : argument ∉ valued :=
  have hplain : ∀ name ∈ valued, '=' ∉ name.toList := by decide +kernel
  fun hmem => hplain argument hmem h

theorem read_setting {name : String} (h : name ∈ valued) (value : String) (rest : List String) :
    read (name :: value :: rest) = (read rest).map (after [(name, value)] []) := by
  rw [read.eq_def]
  exact if_pos h

theorem read_flag {argument : String} (hvalued : argument ∉ valued) (hoption : IsOption argument)
    (rest : List String) :
    read (argument :: rest) = (read rest).map (after [] [argument]) := by
  rw [read.eq_def]
  exact (if_neg hvalued).trans (if_pos hoption)

theorem read_image {image : String} (h : ¬ IsOption image) (command : List String) :
    read (image :: command) = some ⟨[], [], image, command⟩ := by
  rw [read.eq_def]
  exact (if_neg fun hvalued => h (isOption_of_mem_valued image hvalued)).trans (if_neg h)

/-- Whatever is read, the image is no option, and only the options above have values. -/
theorem wellFormed_of_read {call : CreateCall} (h : read args = some call) :
    ¬ IsOption call.image ∧ ∀ setting ∈ call.settings, setting.1 ∈ valued := by
  fun_induction read args generalizing call with
  | case1 => cases h
  | case2 => cases h
  | case3 name hvalued value rest ih =>
    obtain ⟨call, hrest, rfl⟩ := Option.map_eq_some_iff.mp h
    exact ⟨(ih hrest).1, List.forall_mem_cons.mpr ⟨hvalued, (ih hrest).2⟩⟩
  | case4 argument rest hvalued hoption ih =>
    obtain ⟨call, hrest, rfl⟩ := Option.map_eq_some_iff.mp h
    exact ⟨(ih hrest).1, (ih hrest).2⟩
  | case5 argument rest hvalued hoption =>
    obtain rfl := Option.some.inj h
    exact ⟨hoption, List.forall_mem_nil _⟩

/-- The arguments are options, and say this whatever is behind them. -/
def Says (args : List String) (settings : List (String × String)) (flags : List String) : Prop :=
  ∀ rest, read (args ++ rest) = (read rest).map (after settings flags)

theorem says_nil : Says [] [] [] := fun _ => Option.map_id.symm ▸ rfl

theorem Says.append (h : Says args settings flags) (h' : Says args' settings' flags') :
    Says (args ++ args') (settings ++ settings') (flags ++ flags') := by
  intro rest
  rw [List.append_assoc, h, h', Option.map_map]
  congr 1
  funext call
  simp [after]

theorem says_setting (name value : String) (h : name ∈ valued) :
    Says [name, value] [(name, value)] [] := read_setting h value

theorem says_flag {argument : String} (hvalued : argument ∉ valued)
    (hoption : IsOption argument) : Says [argument] [] [argument] := read_flag hvalued hoption

theorem says_option (name : String) (value : Option String) (h : IsOption name) :
    Says (option name value) [] (option name value) := by
  cases value with
  | none => exact says_nil
  | some value =>
    refine says_flag (not_mem_valued (by simp)) ?_
    rw [IsOption, String.toList_append, String.toList_append, List.append_assoc,
      List.head?_append, h]
    rfl

/-! ### What is read from the call for a plan -/

section Plan

variable (e : ExecutionId) (name : String) (plan : ContainerPlan) (network : Option String)

def fixedSettings : List (String × String) :=
  [("--name", name), ("--label", managedLabel), ("--label", executionLabel e),
    ("--workdir", plan.workingDir), ("--env", agentIdVariable ++ "=" ++ name),
    ("--volume", plan.volume.name ++ ":" ++ plan.volume.mountPath)]

def hostSetting : List (String × String) :=
  if name.utf8ByteSize ≤ maxHostname then [("--hostname", name)] else []

def envSettings (values : List (String × String)) : List (String × String) :=
  values.map fun (key, value) => ("--env", key ++ "=" ++ value)

def planSettings : List (String × String) :=
  fixedSettings e name plan ++ hostSetting name ++ envSettings plan.env.toList

def planFlags : List String :=
  option "--memory" plan.resources.memory ++ option "--cpus" plan.resources.cpu
  ++ option "--network" network

theorem says_fixedSettings :
    Says ["--name", name, "--label", managedLabel, "--label", executionLabel e,
      "--workdir", plan.workingDir, "--env", agentIdVariable ++ "=" ++ name,
      "--volume", plan.volume.name ++ ":" ++ plan.volume.mountPath]
      (fixedSettings e name plan) [] :=
  (says_setting _ _ (by decide)).append <| (says_setting _ _ (by decide)).append <|
    (says_setting _ _ (by decide)).append <| (says_setting _ _ (by decide)).append <|
    (says_setting _ _ (by decide)).append <| says_setting _ _ (by decide)

theorem says_hostSetting :
    Says (if name.utf8ByteSize ≤ maxHostname then ["--hostname", name] else [])
      (hostSetting name) [] := by
  unfold hostSetting
  split
  · exact says_setting _ _ (by decide)
  · exact says_nil

theorem says_envSettings (values : List (String × String)) :
    Says (values.flatMap fun (key, value) => ["--env", key ++ "=" ++ value])
      (envSettings values) [] := by
  induction values with
  | nil => exact says_nil
  | cons x values ih => exact (says_setting _ _ (by decide)).append ih

theorem says_planFlags : Says (planFlags plan network) [] (planFlags plan network) :=
  ((says_option _ _ (by decide)).append (says_option _ _ (by decide))).append
    (says_option _ _ (by decide))

theorem created?_createContainer :
    (createContainer e name plan network).created? =
      (read [plan.image, "sh", "-c", plan.runCommand]).map
        (after (planSettings e name plan) (planFlags plan network)) := by
  have hoptions := (((says_fixedSettings e name plan).append (says_hostSetting name)).append
    (says_planFlags plan network)).append (says_envSettings plan.env.toList)
  simpa [createContainer, Command.created?, planSettings, planFlags] using
    hoptions [plan.image, "sh", "-c", plan.runCommand]

variable {plan}

theorem created?_of_image (h : ¬ IsOption plan.image) :
    (createContainer e name plan network).created? = some ⟨planSettings e name plan,
      planFlags plan network, plan.image, ["sh", "-c", plan.runCommand]⟩ := by
  rw [created?_createContainer, read_image h, Option.map_some, after, List.append_nil,
    List.append_nil]

/-- An image that looks like an option is taken for one, and the shell for the image. -/
theorem created?_of_flag (hvalued : plan.image ∉ valued) (hoption : IsOption plan.image) :
    (createContainer e name plan network).created? = some ⟨planSettings e name plan,
      planFlags plan network ++ [plan.image], "sh", ["-c", plan.runCommand]⟩ := by
  rw [created?_createContainer, read_flag hvalued hoption, read_image (by decide +kernel),
    Option.map_some, Option.map_some, after, after, List.append_nil, List.append_nil,
    List.append_nil]

end Plan

/-! ### What the options amount to -/

theorem assignment?_append {key : String} (h : '=' ∉ key.toList) (value : String) :
    assignment? (key ++ "=" ++ value) = some (key, value) := by
  have hkey : ∀ c ∈ key.toList, decide (c ≠ '=') = true := fun c hc =>
    decide_eq_true fun heq => h (heq ▸ hc)
  have hall : (key ++ "=" ++ value).toList = key.toList ++ '=' :: value.toList := by simp
  rw [assignment?, hall, List.dropWhile_append_of_pos hkey, List.takeWhile_append_of_pos hkey]
  simp

/-- A variable that is set first keeps its value if it is not among those that are set later. -/
theorem insertMany_insert {key : String} {env : Environment} (h : key ∉ env) (value : String) :
    ((∅ : Environment).insert key value).insertMany env.toList = env.insert key value := by
  refine Std.ExtTreeMap.ext_getElem? fun k => ?_
  cases hk : env[k]? with
  | some v =>
    have hne : key ≠ k := by
      rintro rfl
      exact h (Std.ExtTreeMap.mem_iff_isSome_getElem?.mpr (by rw [hk]; rfl))
    rw [Std.ExtTreeMap.getElem?_insertMany_list_of_mem Std.ReflCmp.compare_self
      Std.ExtTreeMap.distinct_keys_toList (Std.ExtTreeMap.mem_toList_iff_getElem?_eq_some.mpr hk),
      Std.ExtTreeMap.getElem?_insert]
    simp [hne, hk]
  | none =>
    rw [Std.ExtTreeMap.getElem?_insertMany_list_of_contains_eq_false,
      Std.ExtTreeMap.getElem?_insert, Std.ExtTreeMap.getElem?_insert, hk]
    · rfl
    · rw [Std.ExtTreeMap.map_fst_toList_eq_keys, Std.ExtTreeMap.contains_keys,
        Std.ExtTreeMap.contains_eq_isSome_getElem?, hk, Option.isSome_none]

@[simp] theorem valuesOf_nil (o : String) : valuesOf [] o = [] := rfl

@[simp] theorem valuesOf_cons (setting : String × String) (o : String) :
    valuesOf (setting :: settings) o =
      (if setting.1 = o then [setting.2] else []) ++ valuesOf settings o := by
  unfold valuesOf
  rw [List.filterMap_cons]
  split <;> simp_all

@[simp] theorem valuesOf_append (o : String) :
    valuesOf (settings ++ settings') o = valuesOf settings o ++ valuesOf settings' o :=
  List.filterMap_append

@[simp] theorem valuesOf_hostSetting (name o : String) : valuesOf (hostSetting name) o =
    if o = "--hostname" ∧ name.utf8ByteSize ≤ maxHostname then [name] else [] := by
  unfold hostSetting
  split <;> simp_all [eq_comm]

@[simp] theorem valuesOf_envSettings (env : List (String × String)) (o : String) :
    valuesOf (envSettings env) o =
      if o = "--env" then env.map fun (key, value) => key ++ "=" ++ value else [] := by
  induction env with
  | nil => simp [envSettings]
  | cons x env ih =>
    rw [envSettings, List.map_cons, valuesOf_cons, ← envSettings, ih]
    by_cases h : o = "--env" <;> simp [h, eq_comm]

theorem environment_eq {call : CreateCall} {name : String} {env : Environment}
    (hvalues : valuesOf call.settings "--env" = (agentIdVariable ++ "=" ++ name) ::
      env.toList.map fun (key, value) => key ++ "=" ++ value)
    (hplain : ∀ key ∈ env, '=' ∉ key.toList) (hagent : agentIdVariable ∉ env) :
    call.environment = env.insert agentIdVariable name := by
  have hassigned : (env.toList.map fun (key, value) => key ++ "=" ++ value).filterMap
      assignment? = env.toList := by
    rw [List.filterMap_map]
    refine (List.filterMap_congr fun x hx => ?_).trans List.filterMap_some
    have hmem : x.1 ∈ env := by
      rw [Std.ExtTreeMap.mem_iff_isSome_getElem?,
        Std.ExtTreeMap.mem_toList_iff_getElem?_eq_some.mp hx, Option.isSome_some]
    exact assignment?_append (hplain x.1 hmem) x.2
  rw [environment, hvalues, List.filterMap_cons, assignment?_append (by decide), hassigned,
    ← insertMany_insert hagent, Std.ExtTreeMap.insertMany_cons]

end CreateCall

end AgentFleet.Engine

namespace AgentFleet.LaunchRequest

def variableNames : List String :=
  ["SAVE_ORCHESTRATOR_URL", "SAVE_EXECUTION_ID", "SAVE_ORGANIZATION", "SAVE_PROJECT"]

theorem mem_variableNames_of_mem_env {r : LaunchRequest} {agent : AgentSettings} {key : String}
    (h : key ∈ r.env agent) : key ∈ variableNames := by
  obtain ⟨e, sdk, replicas, organization, project⟩ := r
  cases organization <;> cases project <;>
    simp only [env, Std.ExtTreeMap.mem_insert, Std.LawfulEqCmp.compare_eq_iff_eq,
      Std.ExtTreeMap.not_mem_empty] at h <;>
    grind [variableNames]

end AgentFleet.LaunchRequest

namespace AgentFleet.Engine.CreateCall

/-- All that a request has chosen is read from a call, and nothing else. -/
structure Recovers (call : CreateCall) (r : LaunchRequest) (agent : AgentSettings)
    (s : EngineSettings) (name : String) : Prop where
  image : call.image = r.image agent
  command : call.command = ["sh", "-c", agent.runCommand]
  named : valuesOf call.settings "--name" = [name]
  labels : valuesOf call.settings "--label" = [managedLabel, executionLabel r.executionId]
  workingDir : valuesOf call.settings "--workdir" = [agent.workingDir]
  volume : valuesOf call.settings "--volume" =
    [volumeName r.executionId ++ ":" ++ s.volumeMountPath]
  hostname : valuesOf call.settings "--hostname" =
    if name.utf8ByteSize ≤ maxHostname then [name] else []
  environment : call.environment = (r.env agent).insert agentIdVariable name
  others : ∀ setting ∈ call.settings, setting.1 ∈ valued
  flags : call.flags = option "--memory" agent.memoryLimit ++ option "--cpus" agent.cpuLimit
    ++ option "--network" s.network

theorem recovers_plan (r : LaunchRequest) (agent : AgentSettings) (s : EngineSettings)
    (name : String) :
    Recovers ⟨planSettings r.executionId name (r.plan agent s),
      planFlags (r.plan agent s) s.network, (r.plan agent s).image,
      ["sh", "-c", (r.plan agent s).runCommand]⟩ r agent s name where
  image := rfl
  command := rfl
  named := by simp [planSettings, fixedSettings]
  labels := by simp [planSettings, fixedSettings]
  workingDir := by simp [planSettings, fixedSettings, LaunchRequest.plan]
  volume := by simp [planSettings, fixedSettings, LaunchRequest.plan]
  hostname := by simp [planSettings, fixedSettings]
  environment := by
    refine environment_eq ?_ (fun key hkey => ?_) fun hmem => ?_
    · simp [planSettings, fixedSettings, LaunchRequest.plan]
    · have hplain : ∀ name ∈ LaunchRequest.variableNames, '=' ∉ name.toList := by decide +kernel
      exact hplain key (LaunchRequest.mem_variableNames_of_mem_env hkey)
    · exact absurd (LaunchRequest.mem_variableNames_of_mem_env hmem) (by decide)
  others := by
    have hfixed : ∀ setting ∈ fixedSettings r.executionId name (r.plan agent s),
        setting.1 ∈ valued := by
      simp [fixedSettings, valued]
    have hhost : ∀ setting ∈ hostSetting name, setting.1 ∈ valued := by
      unfold hostSetting
      split <;> simp [valued]
    have henv : ∀ setting ∈ envSettings (r.plan agent s).env.toList, setting.1 ∈ valued :=
      List.forall_mem_map.mpr fun _ _ => (by decide : "--env" ∈ valued)
    exact List.forall_mem_append.mpr ⟨List.forall_mem_append.mpr ⟨hfixed, hhost⟩, henv⟩
  flags := rfl

theorem head?_toLower {cs : List Char} (h : cs.head? = some '-') :
    (cs.map Char.toLower).head? = some '-' := by
  rw [List.head?_map, h]
  decide

/-- The chosen image looks like an option just if the request names such an image. -/
theorem isOption_image_iff {r : LaunchRequest} {agent : AgentSettings} {s : EngineSettings}
    (h : ¬ IsOption agent.defaultImage) :
    IsOption (r.plan agent s).image ↔ IsOption (Text.trim r.sdk) := by
  rw [LaunchRequest.plan, LaunchRequest.image]
  dsimp only
  split
  next hdefault =>
    refine iff_of_false h fun hoption => ?_
    rcases hdefault with hempty | hdefault
    · rw [hempty] at hoption
      exact absurd hoption (by decide)
    · have hlower : IsOption (Text.lowerAscii (Text.trim r.sdk)) := by
        rw [IsOption, Text.lowerAscii, String.toList_ofList]
        exact head?_toLower hoption
      rw [hdefault] at hlower
      exact absurd hlower (by decide)
  next => rfl

/-- What a request chose is read from the call that creates its containers, unless the image that it
names looks like an option. -/
theorem choices_recovered_iff {agent : AgentSettings} (h : ¬ IsOption agent.defaultImage)
    (r : LaunchRequest) (s : EngineSettings) (name : String) :
    (∃ call, (createContainer r.executionId name (r.plan agent s) s.network).created? =
        some call ∧ call.Recovers r agent s name) ↔
      ¬ IsOption (Text.trim r.sdk) := by
  rw [← isOption_image_iff (s := s) h]
  constructor
  · rintro ⟨call, hread, hrecovers⟩
    rw [LaunchRequest.plan, ← hrecovers.image]
    exact (wellFormed_of_read hread).1
  · exact fun himage => ⟨_, created?_of_image _ _ _ himage, recovers_plan r agent s name⟩

def plainAgent : AgentSettings where
  runCommand := "./save-agent"
  orchestratorUrl := "http://o:5100"

def sdkRequest (sdk : String) : LaunchRequest where
  executionId := "e"
  sdk := sdk
  replicas := 1
  organization := none
  project := none

theorem choices_recovered_iff_named :
    ¬ IsOption plainAgent.defaultImage ∧ ∃ call,
      (createContainer (sdkRequest " save:1 ").executionId "n"
        ((sdkRequest " save:1 ").plan plainAgent {}) ({} : EngineSettings).network).created? =
          some call ∧
      call.Recovers (sdkRequest " save:1 ") plainAgent {} "n" :=
  have h : ¬ IsOption plainAgent.defaultImage := by decide
  ⟨h, (choices_recovered_iff h (sdkRequest " save:1 ") {} "n").mpr (by decide +kernel)⟩

/-- A request that is accepted, but its image is taken for an option. -/
theorem named_image_taken_for_option :
    (sdkRequest "--privileged").check = .ok () ∧ ¬ IsOption plainAgent.defaultImage ∧
    ∃ call, (createContainer (sdkRequest "--privileged").executionId "n"
        ((sdkRequest "--privileged").plan plainAgent {}) ({} : EngineSettings).network).created? =
          some call ∧
      call.image = "sh" ∧ "--privileged" ∈ call.flags ∧
      ¬ call.Recovers (sdkRequest "--privileged") plainAgent {} "n" := by
  have himage : ((sdkRequest "--privileged").plan plainAgent {}).image = "--privileged" := by
    decide +kernel
  refine ⟨by decide +kernel, by decide, _, created?_of_flag _ _ _ ?_ ?_, rfl, ?_, fun h => ?_⟩
  · rw [himage]
    decide
  · rw [himage]
    decide
  · rw [himage]
    exact List.mem_append_right _ (List.mem_singleton_self _)
  · exact absurd (h.image.trans himage) (by decide)

end AgentFleet.Engine.CreateCall
