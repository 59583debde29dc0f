import Mathlib.Data.Nat.Find
import AgentFleet.Proofs.Engine.Session

/-!
Sessions with an engine that follows a script: the outcome of each command is fixed in advance. So
the script alone tells which commands are run when the containers of an execution are created, and
what comes of it.
-/

namespace AgentFleet.Engine

open Procedure

abbrev Script := Nat → Except String Output

namespace Script

/-- What a procedure comes to, and the commands that it runs; the first of them has the `n`-th
outcome. -/
def play {α : Type} (script : Script) :
    Procedure Request Request.Answer α → Nat → α × List Command
  | .done a, _ => (a, [])
  | .ask (.run c) next, n =>
    let (a, ran) := script.play (next (script n)) (n + 1)
    (a, c :: ran)
  | .ask (.pause _) next, n => script.play (next ()) n

/-- The command was run, and did what it was to do. -/
def Succeeds (script : Script) (i : Nat) : Prop :=
  ∃ output, script i = .ok output ∧ output.success = true

def shown (script : Script) (i : Nat) : List ContainerId :=
  match script i with
  | .ok output => ((Text.lines output.stdout).filter (¬ Text.IsBlank ·)).map Text.trim
  | .error _ => []

variable {script : Script} {s : EngineSettings} {e : ExecutionId} {c : Command} {i n : Nat}

theorem Succeeds.exists_output (h : script.Succeeds i) : ∃ output, script i = .ok output ∧
    names output.stdout = script.shown i ∧
    ∀ c, Session.checkedResult s c (script i) = .ok output := by
  obtain ⟨output, heq, hsuccess⟩ := h
  refine ⟨output, heq, ?_, fun c => ?_⟩
  · simp only [names, shown, heq]
    rw [List.filter_map]
    refine congrArg (List.map Text.trim) (List.filter_congr fun line _ => ?_)
    simp [Text.trim_eq_empty_iff]
  · simp [Session.checkedResult, heq, hsuccess]

theorem exists_fault (h : ¬ script.Succeeds i) (c : Command) :
    ∃ fault, Session.checkedResult s c (script i) = .error fault := by
  cases heq : script i with
  | error reason => exact ⟨_, rfl⟩
  | ok output =>
    have hsuccess : output.success ≠ true := fun hsuccess => h ⟨output, heq, hsuccess⟩
    exact ⟨_, by simp only [Session.checkedResult, hsuccess]; rfl⟩

/-! ### Commands in a row -/

section Row

variable {α : Type} {cs : List Command} {fault : Fault}

theorem forall_from_succ {P : Nat → Prop} {m : Nat} (h : ∀ i < m + 1, P (n + i)) :
    P n ∧ ∀ i < m, P (n + 1 + i) := by
  refine ⟨h 0 (Nat.succ_pos m), fun i hi => ?_⟩
  have hnext : P (n + (i + 1)) := h (i + 1) (Nat.succ_lt_succ hi)
  rwa [← Nat.add_assoc, Nat.add_right_comm] at hnext

theorem play_execChecked_bind (script : Script) (s : EngineSettings) (c : Command)
    (f : Output → Session α) (n : Nat) :
    script.play (Session.execChecked s c >>= f).run n =
      match Session.checkedResult s c (script n) with
      | .ok output =>
        let (a, ran) := script.play (f output).run (n + 1)
        (a, c :: ran)
      | .error fault => (.error fault, [c]) := by
  rw [ExceptT.run_bind, Session.run_execChecked, ask_bind, play]
  simp only [done_bind]
  cases Session.checkedResult s c (script n) <;> rfl

/-- Runs commands one after another; all of them have to succeed. -/
def execAll (s : EngineSettings) : List Command → Session Unit
  | [] => pure ()
  | c :: cs => do
    let _ ← Session.execChecked s c
    execAll s cs

theorem play_execAll_bind {g : Unit → Session α}
    (h : ∀ i < cs.length, script.Succeeds (n + i)) :
    script.play (execAll s cs >>= g).run n =
      let (a, ran) := script.play (g ()).run (n + cs.length)
      (a, cs ++ ran) := by
  induction cs generalizing n with
  | nil => rfl
  | cons c cs ih =>
    obtain ⟨hfirst, hrest⟩ := forall_from_succ h
    obtain ⟨output, -, -, hok⟩ := hfirst.exists_output (s := s)
    have hlength : n + (c :: cs).length = n + 1 + cs.length := by
      rw [List.length_cons, ← Nat.add_assoc, Nat.add_right_comm]
    rw [execAll, LawfulMonad.bind_assoc, play_execChecked_bind, hok, ih hrest, hlength]
    rfl

theorem play_execAll_bind_of_fails {g : Unit → Session α} {k : Nat}
    (h : ∀ i < k, script.Succeeds (n + i)) (hc : cs[k]? = some c)
    (hfault : Session.checkedResult s c (script (n + k)) = .error fault) :
    script.play (execAll s cs >>= g).run n = (.error fault, cs.take (k + 1)) := by
  induction cs generalizing n k with
  | nil => simp at hc
  | cons d cs ih =>
    rw [execAll, LawfulMonad.bind_assoc, play_execChecked_bind]
    cases k with
    | zero =>
      obtain rfl : d = c := by simpa using hc
      rw [Nat.add_zero] at hfault
      simp [hfault]
    | succ k =>
      obtain ⟨hfirst, hrest⟩ := forall_from_succ h
      obtain ⟨output, -, -, hok⟩ := hfirst.exists_output (s := s)
      rw [← Nat.add_assoc, Nat.add_right_comm] at hfault
      rw [hok, ih hrest (by simpa using hc) hfault]
      simp

end Row

/-! ### Looks for containers -/

section Looks

variable {attempts : Nat}

def unobserved (s : EngineSettings) (e : ExecutionId) : Fault :=
  runnerFault ("no containers observed for execution " ++ e ++ " after "
    ++ toString s.createPollAttempts ++ " attempts")

theorem play_awaitContainers_zero (script : Script) (s : EngineSettings) (e : ExecutionId)
    (n : Nat) :
    script.play (Session.awaitContainers s e 0).run n = (.error (unobserved s e), []) := rfl

theorem play_awaitContainers (script : Script) (s : EngineSettings) (e : ExecutionId)
    (attempts n : Nat) :
    script.play (Session.awaitContainers s e (attempts + 1)).run n =
      match Session.checkedResult s (listContainers e true) (script n) with
      | .ok output =>
        if names output.stdout ≠ [] then (.ok (names output.stdout), [listContainers e true])
        else
          let (result, ran) := script.play (Session.awaitContainers s e attempts).run (n + 1)
          (result, listContainers e true :: ran)
      | .error fault => (.error fault, [listContainers e true]) := by
  rw [Session.awaitContainers, Session.containers, LawfulMonad.bind_assoc, play_execChecked_bind]
  cases Session.checkedResult s (listContainers e true) (script n) with
  | error fault => rfl
  | ok output =>
    by_cases hnone : names output.stdout = []
    · simp only [pure_bind, hnone, ne_eq, not_true, reduceIte]
      rfl
    · simp only [pure_bind, hnone, ne_eq, not_false_eq_true, reduceIte]
      rfl

theorem play_awaitContainers_of_blank (hsuccess : script.Succeeds n)
    (hblank : script.shown n = []) :
    script.play (Session.awaitContainers s e (attempts + 1)).run n =
      let (result, ran) := script.play (Session.awaitContainers s e attempts).run (n + 1)
      (result, listContainers e true :: ran) := by
  obtain ⟨output, -, hnames, hok⟩ := hsuccess.exists_output (s := s)
  rw [play_awaitContainers, hok]
  simp [hnames, hblank]

theorem play_awaitContainers_of_shown (hsuccess : script.Succeeds n)
    (hshown : script.shown n ≠ []) :
    script.play (Session.awaitContainers s e (attempts + 1)).run n =
      (.ok (script.shown n), [listContainers e true]) := by
  obtain ⟨output, -, hnames, hok⟩ := hsuccess.exists_output (s := s)
  rw [play_awaitContainers, hok]
  simp [hnames, hshown]

theorem play_awaitContainers_of_blanks (m : Nat)
    (h : ∀ i < m, script.Succeeds (n + i) ∧ script.shown (n + i) = []) :
    script.play (Session.awaitContainers s e (m + attempts)).run n =
      let (result, ran) := script.play (Session.awaitContainers s e attempts).run (n + m)
      (result, List.replicate m (listContainers e true) ++ ran) := by
  induction m generalizing n with
  | zero => simp
  | succ m ih =>
    obtain ⟨⟨hsuccess, hblank⟩, hrest⟩ :=
      forall_from_succ (P := fun i => script.Succeeds i ∧ script.shown i = []) h
    have hlength : n + (m + 1) = n + 1 + m := by rw [← Nat.add_assoc, Nat.add_right_comm]
    rw [Nat.add_right_comm, play_awaitContainers_of_blank hsuccess hblank, ih hrest, hlength]
    simp [List.replicate_succ]

end Looks

/-! ### Creating containers -/

section Creation

variable (s : EngineSettings) (e : ExecutionId) (plan : ContainerPlan) (suffix : Nat → String)
  (replicas : Nat)

def setup : List Command :=
  createVolume e plan :: (List.range replicas).reverse.map fun n =>
    createContainer e (containerName e (suffix n)) plan s.network

/-- All that is run if nothing fails and no container is ever shown. -/
def steps : List Command :=
  setup s e plan suffix replicas ++ List.replicate s.createPollAttempts (listContainers e true)

/-- A command behind which it goes on: it succeeds, and if it lists containers, there are none. -/
def Passes (script : Script) (replicas i : Nat) : Prop :=
  script.Succeeds i ∧ (replicas < i → script.shown i = [])

/-- How the creation of containers ends under a script, and which commands it has run by then. -/
inductive Creates (script : Script) : Except Fault (List ContainerId) → List Command → Prop
  /-- A command fails, after which none is run. -/
  | failed {k : Nat} {c : Command} {fault : Fault} (before : ∀ i < k, script.Passes replicas i)
      (step : (steps s e plan suffix replicas)[k]? = some c)
      (failure : Session.checkedResult s c (script k) = .error fault) :
      Creates script (.error fault) ((steps s e plan suffix replicas).take (k + 1))
  /-- All succeed, and after `k` lists without a container the next one shows some. -/
  | shown {k : Nat} (inTime : k < s.createPollAttempts)
      (before : ∀ i < replicas + 1 + k, script.Passes replicas i)
      (success : script.Succeeds (replicas + 1 + k))
      (containers : script.shown (replicas + 1 + k) ≠ []) :
      Creates script (.ok (script.shown (replicas + 1 + k)))
        (setup s e plan suffix replicas ++ List.replicate (k + 1) (listContainers e true))
  /-- All succeed, and no list shows a container. -/
  | nothing (before : ∀ i < replicas + 1 + s.createPollAttempts, script.Passes replicas i) :
      Creates script (.error (unobserved s e)) (steps s e plan suffix replicas)

variable {s e plan suffix replicas}

@[simp] theorem length_setup : (setup s e plan suffix replicas).length = replicas + 1 := by
  simp [setup]

theorem createReplicas_eq : Session.createReplicas s e plan suffix replicas =
    execAll s ((List.range replicas).reverse.map fun n =>
      createContainer e (containerName e (suffix n)) plan s.network) := by
  induction replicas with
  | zero => rfl
  | succ n ih =>
    rw [Session.createReplicas, ih, List.range_succ, List.reverse_append]
    rfl

theorem create_eq : Session.create s e plan suffix replicas =
    execAll s (setup s e plan suffix replicas) >>= fun _ =>
      Session.awaitContainers s e s.createPollAttempts := by
  rw [Session.create, createReplicas_eq, setup, execAll, LawfulMonad.bind_assoc]

theorem play_create_of_blanks {m : Nat} (rest : Nat) (hm : m + rest = s.createPollAttempts)
    (h : ∀ i < replicas + 1 + m, script.Passes replicas i) :
    script.play (Session.create s e plan suffix replicas).run 0 =
      let (result, ran) :=
        script.play (Session.awaitContainers s e rest).run (replicas + 1 + m)
      (result, setup s e plan suffix replicas ++
        (List.replicate m (listContainers e true) ++ ran)) := by
  have hsetup : ∀ i < (setup s e plan suffix replicas).length, script.Succeeds (0 + i) := by
    intro i hi
    rw [length_setup] at hi
    rw [Nat.zero_add]
    exact (h i (by omega)).1
  have hlooks : ∀ i < m,
      script.Succeeds (replicas + 1 + i) ∧ script.shown (replicas + 1 + i) = [] := by
    intro i hi
    obtain ⟨hsuccess, hblank⟩ := h (replicas + 1 + i) (by omega)
    exact ⟨hsuccess, hblank (by omega)⟩
  rw [create_eq, play_execAll_bind hsetup, Nat.zero_add, length_setup, ← hm,
    play_awaitContainers_of_blanks m hlooks]

theorem take_steps {m : Nat} (hm : m ≤ s.createPollAttempts) :
    (steps s e plan suffix replicas).take (replicas + 1 + m) =
      setup s e plan suffix replicas ++ List.replicate m (listContainers e true) := by
  have hlength : (setup s e plan suffix replicas).length = replicas + 1 := length_setup
  rw [steps, ← hlength, List.take_length_add_append, List.take_replicate, Nat.min_eq_left hm]

theorem Creates.play_eq {result : Except Fault (List ContainerId)} {ran : List Command}
    (h : Creates s e plan suffix replicas script result ran) :
    script.play (Session.create s e plan suffix replicas).run 0 = (result, ran) := by
  cases h with
  | @failed k c fault before step failure =>
    by_cases hk : k < replicas + 1
    · have hstep : (setup s e plan suffix replicas)[k]? = some c := by
        rwa [steps, List.getElem?_append_left (by simpa using hk)] at step
      have hbefore : ∀ i < k, script.Succeeds (0 + i) := by
        intro i hi
        rw [Nat.zero_add]
        exact (before i hi).1
      rw [create_eq, play_execAll_bind_of_fails hbefore hstep (by rwa [Nat.zero_add]), steps,
        List.take_append_of_le_length (by rw [length_setup]; exact hk)]
    · obtain ⟨m, rfl⟩ := Nat.exists_eq_add_of_le (Nat.le_of_not_lt hk)
      have hlook : m < s.createPollAttempts ∧ listContainers e true = c := by
        rw [steps, List.getElem?_append_right (by simp)] at step
        simpa [List.getElem?_replicate] using step
      obtain ⟨hm, rfl⟩ := hlook
      obtain ⟨rest, hrest⟩ := Nat.exists_eq_add_of_lt hm
      rw [play_create_of_blanks (rest + 1) (by omega) before, play_awaitContainers,
        failure, Nat.add_assoc _ m, take_steps hm, List.replicate_succ']
  | @shown k inTime before success containers =>
    obtain ⟨rest, hrest⟩ := Nat.exists_eq_add_of_lt inTime
    rw [play_create_of_blanks (rest + 1) (by omega) before,
      play_awaitContainers_of_shown success containers, List.replicate_succ']
  | nothing before =>
    rw [play_create_of_blanks 0 rfl before, play_awaitContainers_zero, steps]
    simp only [List.append_nil]

theorem exists_creates (s : EngineSettings) (e : ExecutionId) (plan : ContainerPlan)
    (suffix : Nat → String) (replicas : Nat) (script : Script) :
    ∃ result ran, Creates s e plan suffix replicas script result ran := by
  classical
  by_cases hall : ∀ i < replicas + 1 + s.createPollAttempts, script.Passes replicas i
  · exact ⟨_, _, .nothing hall⟩
  · have hfirst : ∃ i, i < replicas + 1 + s.createPollAttempts ∧ ¬ script.Passes replicas i := by
      simpa using hall
    obtain ⟨hlt, hstop⟩ := Nat.find_spec hfirst
    have hbefore : ∀ i < Nat.find hfirst, script.Passes replicas i := by
      intro i hi
      have hmin := Nat.find_min hfirst hi
      simp only [not_and, not_not] at hmin
      exact hmin (hi.trans hlt)
    generalize Nat.find hfirst = k at hlt hstop hbefore
    by_cases hsuccess : script.Succeeds k
    · have hshown : replicas < k ∧ script.shown k ≠ [] := by
        simpa [Passes, hsuccess] using hstop
      obtain ⟨hlook, hshown⟩ := hshown
      obtain ⟨m, rfl⟩ := Nat.exists_eq_add_of_le (Nat.succ_le_of_lt hlook)
      exact ⟨_, _, .shown (by omega) hbefore hsuccess hshown⟩
    · have hstep : k < (steps s e plan suffix replicas).length := by simpa [steps] using hlt
      obtain ⟨fault, hfault⟩ := exists_fault (s := s) hsuccess
        ((steps s e plan suffix replicas)[k])
      exact ⟨_, _, .failed hbefore (List.getElem?_eq_getElem hstep) hfault⟩

end Creation

end Script

/-- Under any script, what creating the containers of an execution comes to, and which commands are
run for it. It succeeds in just one case: all commands do, and one of the lists that are asked for
in time shows containers; they are those of the first such list. -/
theorem creation_follows_script (s : EngineSettings) (e : ExecutionId) (plan : ContainerPlan)
    (suffix : Nat → String) (replicas : Nat) (script : Script) :
    (∀ result ran,
      script.play (Session.create s e plan suffix replicas).run 0 = (result, ran) ↔
        script.Creates s e plan suffix replicas result ran) ∧
    ∀ ids, (script.play (Session.create s e plan suffix replicas).run 0).1 = .ok ids ↔
      ∃ k < s.createPollAttempts, (∀ i ≤ replicas + 1 + k, script.Succeeds i) ∧
        (∀ j < k, script.shown (replicas + 1 + j) = []) ∧
        script.shown (replicas + 1 + k) = ids ∧ ids ≠ [] := by
  obtain ⟨result, ran, hcreates⟩ := Script.exists_creates s e plan suffix replicas script
  have hplay := hcreates.play_eq
  constructor
  · intro result' ran'
    constructor
    · intro hplay'
      rw [hplay] at hplay'
      cases hplay'
      exact hcreates
    · intro hcreates'
      exact hcreates'.play_eq
  · intro ids
    constructor
    · intro hids
      rw [hplay] at hids
      change result = .ok ids at hids
      subst hids
      cases hcreates with
      | @shown k inTime before success containers =>
        refine ⟨k, inTime, fun i hi => ?_, fun j hj => ?_, rfl, containers⟩
        · rcases Nat.lt_or_eq_of_le hi with hlt | rfl
          · exact (before i hlt).1
          · exact success
        · exact (before _ (by omega)).2 (by omega)
    · rintro ⟨k, hk, hsucceed, hblank, rfl, hshown⟩
      have hbefore : ∀ i < replicas + 1 + k, script.Passes replicas i := by
        intro i hi
        refine ⟨hsucceed i hi.le, fun hlook => ?_⟩
        obtain ⟨j, rfl⟩ := Nat.exists_eq_add_of_le (Nat.succ_le_of_lt hlook)
        exact hblank j (by omega)
      rw [(Script.Creates.shown hk hbefore (hsucceed _ le_rfl) hshown).play_eq]

end AgentFleet.Engine
