import AgentFleet.Proofs.Fleet.Accounting
import AgentFleet.Proofs.Tracker.Effect

/-!
How patient a supervision is. Sleepers are woken just when they are due, and a look at a container
is answered at once; apart from that anything may go on around the supervision, and may change the
memory before each of its questions. The container is looked at once in each interval, until a look
tells that it has stopped or the looks or the time run out.
-/

namespace AgentFleet

structure Moment extends Asked where
  service : Service

structure Headway where
  /-- In milliseconds. -/
  timer : Nat
  service : Service
  steps : List Moment := []

/-- What goes on around an activity, which may depend on all that has happened so far: what others
do to the memory before the next question, what time it is for people and on the clock that never
jumps, what comes from outside as an answer, and how long a call of the backend or the runner
takes. -/
structure Surroundings where
  others : Headway → List (Clock × Local)
  wall : Headway → Instant
  steady : Headway → Nat
  reply : Headway → (act : Act) → act.Answer
  delay : Headway → Nat

namespace Surroundings

variable {α β : Type}

def found (w : Surroundings) (h : Headway) : Service :=
  (w.others h).foldl (fun s x => (x.2.apply x.1 s).2) h.service

def clock (w : Surroundings) (h : Headway) : Clock := ⟨w.wall h, w.steady h, h.timer⟩

/-- How long a question takes. A call with a deadline is answered at once. -/
def lasts (w : Surroundings) (h : Headway) : Act → Nat
  | .sleep millis => millis
  | .backend _ => w.delay h
  | .runner _ => w.delay h
  | _ => 0

def step (w : Surroundings) (act : Act) (h : Headway) : Moment :=
  let (answer, service) := act.perform (w.clock h) (w.found h) (w.reply h act)
  ⟨⟨w.clock h, act, answer⟩, service⟩

def advance (w : Surroundings) (act : Act) (h : Headway) : Headway where
  timer := h.timer + w.lasts h act
  service := (w.step act h).service
  steps := h.steps ++ [w.step act h]

def answer (w : Surroundings) (act : Act) : StateM Headway act.Answer :=
  fun h => ((w.step act h).answer, w.advance act h)

def carry (w : Surroundings) (p : Activity α) (h : Headway) : α × Headway := (p.run w.answer).run h

variable {w : Surroundings} {h : Headway}

@[simp] theorem carry_done (a : α) : w.carry (Procedure.done a) h = (a, h) := rfl

theorem carry_ask (act : Act) (next : act.Answer → Activity α) :
    w.carry (.ask act next) h = w.carry (next (w.step act h).answer) (w.advance act h) := rfl

theorem carry_bind (p : Activity α) (f : α → Activity β) :
    w.carry (p >>= f) h = w.carry (f (w.carry p h).1) (w.carry p h).2 := by
  induction p generalizing h with
  | done a => rfl
  | ask act next ih => exact ih (w.step act h).answer

/-! ### The tracker -/

theorem consistent_found (w : Surroundings) (hcons : h.service.tracker.Consistent) :
    (w.found h).tracker.Consistent := by
  have hfold (done : List (Clock × Local)) (s : Service) (hs : s.tracker.Consistent) :
      (done.foldl (fun s x => (x.2.apply x.1 s).2) s).tracker.Consistent := by
    induction done generalizing s with
    | nil => exact hs
    | cons x done ih =>
      refine ih _ ?_
      have hx := Fleet.tracker_perform x.1 s (.memory x.2) (x.2.apply x.1 s).1
      exact hx ▸ hs.after _
  exact hfold _ _ hcons

theorem tracker_advance (act : Act) :
    (w.advance act h).service.tracker = (w.found h).tracker.after act.operations :=
  Fleet.tracker_perform ..

theorem consistent_advance (w : Surroundings) (hcons : h.service.tracker.Consistent) (act : Act) :
    (w.advance act h).service.tracker.Consistent := by
  rw [tracker_advance]
  exact (consistent_found w hcons).after _

theorem consistent_carry (w : Surroundings) (hcons : h.service.tracker.Consistent)
    (p : Activity α) :
    (w.carry p h).2.service.tracker.Consistent := by
  induction p generalizing h with
  | done a => exact hcons
  | ask act next ih => exact ih _ (consistent_advance w hcons act)

theorem steps_carry {P : Act → Prop} {p : Activity α} (hp : p.Asks P) (w : Surroundings)
    (h : Headway) :
    ∃ later, (w.carry p h).2.steps = h.steps ++ later ∧ ∀ x ∈ later, P x.act := by
  induction p generalizing h with
  | done a => exact ⟨[], (List.append_nil _).symm, List.forall_mem_nil _⟩
  | ask act next ih =>
    obtain ⟨later, hsteps, hlater⟩ := ih _ (hp.2 _) (w.advance act h)
    refine ⟨w.step act h :: later, hsteps.trans ?_, List.forall_mem_cons.mpr ⟨hp.1, hlater⟩⟩
    exact (List.append_cons h.steps (w.step act h) later).symm

/-- Work that asks only for what is done at once takes no time. -/
theorem timer_carry {P : Act → Prop} {p : Activity α} (hp : p.Asks P)
    (hquick : ∀ act, P act → ∀ h, w.lasts h act = 0) : (w.carry p h).2.timer = h.timer := by
  induction p generalizing h with
  | done a => rfl
  | ask act next ih => exact (ih _ (hp.2 _)).trans (congrArg (h.timer + ·) (hquick act hp.1 h))

/-- If nobody else does anything to the memory, the activity goes as it may go undisturbed. -/
theorem proceeds_carry (halone : ∀ h, w.others h = []) (p : Activity α) (h : Headway) :
    ∃ asked, p.Proceeds h.service asked (w.carry p h).1 (w.carry p h).2.service := by
  induction p generalizing h with
  | done a => exact ⟨[], rfl, rfl, rfl⟩
  | ask act next ih =>
    obtain ⟨asked, hnext⟩ := ih _ (w.advance act h)
    have hfound : w.found h = h.service := by rw [found, halone, List.foldl_nil]
    refine ⟨_, w.clock h, w.reply h act, asked, rfl, ?_⟩
    rw [← hfound]
    exact hnext

end Surroundings

/-! ### Counting looks -/

/-- The first answer that tells that the container has stopped is number `k`. -/
def FirstStop (answers : Nat → Except Fault Bool) (k : Nat) : Prop :=
  0 < k ∧ answers k = .ok true ∧ ∀ i, 0 < i → i < k → answers i ≠ .ok true

/-- After `made` looks, `m` more were made where `n` were allowed, and this came of them. -/
structure Looking (answers : Nat → Except Fault Bool) (made n m : Nat) (outcome : Outcome) :
    Prop where
  le : m ≤ n
  unstopped : ∀ i, 0 < i → i < m → answers (made + i) ≠ .ok true
  stopped_iff : outcome = .stopped ↔ 0 < m ∧ answers (made + m) = .ok true
  used_up : outcome = .timedOut → m = n

namespace Looking

variable {answers : Nat → Except Fault Bool} {made n m : Nat} {outcome : Outcome}

theorem out : Looking answers made 0 0 .timedOut where
  le := Nat.le_refl 0
  unstopped i _ hi := (Nat.not_lt_zero i hi).elim
  stopped_iff := by simp
  used_up _ := rfl

theorem seen (hstop : answers (made + 1) = .ok true) : Looking answers made (n + 1) 1 .stopped where
  le := Nat.succ_le_succ (Nat.zero_le n)
  unstopped i hpos hi := by omega
  stopped_iff := by simp [hstop]
  used_up h := Outcome.noConfusion h

theorem again (hgoes : answers (made + 1) ≠ .ok true)
    (h : Looking answers (made + 1) n m outcome) :
    Looking answers made (n + 1) (m + 1) outcome where
  le := Nat.succ_le_succ h.le
  unstopped i hpos hi := by
    obtain rfl | ⟨j, rfl⟩ : i = 1 ∨ ∃ j, i = j + 1 + 1 := by
      obtain _ | _ | j := i
      · omega
      · exact .inl rfl
      · exact .inr ⟨j, rfl⟩
    · exact hgoes
    · have hj := h.unstopped (j + 1) (Nat.succ_pos j) (by omega)
      rwa [Nat.add_assoc, Nat.add_comm 1] at hj
  stopped_iff := by
    rw [h.stopped_iff, Nat.add_assoc, Nat.add_comm 1]
    refine ⟨fun hm => ⟨Nat.succ_pos m, hm.2⟩, fun hm => ⟨?_, hm.2⟩⟩
    refine Nat.pos_of_ne_zero fun hzero => hgoes ?_
    simpa [hzero] using hm.2
  used_up ho := congrArg (· + 1) (h.used_up ho)

/-- The looks stop at the first that tells that the container has stopped, or when they are used
up. -/
theorem count (h : Looking answers 0 n m outcome) :
    (∀ k, FirstStop answers k → m = min k n) ∧ ((∀ k, ¬ FirstStop answers k) → m = n) ∧
      (outcome = .stopped ↔ ∃ k, FirstStop answers k ∧ k ≤ n) := by
  have hstopped := h.stopped_iff
  rw [Nat.zero_add] at hstopped
  have hearlier : ∀ i, 0 < i → i < m → answers i ≠ .ok true := by
    intro i hpos hi
    have hno := h.unstopped i hpos hi
    rwa [Nat.zero_add] at hno
  cases outcome with
  | stopped =>
    obtain ⟨hpos, hstop⟩ := hstopped.mp rfl
    have hfirst : FirstStop answers m := ⟨hpos, hstop, hearlier⟩
    refine ⟨fun k hk => ?_, fun hnone => (hnone m hfirst).elim, fun _ => ⟨m, hfirst, h.le⟩,
      fun _ => rfl⟩
    have hle : ¬ k < m := fun hlt => hearlier k hk.1 hlt hk.2.1
    have hge : ¬ m < k := fun hlt => hk.2.2 m hpos hlt hstop
    have := h.le
    omega
  | timedOut =>
    have hm := h.used_up rfl
    have hlate : ∀ k, FirstStop answers k → n < k := by
      intro k hk
      by_contra hle
      rcases Nat.lt_or_eq_of_le (hm ▸ Nat.le_of_not_lt hle : k ≤ m) with hlt | rfl
      · exact hearlier k hk.1 hlt hk.2.1
      · exact Outcome.noConfusion (hstopped.mpr ⟨hk.1, hk.2.1⟩)
    refine ⟨fun k hk => ?_, fun _ => hm, fun ho => Outcome.noConfusion ho, ?_⟩
    · have := hlate k hk
      omega
    · rintro ⟨k, hk, hle⟩
      have := hlate k hk
      omega

end Looking

/-! ### Waiting -/

def Act.looksAt? : Act → Option ContainerId
  | runner (.isStopped c) => some c
  | runnerUntil _ (.isStopped c) => some c
  | _ => none

def looks (steps : List Moment) : List (ContainerId × Nat) :=
  steps.filterMap fun x => x.act.looksAt?.map fun c => (c, x.clock.timer)

theorem looks_advance (w : Surroundings) (act : Act) (h : Headway) :
    looks (w.advance act h).steps =
      looks h.steps ++ (act.looksAt?.map fun c => (c, h.timer)).toList := by
  refine (List.filterMap_append ..).trans (congrArg (looks h.steps ++ ·) ?_)
  cases hc : act.looksAt? <;> simp [Surroundings.step, Surroundings.clock, hc]

theorem looks_carry {α : Type} {P : Act → Prop} {p : Activity α} (hp : p.Asks P)
    (hblind : ∀ act, P act → act.looksAt? = none) (w : Surroundings) (h : Headway) :
    looks (w.carry p h).2.steps = looks h.steps := by
  induction p generalizing h with
  | done a => rfl
  | ask act next ih =>
    refine (ih _ (hp.2 _) (w.advance act h)).trans ?_
    rw [looks_advance, hblind act hp.1]
    exact List.append_nil _

/-- The looks at containers are answered one by one, the first with `answers 1`. -/
def Surroundings.Shows (w : Surroundings) (answers : Nat → Except Fault Bool) : Prop :=
  ∀ h deadline c, w.reply h (.runnerUntil deadline (.isStopped c)) =
    some (answers ((looks h.steps).length + 1))

theorem range_map_succ {α : Type} (f : Nat → α) (m : Nat) :
    (List.range' 1 (m + 1)).map f = f 1 :: (List.range' 1 m).map fun i => f (i + 1) := by
  rw [List.range'_succ, List.map_cons, ← List.map_add_range' 1, List.map_map]
  simp [Function.comp_def, Nat.add_comm]

/-- How many looks at a container there may be, and as many as there is time for. -/
def ShutdownSettings.looksAllowed (s : ShutdownSettings) : Nat :=
  min s.maxChecks (s.timeoutSeconds * 1000 / s.checkIntervalMillis)

section Waiting

variable {w : Surroundings} {answers : Nat → Except Fault Bool} {s : ShutdownSettings}
  {c : ContainerId} {deadline : Nat} {h : Headway}

/-- How many intervals fit in before the deadline, if one does. -/
theorem intervals_succ {interval t : Nat} (hpos : 0 < interval) (hfits : t + interval ≤ deadline) :
    (deadline - t) / interval = (deadline - (t + interval)) / interval + 1 := by
  rw [← Nat.add_div_right _ hpos]
  congr 1
  omega

def Surroundings.afterLook (w : Surroundings) (interval deadline : Nat) (c : ContainerId)
    (h : Headway) : Headway :=
  w.advance (.runnerUntil deadline (.isStopped c))
    (w.advance (.sleep interval) (w.advance (.memory .clock) h))

theorem looks_afterLook {interval : Nat} :
    looks (w.afterLook interval deadline c h).steps =
      looks h.steps ++ [(c, h.timer + interval)] := by
  simp only [Surroundings.afterLook, looks_advance, Act.looksAt?]
  simp [Surroundings.advance, Surroundings.lasts]

theorem timer_afterLook {interval : Nat} :
    (w.afterLook interval deadline c h).timer = h.timer + interval := by
  simp [Surroundings.afterLook, Surroundings.advance, Surroundings.lasts]

theorem carry_awaitStop (hshows : w.Shows answers) (checks : Nat) :
    w.carry (Activity.awaitStop s c deadline (checks + 1)) h =
      if h.timer + s.checkIntervalMillis ≤ deadline then
        let looked := w.afterLook s.checkIntervalMillis deadline c h
        if answers ((looks h.steps).length + 1) = .ok true then (.stopped, looked)
        else w.carry (Activity.awaitStop s c deadline checks) looked
      else
        (.timedOut, w.advance (.sleep (deadline - h.timer)) (w.advance (.memory .clock) h)) := by
  generalize hslept : w.advance (.sleep s.checkIntervalMillis)
    (w.advance (.memory .clock) h) = slept
  have hanswer : (w.step (.runnerUntil deadline (.isStopped c)) slept).answer =
      some (answers ((looks h.steps).length + 1)) := by
    have hlooks : looks slept.steps = looks h.steps := by
      rw [← hslept]
      simp [looks_advance, Act.looksAt?]
    rw [← hlooks]
    exact hshows slept deadline c
  refine (Surroundings.carry_ask (.memory .clock) _).trans ?_
  change w.carry (if h.timer + _ ≤ deadline then _ else _) _ = _
  split
  next hfits =>
    refine (Surroundings.carry_ask (.sleep _) _).trans ?_
    refine (Surroundings.carry_ask (.runnerUntil deadline (.isStopped c)) _).trans ?_
    rw [Surroundings.afterLook, hslept, hanswer]
    cases answers ((looks h.steps).length + 1) with
    | error fault => rfl
    | ok stopped => cases stopped <;> rfl
  next hlate => rfl

theorem awaitStop_looks (hshows : w.Shows answers) (hpos : 0 < s.checkIntervalMillis)
    (checks deadline : Nat) (hdue : h.timer ≤ deadline) :
    let interval := s.checkIntervalMillis
    let r := w.carry (Activity.awaitStop s c deadline checks) h
    ∃ m, looks r.2.steps =
        looks h.steps ++ (List.range' 1 m).map (fun i => (c, h.timer + i * interval)) ∧
      r.2.timer ≤ deadline ∧
      Looking answers (looks h.steps).length (min checks ((deadline - h.timer) / interval)) m
        r.1 := by
  induction checks generalizing h with
  | zero =>
    refine ⟨0, (List.append_nil _).symm, hdue, ?_⟩
    rw [Nat.zero_min]
    exact .out
  | succ checks ih =>
    dsimp only at ih ⊢
    rw [carry_awaitStop hshows]
    generalize s.checkIntervalMillis = interval at hpos ih ⊢
    split
    next hfits =>
      rw [intervals_succ hpos hfits, Nat.succ_min_succ]
      split
      next hstop =>
        refine ⟨1, ?_, timer_afterLook.trans_le hfits, .seen hstop⟩
        simp [looks_afterLook]
      next hgoes =>
        have hafter := ih (h := w.afterLook interval deadline c h)
          (timer_afterLook.trans_le hfits)
        rw [timer_afterLook, looks_afterLook, List.length_append] at hafter
        obtain ⟨m, hlooks, htimer, hlooking⟩ := hafter
        refine ⟨m + 1, hlooks.trans ?_, htimer, .again hgoes hlooking⟩
        rw [range_map_succ, List.append_assoc]
        simp [Nat.succ_mul, Nat.add_assoc, Nat.add_comm interval]
    next hlate =>
      refine ⟨0, ?_, ?_, ?_⟩
      · simp [looks_advance, Act.looksAt?]
      · simp only [Surroundings.advance, Surroundings.lasts]
        omega
      · have hnone : (deadline - h.timer) / interval = 0 := Nat.div_eq_of_lt (by omega)
        rw [hnone, Nat.min_zero]
        exact .out

end Waiting

/-! ### What is known afterwards -/

/-- A container that has stopped is not known any more; one that has not is known to have crashed,
and not to be terminating, if it is known at all. -/
def Outcome.Told (c : ContainerId) (t : Tracker) : Outcome → Prop
  | stopped => t.Forgets c
  | timedOut => c ∈ t.owner → c ∈ t.crashed ∧ c ∉ t.terminating

def Outcome.Fits (known : Option Tracker.Standing) : Outcome → Prop
  | stopped => known = none
  | timedOut => ∀ s, known = some s → s.crashed = true ∧ s.terminating = false

section Told

variable {t : Tracker} {c : ContainerId} {outcome : Outcome} {known : Option Tracker.Standing}

theorem told_iff_fits (h : t.Consistent) : outcome.Told c t ↔ outcome.Fits (t.standing c) := by
  cases outcome with
  | stopped => exact h.forgets_iff.trans h.standing_eq_none_iff.symm
  | timedOut =>
    constructor
    · intro htold s hs
      obtain ⟨hmc, -, hmt⟩ := Tracker.mem_marks_of_standing hs
      rw [← hmc, ← Bool.not_eq_true, ← hmt]
      exact htold (Tracker.mem_owner_of_standing hs)
    · intro hfits hc
      obtain ⟨s, hs⟩ := h.exists_standing hc
      obtain ⟨hmc, -, hmt⟩ := Tracker.mem_marks_of_standing hs
      rw [hmc, hmt, Bool.not_eq_true]
      exact hfits s hs

theorem fits_operation : outcome.Fits ((outcome.operation c).affect c known) := by
  cases outcome with
  | stopped => exact if_pos rfl
  | timedOut =>
    intro s hs
    simp only [Outcome.operation, Tracker.Operation.affect, if_true] at hs
    obtain ⟨before, -, rfl⟩ := Option.map_eq_some_iff.mp hs
    exact ⟨rfl, rfl⟩

/-- To end an execution is to forget containers, or to leave them as they are. -/
theorem fits_ending {s : LivenessSettings} {e : ExecutionId} {act : Act} (hact : act.OfEnding s e)
    {op : Tracker.Operation} (hop : op ∈ act.operations) (hfits : outcome.Fits known) :
    outcome.Fits (op.affect c known) := by
  have hforgets : ∀ later, (∀ s, later = some s → known = some s) → outcome.Fits later := by
    intro later hlater
    cases outcome with
    | stopped =>
      refine Option.eq_none_iff_forall_ne_some.mpr fun s hs => ?_
      cases (hlater s hs).symm.trans hfits
    | timedOut => exact fun s hs => hfits s (hlater s hs)
  cases hact with
  | check =>
    obtain rfl := List.mem_singleton.mp hop
    exact hfits
  | remove =>
    obtain rfl := List.mem_singleton.mp hop
    exact hforgets _ fun s hs => (Option.filter_eq_some_iff.mp hs).1
  | forget | claim | report _ | clean => cases hop

end Told

/-! ### Supervising -/

/-- How a supervision went that began at `begun` and came to its end at `ended`: it waited until
`waited`, noted how that ended, and then completed the execution. -/
structure Supervised (w : Surroundings) (s : Settings) (e : ExecutionId) (c : ContainerId)
    (answers : Nat → Except Fault Bool) (begun waited noted : Headway) (outcome : Outcome)
    (ended : Headway) : Prop where
  waits : ∃ waiting, waited.steps = begun.steps ++ waiting ∧ ∀ x ∈ waiting, x.act.OfWait c
  looks_eq : ∃ m, looks ended.steps = (List.range' 1 m).map (fun i =>
      (c, begun.timer + i * s.shutdown.checkIntervalMillis)) ∧
    (∀ k, FirstStop answers k → m = min k s.shutdown.looksAllowed) ∧
    ((∀ k, ¬ FirstStop answers k) → m = s.shutdown.looksAllowed)
  stopped_iff : outcome = .stopped ↔
    ∃ k, FirstStop answers k ∧ k ≤ s.shutdown.looksAllowed
  notes : noted = w.advance (.memory (.tracker (outcome.operation c))) waited
  told : outcome.Told c noted.service.tracker
  in_time : noted.timer ≤ begun.timer + s.shutdown.timeoutSeconds * 1000
  completes : ended = (w.carry (Activity.finalize s.liveness e .completed) noted).2
  ended_told : (∀ h, w.others h = []) → outcome.Told c ended.service.tracker
  ended_in_time : (∀ h, w.delay h = 0) →
    ended.timer ≤ begun.timer + s.shutdown.timeoutSeconds * 1000

theorem carry_supervise (w : Surroundings) (s : Settings) (e : ExecutionId) (c : ContainerId)
    (h : Headway) :
    let deadline := h.timer + s.shutdown.timeoutSeconds * 1000
    let waited := w.carry (Activity.awaitStop s.shutdown c deadline s.shutdown.maxChecks)
      (w.advance (.memory .clock) h)
    let noted := w.advance (.memory (.tracker (waited.1.operation c))) waited.2
    w.carry (Activity.supervise s e c) h =
      (waited.1, (w.carry (Activity.finalize s.liveness e .completed) noted).2) := by
  rw [Activity.supervise_eq]
  refine (Surroundings.carry_ask (.memory .clock) _).trans ?_
  refine (Surroundings.carry_bind (Activity.awaitStop s.shutdown c _ _) _).trans ?_
  refine (Surroundings.carry_ask (.memory (.tracker _)) _).trans ?_
  exact Surroundings.carry_bind (Activity.finalize s.liveness e .completed) _

theorem supervise_looks (w : Surroundings) (s : Settings) (e : ExecutionId) (c : ContainerId)
    {answers : Nat → Except Fault Bool} (hshows : w.Shows answers)
    (hinterval : 0 < s.shutdown.checkIntervalMillis) (h : Headway) :
    let r := w.carry (Activity.supervise s e c) h
    ∃ m, looks r.2.steps = looks h.steps ++ (List.range' 1 m).map (fun i =>
        (c, h.timer + i * s.shutdown.checkIntervalMillis)) ∧
      Looking answers (looks h.steps).length s.shutdown.looksAllowed m r.1 := by
  dsimp only
  rw [carry_supervise]
  have hbegun : looks (w.advance (.memory .clock) h).steps = looks h.steps := by
    rw [looks_advance]
    exact List.append_nil _
  obtain ⟨m, hlooks, -, hlooking⟩ := awaitStop_looks (s := s.shutdown) (c := c)
    (h := w.advance (.memory .clock) h) hshows hinterval s.shutdown.maxChecks
    (h.timer + s.shutdown.timeoutSeconds * 1000) (Nat.le_add_right ..)
  have htimer : (w.advance (.memory .clock) h).timer = h.timer := rfl
  rw [hbegun, htimer] at hlooks
  rw [hbegun, htimer, Nat.add_sub_cancel_left] at hlooking
  refine ⟨m, ?_, hlooking⟩
  rw [looks_carry (Activity.finalize_asks ..) (fun act hact => by cases hact <;> rfl),
    looks_advance, hlooks]
  exact List.append_nil _

theorem told_noted (w : Surroundings) (c : ContainerId) (outcome : Outcome) {h : Headway}
    (hcons : h.service.tracker.Consistent) :
    outcome.Told c (w.advance (.memory (.tracker (outcome.operation c))) h).service.tracker := by
  have hafter :
      (w.advance (.memory (.tracker (outcome.operation c))) h).service.tracker.standing c =
        (outcome.operation c).affect c ((w.found h).tracker.standing c) := by
    rw [Surroundings.tracker_advance]
    exact Tracker.standing_apply (Surroundings.consistent_found w hcons) _ c
  rw [told_iff_fits (Surroundings.consistent_advance w hcons _), hafter]
  exact fits_operation

/-- If nobody else does anything to the memory, what was told is so when the execution has been
completed. -/
theorem told_ended {w : Surroundings} (halone : ∀ h, w.others h = []) {s : LivenessSettings}
    {e : ExecutionId} {c : ContainerId} {outcome : Outcome} {h : Headway}
    (hcons : h.service.tracker.Consistent) (htold : outcome.Told c h.service.tracker) :
    outcome.Told c (w.carry (Activity.finalize s e .completed) h).2.service.tracker := by
  obtain ⟨asked, hgoes⟩ :=
    Surroundings.proceeds_carry halone (Activity.finalize s e .completed) h
  have hending := (Activity.finalize_asks s e .completed).of_proceeds hgoes
  rw [told_iff_fits (hgoes.consistent hcons)]
  refine hgoes.standing_of (I := (outcome.Fits ·)) hcons (fun x hx op hop known hfits => ?_)
    ((told_iff_fits hcons).mp htold)
  exact fits_ending (hending x hx) hop hfits

theorem Surroundings.lasts_ending {w : Surroundings} (hdelay : ∀ h, w.delay h = 0)
    {s : LivenessSettings} {e : ExecutionId} {act : Act} (hact : act.OfEnding s e) (h : Headway) :
    w.lasts h act = 0 := by
  cases hact with
  | check | forget | claim | remove => rfl
  | report ending => exact hdelay h
  | clean => exact hdelay h

/-- A supervision looks at its container once in each interval, until a look tells that it has
stopped or the looks that are allowed have been made. It ends in time, the tracker is told how the
wait ended, and then the execution is completed, once. -/
theorem supervision_bounded (w : Surroundings) (s : Settings) (e : ExecutionId) (c : ContainerId)
    (answers : Nat → Except Fault Bool) (start : Nat) (service : Service)
    (hshows : w.Shows answers) (hinterval : 0 < s.shutdown.checkIntervalMillis)
    (hcons : service.tracker.Consistent) :
    let r := w.carry (Activity.supervise s e c) ⟨start, service, []⟩
    ∃ waited noted, Supervised w s e c answers ⟨start, service, []⟩ waited noted r.1 r.2 := by
  obtain ⟨m, hlooks, hlooking⟩ := supervise_looks w s e c hshows hinterval ⟨start, service, []⟩
  dsimp only at hlooks hlooking ⊢
  rw [carry_supervise] at hlooks hlooking ⊢
  dsimp only at hlooks hlooking ⊢
  generalize hdeadline : start + s.shutdown.timeoutSeconds * 1000 = deadline at *
  have hle : start ≤ deadline := (Nat.le_add_right ..).trans_eq hdeadline
  obtain ⟨-, -, hdue, -⟩ := awaitStop_looks (s := s.shutdown) (c := c)
    (h := w.advance (.memory .clock) ⟨start, service, []⟩) hshows hinterval s.shutdown.maxChecks
    deadline hle
  obtain ⟨waiting, hsteps, hwaiting⟩ := Surroundings.steps_carry
    (Activity.awaitStop_asks s.shutdown c deadline s.shutdown.maxChecks) w
    (w.advance (.memory .clock) ⟨start, service, []⟩)
  have hwaited := Surroundings.consistent_carry w
    (Surroundings.consistent_advance w (h := ⟨start, service, []⟩) hcons (.memory .clock))
    (Activity.awaitStop s.shutdown c deadline s.shutdown.maxChecks)
  generalize w.carry (Activity.awaitStop s.shutdown c deadline s.shutdown.maxChecks)
    (w.advance (.memory .clock) ⟨start, service, []⟩) = waited at *
  obtain ⟨hfirst, hnone, hstopped⟩ := hlooking.count
  have htold := told_noted w c waited.1 hwaited
  refine ⟨waited.2, w.advance (.memory (.tracker (waited.1.operation c))) waited.2, ?_⟩
  exact {
    waits := ⟨w.step (.memory .clock) ⟨start, service, []⟩ :: waiting, hsteps,
      List.forall_mem_cons.mpr ⟨.clock, hwaiting⟩⟩
    looks_eq := ⟨m, hlooks, hfirst, hnone⟩
    stopped_iff := hstopped
    notes := rfl
    told := htold
    in_time := hdue.trans_eq hdeadline.symm
    completes := rfl
    ended_told := fun halone =>
      told_ended halone (Surroundings.consistent_advance w hwaited _) htold
    ended_in_time := fun hdelay => by
      rw [Surroundings.timer_carry (Activity.finalize_asks ..)
        fun act hact h => Surroundings.lasts_ending hdelay hact h]
      exact hdue.trans_eq hdeadline.symm }

/-- Nothing goes on around an activity but that its looks at containers are answered. -/
def Surroundings.quiet (answers : Nat → Except Fault Bool) : Surroundings where
  others _ := []
  wall _ := 0
  steady _ := 0
  reply h
    | .runnerUntil _ (.isStopped _) => some (answers ((looks h.steps).length + 1))
    | act => Rehearsal.Script.reply {} act
  delay _ := 0

/-- The last look that is allowed is made just when the time is up, and still counts. -/
theorem supervision_bounded_lastLook :
    let s : Settings := { Fleet.briefSettings with shutdown := {} }
    let answers : Nat → Except Fault Bool := fun k => .ok (k == 60)
    let service : Service := ⟨Tracker.empty.after [.upsert "e" "a" 0], ∅, ∅⟩
    (Surroundings.quiet answers).Shows answers ∧ 0 < s.shutdown.checkIntervalMillis ∧
      service.tracker.Consistent ∧
      ((Surroundings.quiet answers).carry (Activity.supervise s "e" "a") ⟨0, service, []⟩).1 =
        .stopped := by
  have hcons := Tracker.Consistent.empty.after [.upsert "e" "a" 0]
  refine ⟨fun _ _ _ => rfl, by decide, hcons, ?_⟩
  obtain ⟨waited, noted, hgoes⟩ := supervision_bounded (Surroundings.quiet fun k => .ok (k == 60))
    { Fleet.briefSettings with shutdown := {} } "e" "a" (fun k => .ok (k == 60)) 0
    ⟨Tracker.empty.after [.upsert "e" "a" 0], ∅, ∅⟩ (fun _ _ _ => rfl) (by decide) hcons
  refine hgoes.stopped_iff.mpr ⟨60, ⟨by decide, rfl, fun i _ hi hstop => ?_⟩, by decide⟩
  have hsixty : (i == 60) = true := Except.ok.inj hstop
  rw [beq_iff_eq] at hsixty
  omega

end AgentFleet
