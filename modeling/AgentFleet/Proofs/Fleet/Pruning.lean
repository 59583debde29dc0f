import AgentFleet.Proofs.Fleet.Harbor
import AgentFleet.Proofs.Fleet.Launches
import AgentFleet.Proofs.Tracker.Sweeping

/-!
What a turn of pruning removes while everything else goes on. What to keep is read first and the
containers are listed later. So a container is safe if its execution was tracked or noted as being
launched when that was read; but an execution that comes to life after that loses the containers
that do not run yet.
-/

namespace AgentFleet

open Procedure Engine

/-! ### What is read from a list -/

namespace Engine

theorem not_blank_of_bounds {c : Char} (hlow : 0x20 < c.toNat) (hhigh : c.toNat < 0x85) :
    Text.isBlank c = false := by
  rw [← Bool.not_eq_true]
  simp only [Text.isBlank, Bool.or_eq_true, Bool.and_eq_true, decide_eq_true_eq, beq_iff_eq]
  omega

theorem Nameable.not_blank {name : String} (h : Nameable name) {c : Char} (hc : c ∈ name.toList) :
    Text.isBlank c = false := by
  rcases h c hc with hletter | hdigit | rfl | rfl | rfl
  · simp only [Text.isAsciiLetter, Bool.or_eq_true, Bool.and_eq_true, decide_eq_true_eq] at hletter
    change 97 ≤ c.toNat ∧ c.toNat ≤ 122 ∨ 65 ≤ c.toNat ∧ c.toNat ≤ 90 at hletter
    exact not_blank_of_bounds (by omega) (by omega)
  · simp only [Text.isAsciiDigit, Bool.and_eq_true, decide_eq_true_eq] at hdigit
    change 48 ≤ c.toNat ∧ c.toNat ≤ 57 at hdigit
    exact not_blank_of_bounds (by omega) (by omega)
  · decide
  · decide
  · decide

theorem toList_containerName (e : ExecutionId) (suffix : String) :
    (containerName e suffix).toList =
      "save-agent-".toList ++ (e.toList ++ ('-' :: suffix.toList)) := by
  simp [containerName]

namespace NamedFor

variable {e e' : ExecutionId} {name : ContainerId}

theorem execution_subset (h : NamedFor e name) : e.toList ⊆ name.toList := by
  obtain ⟨-, suffix, -, rfl⟩ := h
  rw [toList_containerName]
  intro c hc
  simp [hc]

theorem printable (h : NamedFor e name) : Printable (name, e) := by
  have hname : ∀ c : Char, Text.isBlank c = true → c ∉ name.toList := by
    intro c hblank hc
    rw [h.nameable.not_blank hc] at hblank
    cases hblank
  have hexecution : ∀ c : Char, Text.isBlank c = true → c ∉ e.toList :=
    fun c hblank hc => hname c hblank (h.execution_subset hc)
  exact ⟨⟨hname _ (by decide), hname _ (by decide)⟩,
    ⟨hexecution _ (by decide), hexecution _ (by decide)⟩⟩

theorem trim_name (h : NamedFor e name) : Text.trim name = name :=
  Text.trim_of_not_blank fun _ hc => h.nameable.not_blank hc

theorem trim_execution (h : NamedFor e name) : Text.trim e = e :=
  Text.trim_of_not_blank fun _ hc => h.nameable.not_blank (h.execution_subset hc)

theorem ne_empty (h : NamedFor e name) : name ≠ "" := by
  obtain ⟨-, suffix, -, rfl⟩ := h
  intro hempty
  have hnil := congrArg String.toList hempty
  simp [toList_containerName] at hnil

/-- A name tells the execution, as all suffixes are of one length. -/
theorem unique (h : NamedFor e name) (h' : NamedFor e' name) : e = e' := by
  obtain ⟨-, suffix, hlen, rfl⟩ := h
  obtain ⟨-, suffix', hlen', heq⟩ := h'
  have hchars := congrArg String.toList heq
  rw [toList_containerName, toList_containerName] at hchars
  have hrest := List.append_cancel_left hchars
  have hlens : ('-' :: suffix.toList).length = ('-' :: suffix'.toList).length := by
    rw [List.length_cons, List.length_cons, String.length_toList, String.length_toList, hlen, hlen']
  exact String.toList_inj.mp (List.append_inj_left' hrest hlens)

end NamedFor

theorem mem_candidates_iff {containers : Containers} {text : String} {keep : Names}
    {name : ContainerId} (hnamed : Named containers)
    (hprints : Instruction.listUnused.Prints containers text) :
    name ∈ candidates text keep ↔
      ∃ e status, containers[name]? = some ⟨e, status⟩ ∧ status.isUnused = true ∧ e ∉ keep := by
  obtain ⟨rows, hperm, rfl⟩ := hprints
  have hrow : ∀ r : Row, r ∈ rows ↔ ∃ status, containers[r.1]? = some ⟨r.2, status⟩ ∧
      status.isUnused = true := fun r => hperm.mem_iff.trans Instruction.mem_unused_iff
  have hnamedRow : ∀ r ∈ rows, NamedFor r.2 r.1 := by
    intro r hr
    obtain ⟨status, hx, -⟩ := (hrow r).mp hr
    exact hnamed r.1 _ hx
  rw [mem_candidates_printed fun r hr => (hnamedRow r hr).printable]
  constructor
  · rintro ⟨r, hr, rfl, -, hkeep⟩
    rw [(hnamedRow r hr).trim_execution] at hkeep
    rw [(hnamedRow r hr).trim_name]
    obtain ⟨status, hx, hunused⟩ := (hrow r).mp hr
    exact ⟨r.2, status, hx, hunused, hkeep⟩
  · rintro ⟨e, status, hx, hunused, hkeep⟩
    have hr : (name, e) ∈ rows := (hrow (name, e)).mpr ⟨status, hx, hunused⟩
    have hfor := hnamedRow _ hr
    exact ⟨(name, e), hr, hfor.trim_name, hfor.ne_empty, hfor.trim_execution.symm ▸ hkeep⟩

end Engine

/-! ### Turns of pruning -/

/-- The execution becomes tracked or is begun to be launched. -/
def Deed.Enlivens (d : Deed) (e : ExecutionId) : Prop :=
  d.errand = .act (.memory (.beginLaunch e)) ∨
    ∃ c time, d.errand = .act (.memory (.tracker (.upsert e c time)))

namespace Harbor

/-- The execution has become tracked, or was begun to be launched, since the deed. -/
def EnlivenedSince (first : Deed) (e : ExecutionId) (log : List Deed) : Prop :=
  ∃ d older before, d :: older <:+ log ∧ first :: before <:+ older ∧ d.Enlivens e

/-- The deeds of a turn of pruning before it removes containers: it reads which executions are
tracked, then which are being launched, and lists the containers that do not run. -/
structure Prepares (tick look list rm : Deed) (older : List Deed) : Prop where
  order : ∃ beforeList beforeLook beforeTick, list :: beforeList <:+ older ∧
    look :: beforeLook <:+ beforeList ∧ tick :: beforeTick <:+ beforeLook
  strands : tick.strand = rm.strand ∧ look.strand = rm.strand ∧ list.strand = rm.strand
  tick : tick.errand = .act (.memory (.tracker .executions))
  look : look.errand = .act (.memory .launching)
  list : list.errand = .engine (.run listUnused)

/-- The container was on the list, and its execution was neither tracked nor being launched when
that was read. -/
structure Unkept (tick look list : Deed) (name : ContainerId) (e : ExecutionId) : Prop where
  listed : ∃ status, list.before.containers[name]? = some ⟨e, status⟩ ∧ status.isUnused = true
  untracked : e ∉ tick.before.service.tracker.executions
  unnoted : e ∉ look.before.service.launching

section Sound

variable {s : Settings} {d : Deed} {past : Past Errand.Answer} {e : ExecutionId}

theorem Sound.perform_eq (h : Sound s d past) {q : Errand} {answer : q.Answer}
    (hd : d.exchange = ⟨q, answer⟩) :
    ∃ clock reply conduct, d.before.perform clock reply conduct q = (answer, d.after) := by
  obtain ⟨strand, cause, errand, found, before, after⟩ := d
  obtain ⟨rfl, heq⟩ := Sigma.mk.inj hd
  obtain rfl := eq_of_heq heq
  exact h.performed

theorem Sound.answers (h : Sound s d past) {c : Command} {outcome : Except String Output}
    (hd : d.exchange = ⟨.engine (.run c), outcome⟩) :
    Answers c d.before.containers outcome d.after.containers := by
  obtain ⟨clock, reply, conduct, hdone⟩ := h.perform_eq hd
  have houtcome : (conduct.run c d.before.containers).1 = outcome := congrArg Prod.fst hdone
  have hafter : (conduct.run c d.before.containers).2 = d.after.containers :=
    congrArg (·.2.containers) hdone
  have hanswers := conduct.answers c d.before.containers
  rwa [houtcome, hafter] at hanswers

theorem Sound.tracked_eq (h : Sound s d past) {tracked : List ExecutionId}
    (hd : d.exchange = ⟨.act (.memory (.tracker .executions)), tracked⟩) :
    tracked = d.before.service.tracker.executions := by
  obtain ⟨clock, reply, conduct, hdone⟩ := h.perform_eq hd
  exact (congrArg Prod.fst hdone).symm

theorem Sound.launching_eq (h : Sound s d past) {launching : Names}
    (hd : d.exchange = ⟨.act (.memory .launching), launching⟩) :
    launching = d.before.service.launching := by
  obtain ⟨clock, reply, conduct, hdone⟩ := h.perform_eq hd
  exact (congrArg Prod.fst hdone).symm

theorem Sound.exists_perform (h : Sound s d past) :
    d.after.service = d.before.service ∨ ∃ a clock reply, d.errand = .act a ∧
      d.after.service = (a.perform clock d.before.service reply).2 := by
  obtain ⟨strand, cause, errand, answer, before, after⟩ := d
  obtain ⟨clock, reply, conduct, hdone⟩ := h.performed
  have hafter : (before.perform clock reply conduct errand).2.service = after.service :=
    congrArg (·.2.service) hdone
  cases errand with
  | act a => exact .inr ⟨a, clock, reply a, rfl, hafter.symm⟩
  | engine r => cases r <;> exact .inl hafter.symm

theorem Sound.registers (h : Sound s d past) (hno : e ∉ d.before.service.tracker.executions)
    (hyes : e ∈ d.after.service.tracker.executions) : d.Enlivens e := by
  rcases h.exists_perform with hsame | ⟨a, clock, reply, herrand, hafter⟩
  · exact (hno (hsame ▸ hyes)).elim
  · rw [hafter, Fleet.tracker_perform] at hyes
    unfold Act.operations at hyes
    split at hyes
    next op =>
      obtain ⟨c, time, rfl⟩ := h.consistent.exists_registered hno hyes
      exact .inr ⟨c, time, herrand⟩
    next => exact (hno hyes).elim

theorem Sound.begins (h : Sound s d past) (hno : e ∉ d.before.service.launching)
    (hyes : e ∈ d.after.service.launching) : d.Enlivens e := by
  rcases h.exists_perform with hsame | ⟨a, clock, reply, herrand, hafter⟩
  · exact (hno (hsame ▸ hyes)).elim
  · rw [hafter] at hyes
    rcases Fleet.mem_launching_perform.mp hyes with rfl | ⟨-, hold⟩
    · exact .inl herrand
    · exact (hno hold).elim

end Sound

section InOrder

variable {s : Settings} {h : Harbor} {rm : Deed} {older : List Deed} {now : Instant}
  {names : List ContainerId} {outcome : Except String Output}

theorem InOrder.prepares (hin : h.InOrder s) (hlog : rm :: older <:+ h.log)
    (hturn : rm.cause = .turn .prune now)
    (hrm : rm.exchange = ⟨.engine (.run (removeContainers names)), outcome⟩) :
    ∃ tick look list, Prepares tick look list rm older ∧
      ∀ name, name ∈ names ↔ ∃ e, Unkept tick look list name e := by
  obtain ⟨⟨suffixes, next, hreached⟩, -, -, -⟩ := hin.sound rm older hlog
  have herrand : rm.errand = .engine (.run (removeContainers names)) := congrArg Sigma.fst hrm
  have hrule : pruneRule (pastOf rm.strand older) rm.errand := by
    rw [hturn] at hreached
    exact ((prune_keeps_pruneRule s suffixes now).of_reaches hreached).1
  obtain ⟨output, launching, tracked, hpast, hsuccess, rfl⟩ := hrule _ names herrand rfl
  obtain ⟨list, beforeList, hlist, hlistStrand, hlistEx, hrest⟩ := exists_deed_of_past hpast
  obtain ⟨look, beforeLook, hlook, hlookStrand, hlookEx, hrest⟩ := exists_deed_of_past hrest
  obtain ⟨tick, beforeTick, htick, htickStrand, htickEx, -⟩ := exists_deed_of_past hrest
  have hlistLog := hlist.trans (Fleet.older_suffix hlog)
  have hlookLog := hlook.trans (Fleet.older_suffix hlistLog)
  have htickLog := htick.trans (Fleet.older_suffix hlookLog)
  have hlistSound := hin.sound list beforeList hlistLog
  obtain rfl := (hin.sound look beforeLook hlookLog).launching_eq hlookEx
  obtain rfl := (hin.sound tick beforeTick htickLog).tracked_eq htickEx
  obtain ⟨hprints, -⟩ := (hlistSound.answers hlistEx).of_success hsuccess
  refine ⟨tick, look, list, ⟨⟨beforeList, beforeLook, beforeTick, hlist, hlook, htick⟩,
    ⟨htickStrand, hlookStrand, hlistStrand⟩, congrArg Sigma.fst htickEx,
    congrArg Sigma.fst hlookEx, congrArg Sigma.fst hlistEx⟩, fun name => ?_⟩
  rw [mem_candidates_iff hlistSound.named hprints]
  refine exists_congr fun e => ?_
  rw [Std.ExtTreeSet.mem_union_iff, Std.ExtTreeSet.mem_ofList, List.contains_iff_mem, not_or]
  constructor
  · rintro ⟨status, hx, hunused, htracked, hnoted⟩
    exact ⟨⟨status, hx, hunused⟩, htracked, hnoted⟩
  · rintro ⟨⟨status, hx, hunused⟩, htracked, hnoted⟩
    exact ⟨status, hx, hunused, htracked, hnoted⟩

/-- What brings an execution to life is not the reading of what is to be kept. -/
theorem since_of_enlivens {first d : Deed} {before earlier : List Deed} {e : ExecutionId}
    (hsince : first :: before <:+ d :: earlier) (hno : ¬ first.Enlivens e) (hyes : d.Enlivens e) :
    first :: before <:+ earlier := by
  rcases List.suffix_cons_iff.mp hsince with heq | hlater
  · obtain ⟨rfl, -⟩ := List.cons.inj heq
    exact (hno hyes).elim
  · exact hlater

/-- An execution that is live again after it was not to be kept was brought to life in between. -/
theorem InOrder.enlivenedSince (hin : h.InOrder s) (hlog : rm :: older <:+ h.log)
    {tick look list : Deed} (hprep : Prepares tick look list rm older) {name : ContainerId}
    {e : ExecutionId} (hunkept : Unkept tick look list name e)
    (hlive : e ∈ rm.before.service.protectedExecutions) : EnlivenedSince tick e older := by
  obtain ⟨beforeList, beforeLook, beforeTick, hlist, hlook, htick⟩ := hprep.order
  have hlook' := hlook.trans (Fleet.older_suffix hlist)
  have htick' := htick.trans (Fleet.older_suffix hlook')
  have hchained : Chained older rm.before.service := hin.chained.of_suffix hlog
  have hsound : ∀ d before, d :: before <:+ older → Sound s d (pastOf d.strand before) :=
    fun d before hsub => hin.sound d before (hsub.trans (Fleet.older_suffix hlog))
  rcases Service.mem_protectedExecutions.mp hlive with htracked | hnoted
  · obtain ⟨d, before, hd, hsince, hno, hyes⟩ := hchained.exists_made
      (P := fun service => e ∈ service.tracker.executions) htick' hunkept.untracked htracked
    have henlivens := (hsound d before hd).registers hno hyes
    have hread : ¬ tick.Enlivens e := by simp [Deed.Enlivens, hprep.tick]
    exact ⟨d, before, beforeTick, hd, since_of_enlivens hsince hread henlivens, henlivens⟩
  · obtain ⟨d, before, hd, hsince, hno, hyes⟩ := hchained.exists_made
      (P := fun service => e ∈ service.launching) hlook' hunkept.unnoted hnoted
    have henlivens := (hsound d before hd).begins hno hyes
    have hread : ¬ look.Enlivens e := by simp [Deed.Enlivens, hprep.look]
    have hafter := since_of_enlivens hsince hread henlivens
    exact ⟨d, before, beforeTick, hd, htick.trans (Fleet.older_suffix hafter), henlivens⟩

end InOrder

/-- However the work of the service, of the engine and of the containers themselves goes on between
the commands of a turn of pruning: the removal takes a container exactly if the container was on the
list and its execution was neither tracked nor noted as being launched when that was read. If the
execution is live all the same then it has come to life since. -/
theorem pruned_iff (s : Settings) (found : Remains) (moves : List Move) {rm : Deed}
    {older : List Deed} {now : Instant} {names : List ContainerId}
    {outcome : Except String Output} (hlog : rm :: older <:+ (after s found moves).log)
    (hturn : rm.cause = .turn .prune now)
    (hrm : rm.exchange = ⟨.engine (.run (removeContainers names)), outcome⟩) :
    ∃ tick look list, Prepares tick look list rm older ∧
      ∀ (name : ContainerId) (x : Container), rm.before.containers[name]? = some x →
        (rm.after.containers[name]? = none → Unkept tick look list name x.execution) ∧
        (∀ output, outcome = .ok output → output.success = true →
          Unkept tick look list name x.execution → rm.after.containers[name]? = none) ∧
        (Unkept tick look list name x.execution →
          x.execution ∈ rm.before.service.protectedExecutions →
          EnlivenedSince tick x.execution older) := by
  have hin := inOrder_after s found moves
  have hsound := hin.sound rm older hlog
  have hanswers := hsound.answers hrm
  obtain ⟨tick, look, list, hprep, hnames⟩ := hin.prepares hlog hturn hrm
  refine ⟨tick, look, list, hprep, fun name x hx => ⟨fun hgone => ?_, ?_, ?_⟩⟩
  · obtain ⟨names', hremove, hmem⟩ := hanswers.removed hx hgone
    cases hremove
    obtain ⟨e, hunkept⟩ := (hnames name).mp hmem
    -- The container on the list belongs where this one does, as the name tells the execution.
    obtain ⟨beforeList, -, -, hlist, -, -⟩ := hprep.order
    have hlistSound := hin.sound list beforeList (hlist.trans (Fleet.older_suffix hlog))
    obtain ⟨status, hlisted, -⟩ := hunkept.listed
    have heq : e = x.execution :=
      (hlistSound.named name _ hlisted).unique (hsound.named name x hx)
    exact heq ▸ hunkept
  · rintro output rfl hsuccess hunkept
    rw [(hanswers.of_success hsuccess).2, instruction_removeContainers, Instruction.getElem?_remove]
    exact if_pos ((hnames name).mpr ⟨_, hunkept⟩)
  · exact hin.enlivenedSince hlog hprep

def plainSuffixes : Suffixes := ⟨fun _ => "00000000", fun _ => rfl⟩

def steps (i n : Nat) : List Move :=
  List.replicate n
    (.go i ⟨0, 0, 0⟩ ({} : Rehearsal.Script).reply Conduct.obedient plainSuffixes)

/-- A turn of pruning has read what to keep when a launch begins, and lists the containers that do
not run between the creation and the start of those of the launch. -/
def lateLaunch : List Move :=
  .begin (.turn .prune 0) plainSuffixes ::
    (steps 0 2 ++ (.begin (.job (.launch ⟨"e", "default", 1, none, none⟩)) plainSuffixes ::
      (steps 1 4 ++ steps 0 2)))

structure Removal (rm : Deed) (older : List Deed) : Prop where
  log_eq : (after Fleet.briefSettings .none lateLaunch).log = rm :: older
  cause_eq : rm.cause = .turn .prune 0
  exchange_eq : rm.exchange = ⟨.engine (.run (removeContainers ["save-agent-e-00000000"])),
    (.ok ⟨true, "", ""⟩ : Except String Output)⟩
  created : rm.before.containers["save-agent-e-00000000"]? = some ⟨"e", .created⟩
  removed : rm.after.containers["save-agent-e-00000000"]? = none
  live : "e" ∈ rm.before.service.protectedExecutions

theorem exists_removal_lateLaunch : ∃ rm older, Removal rm older := by
  refine ⟨_, _, rfl, rfl, rfl, ?_, ?_, ?_⟩
  · decide +kernel
  · decide +kernel
  · decide +kernel

theorem pruned_iff_lateLaunch :
    ∃ rm older, Removal rm older ∧ ∃ tick look list, Prepares tick look list rm older ∧
      Unkept tick look list "save-agent-e-00000000" "e" ∧ EnlivenedSince tick "e" older := by
  obtain ⟨rm, older, h⟩ := exists_removal_lateLaunch
  obtain ⟨tick, look, list, hprep, hdecides⟩ := pruned_iff Fleet.briefSettings .none lateLaunch
    ⟨[], h.log_eq.symm⟩ h.cause_eq h.exchange_eq
  obtain ⟨hunkept, -, hsince⟩ := hdecides _ _ h.created
  exact ⟨rm, older, h, tick, look, list, hprep, hunkept h.removed,
    hsince (hunkept h.removed) h.live⟩

/-- The container of an execution is removed while it is being launched. -/
theorem launching_container_pruned :
    (∃ rm older, Removal rm older) ∧
      ∃ act next, (after Fleet.briefSettings .none lateLaunch).duties[1]? =
        some ⟨.job (.launch ⟨"e", "default", 1, none, none⟩), .ask act next⟩ :=
  ⟨exists_removal_lateLaunch, _, _, rfl⟩

end Harbor

end AgentFleet
