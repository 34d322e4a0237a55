import EventRelay.Proofs.Path

/-!
# EventRelay.Proofs.Host.Jobs

What is kept of the jobs of pooled engines.

* `Job.runsOn`: the worker of a job.
* `Relay.finishedOf`, `Relay.jobWarnings`: the jobs that ended, and the warnings that they left.
* `Relay.conclude`: the end of a job. `runJob_eq`: a job is its target, run inside its worker, and
  then its end.
* `Relay.Quiet`, `Relay.Steady`: changes that jobs do not see. All changes are such but those of the
  queue, of the stack and at the end of a job.
-/

namespace EventRelay

/-- Whether a job was queued to a worker. -/
def Job.runsOn (e : EngineId) (n : Nat) (job : Job) : Bool := job.home == e && job.number == n

theorem Job.runsOn_self (job : Job) : job.runsOn job.home job.number = true := by
  simp [runsOn]

theorem Job.eq_of_runsOn {job : Job} {e : EngineId} {n : Nat} (h : job.runsOn e n = true) :
    e = job.home ∧ n = job.number := by
  simp only [runsOn, Bool.and_eq_true, beq_iff_eq] at h
  exact ⟨h.1.symm, h.2.symm⟩

def EngineKind.finished : EngineKind → List (Job × Bool)
  | inline _ => []
  | pooled p => p.finished

/-- Whether a job left the warning. -/
def Warning.ofJob : Warning → Bool
  | jobFailed _ _ => true
  | jobPanicked _ => true
  | _ => false

namespace Relay

/-- The jobs of an engine that ran to their end, the oldest first, and whether each failed. -/
def finishedOf (s : Relay) (e : EngineId) : List (Job × Bool) := (s.engine e).kind.finished

def jobWarnings (s : Relay) : List Warning := s.warnings.filter Warning.ofJob

/-! ## The end of a job -/

/-- The warning that the end of a job leaves. -/
def complaint? (s : Relay) (job : Job) : Exit Cause Value → Option Warning
  | .error c => some (.jobFailed (s.jobWorkerName job) c)
  | .panic _ => some (.jobPanicked (s.jobWorkerName job))
  | _ => none

/-- Ends a job, with a warning if there is one. -/
def conclude (s : Relay) (job : Job) (complaint : Option Warning) : Relay :=
  (complaint.elim s s.warn).finish job complaint.isSome

/-- A job runs its target inside its worker, and whatever way out of that ends the job alone. -/
theorem runJob_eq (call : Caller) (keeps : Keeps) (job : Job) (s : Relay) :
    runJob call keeps job s =
      let held := keeps s job.home job.number || s.holds job.home job.number
      match within ⟨job.home, job.number, held⟩
          (runTarget call job.home job.target job.args) s with
      | (.halt h, s') => (some h, s')
      | (exit, s') => (none, s'.conclude job (s'.complaint? job exit)) := by
  unfold runJob
  dsimp only
  generalize within _ (runTarget call job.home job.target job.args) s = out
  obtain ⟨exit, s'⟩ := out
  cases exit <;> rfl

theorem complaint?_ofJob {s : Relay} {job : Job} {exit : Exit Cause Value} {w : Warning}
    (h : s.complaint? job exit = some w) : w.ofJob = true := by
  cases exit with
  | error | panic =>
    cases h
    rfl
  | ok | halt => cases h

theorem finishedOf_putEngine (s : Relay) (e e' : EngineId) (engine : Engine) :
    (s.putEngine e' engine).finishedOf e =
      if e' = e then engine.kind.finished else s.finishedOf e := by
  unfold finishedOf
  rw [engine_putEngine]
  split <;> rfl

@[simp] theorem conclude_stack (s : Relay) (job : Job) (complaint : Option Warning) :
    (s.conclude job complaint).stack = s.stack := by
  cases complaint <;> simp [conclude, warn]

@[simp] theorem conclude_stalled (s : Relay) (job : Job) (complaint : Option Warning) :
    (s.conclude job complaint).stalled = s.stalled := by
  cases complaint <;> simp [conclude, warn]

@[simp] theorem conclude_queue (s : Relay) (job : Job) (complaint : Option Warning) :
    (s.conclude job complaint).queue = s.queue := by
  unfold conclude finish
  cases complaint <;> (dsimp only [Option.elim]; split <;> rfl)

theorem conclude_finishedOf {s : Relay} {job : Job} {p : PooledEngine}
    (h : (s.engine job.home).kind = .pooled p) (complaint : Option Warning) (e : EngineId) :
    (s.conclude job complaint).finishedOf e =
      s.finishedOf e ++ if job.home = e then [(job, complaint.isSome)] else [] := by
  have hkind : ((complaint.elim s s.warn).engine job.home).kind = .pooled p := by
    cases complaint <;> exact h
  have hsame : (complaint.elim s s.warn).finishedOf e = s.finishedOf e := by
    cases complaint <;> rfl
  simp only [conclude, finish, hkind]
  unfold putKind
  rw [finishedOf_putEngine, hsame]
  split
  · rename_i he
    subst he
    simp only [finishedOf, h]
    rfl
  · simp

theorem conclude_jobWarnings {s : Relay} {job : Job} {complaint : Option Warning}
    (h : ∀ w, complaint = some w → w.ofJob = true) :
    (s.conclude job complaint).jobWarnings = s.jobWarnings ++ complaint.toList := by
  have hfinish (s : Relay) (failed : Bool) : (s.finish job failed).warnings = s.warnings := by
    unfold finish
    split <;> rfl
  cases complaint with
  | none => simp [conclude, jobWarnings, hfinish]
  | some w => simp [conclude, jobWarnings, hfinish, warn, h w rfl]

/-! ## Changes that jobs do not see -/

/-- The queue and what is kept of jobs are as before. -/
structure Quiet (s s' : Relay) : Prop where
  queue : s'.queue = s.queue
  finished : ∀ e, s'.finishedOf e = s.finishedOf e
  warnings : s'.jobWarnings = s.jobWarnings

/-- So is the stack, and whether jobs end. -/
structure Steady (s s' : Relay) : Prop extends Quiet s s' where
  stack : s'.stack = s.stack
  stalled : s'.stalled = s.stalled

namespace Steady

variable {s s' s'' : Relay}

theorem refl (s : Relay) : Steady s s where
  stack := rfl
  stalled := rfl
  queue := rfl
  finished _ := rfl
  warnings := rfl

theorem trans (h : Steady s s') (h' : Steady s' s'') : Steady s s'' where
  queue := h'.queue.trans h.queue
  finished e := (h'.finished e).trans (h.finished e)
  warnings := h'.warnings.trans h.warnings
  stack := h'.stack.trans h.stack
  stalled := h'.stalled.trans h.stalled

theorem of_eq (hengines : s'.engines = s.engines) (hqueue : s'.queue = s.queue)
    (hwarnings : s'.warnings = s.warnings) (hstack : s'.stack = s.stack)
    (hstalled : s'.stalled = s.stalled) : Steady s s' where
  stack := hstack
  stalled := hstalled
  queue := hqueue
  finished e := by
    unfold finishedOf engine
    rw [hengines]
  warnings := by
    unfold jobWarnings
    rw [hwarnings]

theorem putEngine {e : EngineId} {engine : Engine} (h : engine.kind.finished = s.finishedOf e) :
    Steady s (s.putEngine e engine) where
  stack := rfl
  stalled := rfl
  queue := rfl
  finished e' := by
    rw [finishedOf_putEngine]
    split
    · rename_i he
      rw [h, he]
    · rfl
  warnings := rfl

theorem putKind {e : EngineId} {old new : EngineKind} (hold : (s.engine e).kind = old)
    (h : new.finished = old.finished) : Steady s (s.putKind e new) :=
  putEngine (h.trans (congrArg EngineKind.finished hold).symm)

theorem warn {w : Warning} (h : w.ofJob = false) : Steady s (s.warn w) where
  stack := rfl
  stalled := rfl
  queue := rfl
  finished _ := rfl
  warnings := by simp [jobWarnings, Relay.warn, h]

theorem note (i : Interaction) : Steady s (s.note i) := .of_eq rfl rfl rfl rfl rfl

theorem take (e : EngineId) : Steady s (s.take e).2 := by
  unfold Relay.take
  cases hk : (s.engine e).kind with
  | inline i => exact putKind hk rfl
  | pooled p => exact putKind hk rfl

theorem giveBack (e : EngineId) (n : Nat) : Steady s (s.giveBack e n) := by
  unfold Relay.giveBack
  cases hk : (s.engine e).kind with
  | inline i => exact putKind hk rfl
  | pooled p =>
    dsimp only
    split
    · exact putKind hk rfl
    · exact warn rfl

theorem setCurrent (e : EngineId) (current : Option Nat) : Steady s (s.setCurrent e current) := by
  unfold Relay.setCurrent
  cases hk : (s.engine e).kind with
  | inline i => exact putKind hk rfl
  | pooled p => exact refl s

theorem newWorker (e : EngineId) : Steady s (s.newWorker e).2 := by
  unfold Relay.newWorker
  cases hk : (s.engine e).kind with
  | inline i => exact putKind hk rfl
  | pooled p => exact refl s

theorem nextJob? {e : EngineId} {job : Job} (h : s.nextJob? e = some (job, s')) : Steady s s' := by
  obtain ⟨i, rest, hk, -, rfl⟩ := nextJob?_eq_some h
  exact putKind hk rfl

theorem newListener (e : EngineId) (v : Value) (mode : Mode) :
    Steady s (s.newListener e v mode).2 := by
  unfold Relay.newListener
  split
  · exact refl s
  · exact .of_eq rfl rfl rfl rfl rfl

theorem request (q : Request) : Steady s (q.run s) := by
  cases q with
  | listen a event v mode =>
    have h : Steady s (s.newListener (s.adapter a).engine v mode).2 := newListener _ v mode
    simp only [Request.run, Relay.listen]
    generalize s.newListener (s.adapter a).engine v mode = made at h
    obtain ⟨_ | l, s'⟩ := made
    · exact h.trans (warn rfl)
    · exact h.trans (.of_eq rfl rfl rfl rfl rfl)
  | unlisten | unlistenValue | unlistenAll => exact .of_eq rfl rfl rfl rfl rfl

theorem closeUnused (e : EngineId) : Steady s (s.closeUnused e) := by
  unfold Relay.closeUnused
  cases hk : (s.engine e).kind with
  | inline i => exact refl s
  | pooled p =>
    dsimp only
    split
    · exact putKind hk rfl
    · exact refl s

theorem putExports (e : EngineId) (m : Modules) : Steady s (Script.putExports e m s) := by
  unfold Script.putExports
  cases hk : (s.engine e).kind with
  | inline i => exact putKind hk rfl
  | pooled p => exact putKind hk rfl

/-- No job has ended on an engine that was not used yet. -/
theorem addEngine {kind : EngineKind} (h : FreshKind kind) :
    Steady s (s.putEngine s.engines.size (Engine.ofKind kind)) := by
  refine putEngine ?_
  rw [finishedOf, engine_size]
  cases h <;> rfl

end Steady

end Relay
end EventRelay
