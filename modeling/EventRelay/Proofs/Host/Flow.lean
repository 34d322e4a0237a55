import EventRelay.Proofs.Host.Exclusive

/-!
# EventRelay.Proofs.Host.Flow

Jobs of pooled engines, with every worker on a thread of its own.

* `Shop`: a relay and the jobs that run. `Shop.Step`: a job is accepted, begun or ended, or
  something else happens, such as an acquisition, a release or a retirement. A worker begins its
  jobs in the order of its queue, one at a time. A job looks its target up when it begins, and ends
  like a call of what it found.
* `Shop.Ledger`: what the events of a flow say about the jobs, worker by worker, and about the
  counters and warnings. `Flow.ledger`: every flow keeps it, by induction on its steps.
* `flow_of_course`: runs of one thread, with jobs that run while it is outside of all workers, are
  such flows.
* `InOrder`, `jobs_in_order`: no job is lost, duplicated or reordered.
-/

namespace EventRelay

/-- What becomes of a job. -/
inductive JobEvent where
  | accepted (job : Job)
  | begun (job : Job)
  /-- With the warning that it left, if it failed or panicked. -/
  | ended (job : Job) (complaint : Option Warning)

namespace JobEvent

def accepted? : JobEvent → Option Job
  | accepted job => some job
  | _ => none

def begun? : JobEvent → Option Job
  | begun job => some job
  | _ => none

def ended? : JobEvent → Option (Job × Option Warning)
  | ended job complaint => some (job, complaint)
  | _ => none

end JobEvent

def acceptedIn (events : List JobEvent) : List Job := events.filterMap JobEvent.accepted?

def begunIn (events : List JobEvent) : List Job := events.filterMap JobEvent.begun?

/-- The jobs that ended, and their warnings. -/
def endedIn (events : List JobEvent) : List (Job × Option Warning) :=
  events.filterMap JobEvent.ended?

@[simp] theorem acceptedIn_append (u v : List JobEvent) :
    acceptedIn (u ++ v) = acceptedIn u ++ acceptedIn v :=
  List.filterMap_append

@[simp] theorem begunIn_append (u v : List JobEvent) : begunIn (u ++ v) = begunIn u ++ begunIn v :=
  List.filterMap_append

@[simp] theorem endedIn_append (u v : List JobEvent) : endedIn (u ++ v) = endedIn u ++ endedIn v :=
  List.filterMap_append

section

variable (job : Job) (complaint : Option Warning)

@[simp] theorem acceptedIn_nil : acceptedIn [] = [] := rfl
@[simp] theorem acceptedIn_begun : acceptedIn [.begun job] = [] := rfl
@[simp] theorem acceptedIn_ended : acceptedIn [.ended job complaint] = [] := rfl

@[simp] theorem begunIn_nil : begunIn [] = [] := rfl
@[simp] theorem begunIn_accepted : begunIn [.accepted job] = [] := rfl
@[simp] theorem begunIn_ended : begunIn [.ended job complaint] = [] := rfl

@[simp] theorem endedIn_nil : endedIn [] = [] := rfl
@[simp] theorem endedIn_accepted : endedIn [.accepted job] = [] := rfl
@[simp] theorem endedIn_begun : endedIn [.begun job] = [] := rfl
@[simp] theorem endedIn_ended : endedIn [.ended job complaint] = [(job, complaint)] := rfl

end

/-- A job that runs, and what its target stood for when it began. -/
structure Running where
  job : Job
  callee : Except Cause Function

/-- A relay, and the jobs that run now, each on the thread of its worker. -/
structure Shop where
  relay : Relay
  running : List Running

namespace Shop

open Relay

def jobs (a : Shop) : List Job := a.running.map Running.job

/-! ## Steps -/

/-- `exits` says how calls of functions may end. -/
inductive Step (exits : Exits) : Shop → List JobEvent → Shop → Prop where
  /-- A worker accepts a job, whoever holds it, if the runtime of its engine is alive. -/
  | accept {s : Relay} {running : List Running} {p : PooledEngine} (job : Job) :
      (s.engine job.home).kind = .pooled p → p.isOpen = true →
      Step exits ⟨s, running⟩ [.accepted job] ⟨{ s with queue := s.queue ++ [job] }, running⟩
  /-- A worker begins the oldest of its jobs, if none of them runs, and looks its target up. -/
  | start {s : Relay} {running : List Running} {before after : List Job} (job : Job) :
      s.queue = before ++ job :: after →
      (∀ other ∈ before ++ running.map Running.job,
        other.runsOn job.home job.number = false) →
      Step exits ⟨s, running⟩ [.begun job]
        ⟨{ s with queue := before ++ after }, running ++ [⟨job, s.callee job.home job.target⟩]⟩
  /-- A job ends like a call of what its target stood for. -/
  | finish {s : Relay} {before after : List Running} (r : Running) (exit : Exit Cause Value) :
      exit.halt? = none → exits.Ends r.job.args exit r.callee →
      Step exits ⟨s, before ++ r :: after⟩ [.ended r.job (s.complaint? r.job exit)]
        ⟨s.conclude r.job (s.complaint? r.job exit), before ++ after⟩
  /-- Workers are acquired, released and retired, and so on. -/
  | elsewhere {s s' : Relay} {running : List Running} {u : List PoolMove} :
      Change s u s' → Quiet s s' → Step exits ⟨s, running⟩ [] ⟨s', running⟩

inductive Flow (exits : Exits) (a : Shop) : List JobEvent → Shop → Prop where
  | refl : Flow exits a [] a
  | step {u v : List JobEvent} {b c : Shop} :
      Flow exits a u b → Step exits b v c → Flow exits a (u ++ v) c

namespace Flow

variable {exits : Exits} {a b c : Shop} {u v : List JobEvent}

theorem single (h : Step exits a v b) : Flow exits a v b := .step .refl h

theorem trans (h : Flow exits a u b) (h' : Flow exits b v c) : Flow exits a (u ++ v) c := by
  induction h' with
  | refl =>
    rw [List.append_nil]
    exact h
  | step _ hs ih =>
    rw [← List.append_assoc]
    exact .step ih hs

end Flow

/-! ## What steps preserve -/

/-- Every worker runs one job at most, and all jobs are jobs of pooled engines. -/
structure Orderly (a : Shop) : Prop where
  alone : ∀ e n, (a.jobs.filter (Job.runsOn e n)).length ≤ 1
  hosted : ∀ job ∈ a.jobs ++ a.relay.queue, ∃ p, (a.relay.engine job.home).kind = .pooled p

/-- What happened to jobs between two states. For every worker, the jobs that ran or waited and
those that were accepted have begun and ended in that order, and the others run or wait. All that
ended were counted, with a warning for each that failed or panicked. -/
structure Ledger (a : Shop) (events : List JobEvent) (b : Shop) : Prop where
  started : ∀ e n, (a.relay.queue ++ acceptedIn events).filter (Job.runsOn e n) =
    (begunIn events ++ b.relay.queue).filter (Job.runsOn e n)
  ended : ∀ e n, (a.jobs ++ begunIn events).filter (Job.runsOn e n) =
    ((endedIn events).map Prod.fst ++ b.jobs).filter (Job.runsOn e n)
  finished : ∀ e, b.relay.finishedOf e = a.relay.finishedOf e ++
    ((endedIn events).filter fun job => job.1.home == e).map fun job => (job.1, job.2.isSome)
  warnings : b.relay.jobWarnings = a.relay.jobWarnings ++ (endedIn events).filterMap Prod.snd

section

variable {exits : Exits} {a b c : Shop} {u v : List JobEvent}

theorem Ledger.refl (a : Shop) : a.Ledger [] a :=
  ⟨fun _ _ => by simp, fun _ _ => by simp, fun _ => by simp, by simp⟩

theorem Ledger.trans (h : a.Ledger u b) (h' : b.Ledger v c) : a.Ledger (u ++ v) c where
  started e n := by
    have h₁ := h.started e n
    have h₂ := h'.started e n
    simp only [acceptedIn_append, begunIn_append, List.filter_append] at h₁ h₂ ⊢
    rw [← List.append_assoc, h₁, List.append_assoc, h₂, List.append_assoc]
  ended e n := by
    have h₁ := h.ended e n
    have h₂ := h'.ended e n
    simp only [begunIn_append, endedIn_append, List.map_append, List.filter_append] at h₁ h₂ ⊢
    rw [← List.append_assoc, h₁, List.append_assoc, h₂, List.append_assoc]
  finished e := by
    rw [h'.finished, h.finished, endedIn_append, List.filter_append, List.map_append,
      List.append_assoc]
  warnings := by
    rw [h'.warnings, h.warnings, endedIn_append, List.filterMap_append, List.append_assoc]

theorem filter_first {before after : List Job} {job : Job}
    (h : ∀ other ∈ before, other.runsOn job.home job.number = false) (e : EngineId) (n : Nat) :
    (before ++ job :: after).filter (Job.runsOn e n) =
      (job :: (before ++ after)).filter (Job.runsOn e n) := by
  cases hjob : job.runsOn e n with
  | false => simp [hjob]
  | true =>
    obtain ⟨rfl, rfl⟩ := Job.eq_of_runsOn hjob
    have hnone : before.filter (Job.runsOn job.home job.number) = [] := by
      simpa [List.filter_eq_nil_iff] using h
    simp [hjob, hnone]

/-- A worker runs no other job beside one that it runs. -/
theorem Orderly.first {before after : List Running} {r : Running} {s : Relay}
    (h : Orderly ⟨s, before ++ r :: after⟩) :
    ∀ other ∈ before.map Running.job, other.runsOn r.job.home r.job.number = false := by
  have halone := h.alone r.job.home r.job.number
  simp only [jobs, List.map_append, List.map_cons, List.filter_append, List.filter_cons,
    r.job.runsOn_self, if_true, List.length_append, List.length_cons] at halone
  have hnil : (before.map Running.job).filter (Job.runsOn r.job.home r.job.number) = [] :=
    List.length_eq_zero_iff.mp (by omega)
  simpa [List.filter_eq_nil_iff] using hnil

theorem Step.orderly (h : Step exits a u b) (ha : a.Orderly) : b.Orderly := by
  cases h with
  | @accept s running p job hp hopen =>
    refine ⟨ha.alone, fun other hmem => ?_⟩
    rw [← List.append_assoc, List.mem_append, List.mem_singleton] at hmem
    rcases hmem with hmem | rfl
    · exact ha.hosted other hmem
    · exact ⟨p, hp⟩
  | @start s running before after job hq hfirst =>
    refine ⟨fun e n => ?_, fun other hmem => ?_⟩
    · have halone := ha.alone e n
      cases hjob : job.runsOn e n with
      | false => simpa [jobs, hjob] using halone
      | true =>
        obtain ⟨rfl, rfl⟩ := Job.eq_of_runsOn hjob
        have hnone : (running.map Running.job).filter (Job.runsOn job.home job.number) = [] := by
          rw [List.filter_eq_nil_iff]
          intro other hmem
          simp [hfirst other (List.mem_append_right _ hmem)]
        rw [jobs, List.map_append, List.filter_append, hnone]
        simp [hjob]
    · refine ha.hosted other ?_
      simp only [jobs, hq, List.map_append, List.map_cons, List.map_nil, List.mem_append,
        List.mem_cons] at hmem ⊢
      tauto
  | @finish s before after r exit hleft hends =>
    refine ⟨fun e n => ?_, fun other hmem => ?_⟩
    · have halone := ha.alone e n
      simp only [jobs, List.map_append, List.map_cons] at halone ⊢
      rw [filter_first ha.first, List.filter_cons] at halone
      split at halone
      · rw [List.length_cons] at halone
        exact Nat.le_of_succ_le halone
      · exact halone
    · obtain ⟨t, ht⟩ := (conclude_runs s r.job (s.complaint? r.job exit)).path
      refine ht.pooled (ha.hosted other ?_)
      simp only [jobs, conclude_queue, List.map_append, List.map_cons, List.mem_append,
        List.mem_cons] at hmem ⊢
      tauto
  | elsewhere hc hquiet =>
    refine ⟨ha.alone, fun other hmem => hc.pooled (ha.hosted other ?_)⟩
    rwa [hquiet.queue] at hmem

theorem Step.ledger (h : Step exits a u b) (ha : a.Orderly) : a.Ledger u b := by
  cases h with
  | accept job hp hopen =>
    exact ⟨fun _ _ => rfl, fun _ _ => by simp [jobs], fun _ => by simp [finishedOf, engine],
      by simp [jobWarnings]⟩
  | @start s running before after job hq hfirst =>
    have hbefore : ∀ other ∈ before, other.runsOn job.home job.number = false :=
      fun other hmem => hfirst other (List.mem_append_left _ hmem)
    refine ⟨fun e n => ?_, fun _ _ => by simp [jobs, begunIn, JobEvent.begun?],
      fun _ => by simp [finishedOf, engine], by simp [jobWarnings]⟩
    rw [hq, acceptedIn_begun, List.append_nil]
    exact filter_first hbefore e n
  | @finish s before after r exit hleft hends =>
    obtain ⟨p, hp⟩ := ha.hosted r.job (by simp [jobs])
    refine ⟨fun _ _ => by simp, fun e n => ?_, fun e => ?_, ?_⟩
    · rw [begunIn_ended, List.append_nil, jobs, List.map_append, List.map_cons, jobs,
        List.map_append]
      exact filter_first ha.first e n
    · rw [conclude_finishedOf hp, endedIn_ended]
      by_cases he : r.job.home = e <;> simp [he]
    · rw [conclude_jobWarnings fun w hw => complaint?_ofJob hw, endedIn_ended]
      cases s.complaint? r.job exit <;> rfl
  | elsewhere hc hquiet =>
    exact ⟨fun _ _ => by simp [hquiet.queue], fun _ _ => by simp [jobs],
      fun e => by simp [hquiet.finished e], by simp [hquiet.warnings]⟩

theorem Flow.ledger (h : Flow exits a u b) (ha : a.Orderly) : b.Orderly ∧ a.Ledger u b := by
  induction h with
  | refl => exact ⟨ha, .refl a⟩
  | step _ hs ih => exact ⟨hs.orderly ih.1, ih.2.trans (hs.ledger ih.1)⟩

/-! ## Progress -/

theorem can_start (exits : Exits) (a : Shop) {e : EngineId} {n : Nat} {job : Job}
    {rest : List Job} (hnext : a.relay.queue.filter (Job.runsOn e n) = job :: rest)
    (hfree : a.jobs.filter (Job.runsOn e n) = []) : ∃ b, Step exits a [.begun job] b := by
  obtain ⟨before, after, hq, hbefore, hjob, -⟩ := List.filter_eq_cons_iff.mp hnext
  obtain ⟨rfl, rfl⟩ := Job.eq_of_runsOn hjob
  refine ⟨_, .start job hq fun other hmem => ?_⟩
  rcases List.mem_append.mp hmem with hmem | hmem
  · simpa using hbefore other hmem
  · simpa using List.filter_eq_nil_iff.mp hfree other hmem

theorem can_finish (a : Shop) {r : Running} (hr : r ∈ a.running) {exit : Exit Cause Value}
    (hexit : exit.halt? = none) (hends : exits.Ends r.job.args exit r.callee) :
    ∃ b, Step exits a [.ended r.job (a.relay.complaint? r.job exit)] b := by
  obtain ⟨s, running⟩ := a
  obtain ⟨before, after, rfl⟩ := List.append_of_mem hr
  exact ⟨_, .finish r exit hexit hends⟩

/-! ## Empty queues -/

/-- What a ledger comes to when no job runs or waits before and after it. -/
structure Drained (a : Shop) (events : List JobEvent) (b : Shop) : Prop where
  begun : ∀ e n, (begunIn events).filter (Job.runsOn e n) =
    (acceptedIn events).filter (Job.runsOn e n)
  ended : ∀ e n, ((endedIn events).map Prod.fst).filter (Job.runsOn e n) =
    (acceptedIn events).filter (Job.runsOn e n)
  completed : ∀ e p p', (a.relay.engine e).kind = .pooled p → (b.relay.engine e).kind = .pooled p' →
    p'.jobsCompleted = p.jobsCompleted + (acceptedIn events).countP fun job => job.home == e
  failed : ∀ e p p', (a.relay.engine e).kind = .pooled p → (b.relay.engine e).kind = .pooled p' →
    p'.jobsFailed = p.jobsFailed +
      (endedIn events).countP fun job => job.1.home == e && job.2.isSome
  warnings : b.relay.jobWarnings = a.relay.jobWarnings ++ (endedIn events).filterMap Prod.snd

theorem perm_of_runsOn {l l' : List Job}
    (h : ∀ e n, l.filter (Job.runsOn e n) = l'.filter (Job.runsOn e n)) : l.Perm l' := by
  classical
  refine List.perm_iff_count.mpr fun job => ?_
  rw [← List.count_filter job.runsOn_self, h, List.count_filter job.runsOn_self]

theorem Ledger.drained (h : a.Ledger u b) (hrunning : a.running = []) (hqueue : a.relay.queue = [])
    (hrunning' : b.running = []) (hqueue' : b.relay.queue = []) : a.Drained u b := by
  have hbegun (e : EngineId) (n : Nat) : (begunIn u).filter (Job.runsOn e n) =
      (acceptedIn u).filter (Job.runsOn e n) := by
    have hstarted := h.started e n
    rw [hqueue, hqueue', List.nil_append, List.append_nil] at hstarted
    exact hstarted.symm
  have hended (e : EngineId) (n : Nat) : ((endedIn u).map Prod.fst).filter (Job.runsOn e n) =
      (acceptedIn u).filter (Job.runsOn e n) := by
    have hended := h.ended e n
    rw [jobs, jobs, hrunning, hrunning', List.map_nil, List.nil_append, List.append_nil] at hended
    exact hended.symm.trans (hbegun e n)
  have hfinished {e : EngineId} {p p' : PooledEngine} (hp : (a.relay.engine e).kind = .pooled p)
      (hp' : (b.relay.engine e).kind = .pooled p') : p'.finished = p.finished ++
        ((endedIn u).filter fun job => job.1.home == e).map fun job => (job.1, job.2.isSome) := by
    have hfinished := h.finished e
    simp only [finishedOf, hp, hp'] at hfinished
    exact hfinished
  refine ⟨hbegun, hended, fun e p p' hp hp' => ?_, fun e p p' hp hp' => ?_, h.warnings⟩
  · rw [← (perm_of_runsOn hended).countP_eq, PooledEngine.jobsCompleted, hfinished hp hp',
      List.length_append, List.length_map, ← List.countP_eq_length_filter, List.countP_map]
    rfl
  · rw [PooledEngine.jobsFailed, hfinished hp hp', List.countP_append, List.countP_map,
      List.countP_filter]
    congr 2
    funext job
    exact Bool.and_comm _ _

end

/-! ## Runs of one thread -/

section

variable {exits : Exits} {s s' : Relay}

theorem Flow.elsewhere {moves : List PoolMove} (hc : Change s moves s') (hquiet : Quiet s s')
    (running : List Running) : Flow exits ⟨s, running⟩ [] ⟨s', running⟩ :=
  .single (.elsewhere hc hquiet)

theorem flow_take (s : Relay) (e : EngineId) (running : List Running) :
    Flow exits ⟨s, running⟩ [] ⟨(s.take e).2, running⟩ :=
  .elsewhere (.take e) (Steady.take e).toQuiet running

variable (exits) in
theorem flow_enter {m : Marker} (htop : s.stack.head?.map Marker.number ≠ some m.number)
    (hfree : ¬ s.Waits m.home m.number) (running : List Running) :
    Flow exits ⟨s, running⟩ [] ⟨{ s with stack := m :: s.stack }, running⟩ :=
  .elsewhere (change_entered htop hfree) ⟨rfl, fun _ => rfl, rfl⟩ running

variable (exits) in
theorem flow_leave {m : Marker} {stack : List Marker} (hs : s.stack = m :: stack)
    (running : List Running) : Flow exits ⟨s, running⟩ [] ⟨{ s with stack := stack }, running⟩ :=
  .elsewhere (.left m stack hs) ⟨rfl, fun _ => rfl, rfl⟩ running

theorem flow_stalled (s : Relay) (reason : Halt) (running : List Running) :
    Flow exits ⟨s, running⟩ [] ⟨{ s with stalled := some reason }, running⟩ :=
  .elsewhere (.record s.names s.calls s.gates s.log s.inner s.reported _)
    ⟨rfl, fun _ => rfl, rfl⟩ running

/-- The oldest job of a worker is begun, runs inside the worker, and ends. -/
theorem flow_job {before after : List Job} {job : Job} {held : Bool} {exit : Exit Cause Value}
    {events : List JobEvent} (hs : s.stack = []) (hq : s.queue = before ++ job :: after)
    (hfirst : ∀ other ∈ before, other.runsOn job.home job.number = false)
    (hexit : exit.halt? = none) (hends : exits.Ends job.args exit (s.callee job.home job.target))
    (hstack : s'.stack = [⟨job.home, job.number, held⟩])
    (hbody : Flow exits
      ⟨{ s with queue := before ++ after, stack := ⟨job.home, job.number, held⟩ :: s.stack },
        [⟨job, s.callee job.home job.target⟩]⟩ events
      ⟨s', [⟨job, s.callee job.home job.target⟩]⟩) :
    let left := { s' with stack := s.stack }
    Flow exits ⟨s, []⟩ (.begun job :: events ++ [.ended job (left.complaint? job exit)])
      ⟨left.conclude job (left.complaint? job exit), []⟩ := by
  have hbegin : Step exits ⟨s, []⟩ [.begun job]
      ⟨{ s with queue := before ++ after }, [⟨job, s.callee job.home job.target⟩]⟩ :=
    @Step.start _ s [] before after job hq (by simpa using hfirst)
  have henter := flow_enter exits (s := { s with queue := before ++ after })
    (m := ⟨job.home, job.number, held⟩) (by simp [hs]) (by simp [Waits, hs])
    [⟨job, s.callee job.home job.target⟩]
  have hleave := flow_leave exits (hs ▸ hstack) [⟨job, s.callee job.home job.target⟩]
  have hran := (((Flow.single hbegin).trans henter).trans hbody).trans hleave
  simpa using hran.step (@Step.finish _ _ [] [] ⟨job, _⟩ exit hexit hends)

theorem flow_of_course {loose : Prop} {halted : Option Halt}
    (h : Course loose NoCalls exits s halted s') (running : List Running)
    (hrunning : s.stack = [] → running = []) :
    ∃ events running', Flow exits ⟨s, running⟩ events ⟨s', running'⟩ ∧
      (halted = none → running' = running) := by
  -- Induction on the course. Jobs begin only where the thread is outside of all workers, and there
  -- nothing runs; a part that is left has ended all that it began.
  induction h generalizing running with
  | stay | spent | waits | endless => exact ⟨[], running, .refl, fun _ => rfl⟩
  | called h => exact h.elim
  | @andThen s s' s'' halted h _ ih ih' =>
    have hstack : s'.stack = s.stack := h.stack_eq
    obtain ⟨u, running₁, hu, hsame⟩ := ih running hrunning
    obtain rfl := hsame rfl
    obtain ⟨v, running₂, hv, hkept⟩ := ih' running₁ fun hempty => hrunning (hstack ▸ hempty)
    exact ⟨u ++ v, running₂, hu.trans hv, hkept⟩
  | change hc hs => exact ⟨[], running, .elsewhere hc hs.toQuiet running, fun _ => rfl⟩
  | moved _ hc hs => exact ⟨[], running, .elsewhere hc hs.toQuiet running, fun _ => rfl⟩
  | @leased s s' e _ ih =>
    obtain ⟨u, running', hu, hsame⟩ := ih running fun hempty => hrunning (by simpa using hempty)
    have hgive : Step exits ⟨s', running'⟩ [] ⟨s'.giveBack e (s.take e).1.number, running'⟩ :=
      .elsewhere (.giveBack e _) (Steady.giveBack e _).toQuiet
    exact ⟨_, running', ((flow_take s e running).trans hu).step hgive, fun _ => hsame rfl⟩
  | @leaseStuck s s' reason e _ ih =>
    obtain ⟨u, running', hu, -⟩ := ih running fun hempty => hrunning (by simpa using hempty)
    exact ⟨_, running', (flow_take s e running).trans hu, nofun⟩
  | inside m htop hfree h ih =>
    obtain ⟨u, running₁, hu, hsame⟩ := ih running nofun
    obtain rfl := hsame rfl
    have hleave := flow_leave exits h.stack_eq running₁
    have hran := ((flow_enter exits htop hfree running₁).trans hu).trans hleave
    exact ⟨_, running₁, hran, fun _ => rfl⟩
  | insideStuck m htop hfree _ ih =>
    obtain ⟨u, running', hu, -⟩ := ih running nofun
    exact ⟨_, running', (flow_enter exits htop hfree running).trans hu, nofun⟩
  | submitted job hp hopen => exact ⟨_, running, .single (.accept job hp hopen), fun _ => rfl⟩
  | job job held exit hs hq hfirst hexit hends h ih =>
    obtain rfl := hrunning hs
    obtain ⟨u, running', hu, hsame⟩ := ih [⟨job, _⟩] nofun
    obtain rfl := hsame rfl
    have hstack := h.stack_eq
    rw [hs] at hstack
    exact ⟨_, [], flow_job hs hq hfirst hexit hends hstack hu, fun _ => rfl⟩
  | @stalled s _ _ _ reason =>
    exact ⟨[], running, flow_stalled s reason running, fun _ => rfl⟩
  | exhausted s => exact ⟨[], running, flow_stalled s _ running, fun _ => rfl⟩

/-! ## Jobs in order -/

/-- Without a refusal, a worker accepts every job while the runtime of its engine is alive. -/
theorem submit_accepts (exits : Exits) {w : Worker} {p : PooledEngine}
    (hp : (s.engine w.home).kind = .pooled p) (hopen : p.isOpen = true)
    (hvia : (s.engine w.via).refuseSubmit s.trace = none) (t : Target) (args : List Value)
    (running : List Running) :
    ∃ s', submit w t args s = (.ok (), s') ∧
      Flow exits ⟨s, running⟩ [.accepted ⟨w.home, w.number, t, args⟩] ⟨s', running⟩ := by
  refine ⟨{ s.note (.submitted w t args true) with
    queue := s.queue ++ [⟨w.home, w.number, t, args⟩] }, ?_, ?_⟩
  · simp only [submit, hvia, hp, hopen, if_true]
  · have hnote : Flow exits ⟨s, running⟩ [] ⟨s.note (.submitted w t args true), running⟩ :=
      .elsewhere (.note _) (Steady.note _).toQuiet running
    exact hnote.step (.accept ⟨w.home, w.number, t, args⟩ hp hopen)

/-- The oldest job of a worker, on a thread of its own, is a flow that begins and ends it. -/
theorem runJob_flow {loose : Prop} {call : Caller} (hcall : call.Courses loose NoCalls exits)
    (keeps : Keeps) {job : Job} {before after : List Job} (hs : s.stack = [])
    (hq : s.queue = before ++ job :: after)
    (hfirst : ∀ other ∈ before, other.runsOn job.home job.number = false)
    (hran : runJob call keeps job { s with queue := before ++ after } = (none, s')) :
    ∃ events complaint,
      Flow exits ⟨s, []⟩ (.begun job :: events ++ [.ended job complaint]) ⟨s', []⟩ := by
  rw [runJob_eq] at hran
  dsimp only at hran
  generalize (_ || _ : Bool) = held at hran
  rw [within_of_new (by simp [hs]) (by simp [Waits, hs])] at hran
  dsimp only at hran
  obtain ⟨s₁, hs₁⟩ : ∃ s₁ : Relay, s₁ = { s with
      queue := before ++ after, stack := ⟨job.home, job.number, held⟩ :: s.stack } := ⟨_, rfl⟩
  rw [← hs₁] at hran
  have hbody := runTarget_course hcall job.home job.target job.args s₁
  have hends := runTarget_ends hcall job.home job.target job.args s₁
  generalize runTarget call job.home job.target job.args s₁ = out at hbody hends hran
  subst hs₁
  obtain ⟨exit, s₂⟩ := out
  cases exit with
  | halt reason => cases hran
  | ok | error | panic =>
    cases hran
    obtain ⟨events, running', hflow, hsame⟩ :=
      flow_of_course hbody [⟨job, _⟩] fun hempty => absurd hempty (List.cons_ne_nil _ _)
    obtain rfl := hsame rfl
    have hstack := hbody.stack_eq
    rw [hs] at hstack
    exact ⟨events, _, flow_job hs hq hfirst rfl hends hstack hflow⟩

end

/-- What becomes of the jobs of pooled engines. -/
structure InOrder : Prop where
  /-- Of the jobs of every worker, those that were accepted begin and end in that order, one at a
  time. Every job that ends is counted, and one that failed or panicked leaves a warning. -/
  ledger : ∀ exits (a b : Shop) events, a.Orderly → a.Flow exits events b →
    b.Orderly ∧ a.Ledger events b
  drained : ∀ exits (a b : Shop) events, a.Orderly → a.Flow exits events b →
    a.running = [] → a.relay.queue = [] → b.running = [] → b.relay.queue = [] → a.Drained events b
  /-- A worker that runs no job can begin its next one. -/
  can_start : ∀ exits (a : Shop) e n job rest,
    a.relay.queue.filter (Job.runsOn e n) = job :: rest → a.jobs.filter (Job.runsOn e n) = [] →
    ∃ b, a.Step exits [.begun job] b
  /-- A job can end by whatever way out the call of its target has. -/
  can_finish : ∀ exits (a : Shop) r exit, r ∈ a.running → exit.halt? = none →
    exits.Ends r.job.args exit r.callee →
    ∃ b, a.Step exits [.ended r.job (a.relay.complaint? r.job exit)] b
  /-- A worker refuses no job while the runtime of its engine is alive. -/
  accepts : ∀ exits w t args (s : Relay) p running, (s.engine w.home).kind = .pooled p →
    p.isOpen = true → (s.engine w.via).refuseSubmit s.trace = none →
    ∃ s', submit w t args s = (.ok (), s') ∧
      Flow exits ⟨s, running⟩ [.accepted ⟨w.home, w.number, t, args⟩] ⟨s', running⟩
  /-- A job that runs to its end is begun and ended. -/
  runs : ∀ exits (call : Caller), call.Courses True NoCalls exits →
    ∀ keeps (s s' : Relay) before job after, s.stack = [] → s.queue = before ++ job :: after →
    (∀ other ∈ before, other.runsOn job.home job.number = false) →
    runJob call keeps job { s with queue := before ++ after } = (none, s') →
    ∃ events complaint,
      Flow exits ⟨s, []⟩ (.begun job :: events ++ [.ended job complaint]) ⟨s', []⟩
  /-- The runs of a script are such flows, and outside of all workers they leave no job waiting. -/
  scripts : ∀ (program : Script.Program) depth steps (s : Relay) running,
    (s.stack = [] → running = []) →
    let out := Script.runSteps (Script.runner program depth) steps s
    ∃ events running', Flow program.Exits ⟨s, running⟩ events ⟨out.2, running'⟩ ∧
      (Script.haltOf out.1 = none → running' = running ∧
        ((s.stack = [] → s.queue = []) → s.stack = [] → out.2.queue = []))

/-- Jobs are neither lost nor duplicated nor reordered, whatever happens in between to the workers
that run them. -/
theorem jobs_in_order : InOrder where
  ledger _ _ _ _ ha hflow := hflow.ledger ha
  drained _ _ _ _ ha hflow := (hflow.ledger ha).2.drained
  can_start exits a _ _ _ _ hnext hfree := Shop.can_start exits a hnext hfree
  can_finish _ a _ _ hr hexit hends := Shop.can_finish a hr hexit hends
  accepts exits _ t args _ _ running hp hopen hvia :=
    submit_accepts exits hp hopen hvia t args running
  runs _ _ hcall keeps _ _ _ _ _ hs hq hfirst hran := runJob_flow hcall keeps hs hq hfirst hran
  scripts program depth steps s running hrunning := by
    have hx : (Script.runner program depth).Courses True NoCalls program.Exits :=
      Script.runner_course (fun _ => trivial) depth
    have hcourse := Script.runSteps_course hx steps (fun _ => trivial) s
    obtain ⟨events, running', hflow, hkept⟩ := flow_of_course hcourse running hrunning
    exact ⟨events, running', hflow, fun hnone => ⟨hkept hnone, fun hqueue hs =>
      Script.runSteps_settled hx trivial hs (fun _ => hqueue hs) hnone⟩⟩

/-- A worker is acquired from an engine that keeps none. -/
def engaged : List Script.Step :=
  [.startEngine "e" (.pooled ⟨.owning, none, some 0, none, none⟩), .acquire "e" "a"]

/-- Inside another worker, it is given a job that returns, one that fails, one that panics and,
after it was retired, one that has nothing to call. -/
def fourJobs : List Script.Step :=
  [.inWorker "e" [.submit "a" (.function (Function.anonymous "log")) [],
    .submit "a" (.function (Function.anonymous "bad")) [],
    .submit "a" (.function (Function.anonymous "wild")) [], .release "e" "a",
    .submit "a" (.export "m" "f") []]]

def failing : Script.Program :=
  [("bad", .body [.fail "no"] none), ("wild", .body [.panic "no"] none)]

theorem jobs_in_order_retired :
    let x := Script.runner failing 9
    ∃ s s' events, s = (Script.runSteps x engaged Script.start).2 ∧
      s' = (Script.runSteps x fourJobs s).2 ∧ Flow failing.Exits ⟨s, []⟩ events ⟨s', []⟩ ∧
      Drained ⟨s, []⟩ events ⟨s', []⟩ ∧
      ((acceptedIn events).countP fun job => job.home == 0) = 4 ∧
      ((endedIn events).countP fun job => job.1.home == 0 && job.2.isSome) = 3 ∧
      ((endedIn events).filterMap Prod.snd).length = 3 := by
  intro x
  obtain ⟨s, hs⟩ : ∃ s, s = (Script.runSteps x engaged Script.start).2 := ⟨_, rfl⟩
  obtain ⟨s', hs'⟩ : ∃ s', s' = (Script.runSteps x fourJobs s).2 := ⟨_, rfl⟩
  obtain ⟨hstack, hqueue, hpool, hpool', hhalt⟩ : s.stack = [] ∧ s.queue.length = 0 ∧
      (s.poolOf 0).isSome ∧ (s'.poolOf 0).isSome ∧
      Script.haltOf (Script.runSteps x fourJobs s).1 = none := by
    rw [hs', hs]
    decide +kernel
  obtain ⟨hcompleted, hfailed, hwarned⟩ :
      ((s.finishedOf 0).length = 0 ∧ (s'.finishedOf 0).length = 4) ∧
        ((s.finishedOf 0).countP (·.2) = 0 ∧ (s'.finishedOf 0).countP (·.2) = 3) ∧
        s.jobWarnings.length = 0 ∧ s'.jobWarnings.length = 3 := by
    rw [hs', hs]
    decide +kernel
  have hqueue' : s.queue = [] := List.length_eq_zero_iff.mp hqueue
  obtain ⟨p, hp⟩ := isSome_poolOf.mp hpool
  obtain ⟨p', hp'⟩ := isSome_poolOf.mp hpool'
  obtain ⟨events, running', hflow, hkept⟩ :=
    jobs_in_order.scripts failing 9 fourJobs s [] fun _ => rfl
  obtain ⟨hrunning, hsettled⟩ := hkept hhalt
  rw [← hs', hrunning] at hflow
  rw [← hs'] at hsettled
  have horderly : Orderly ⟨s, []⟩ := ⟨fun _ _ => by simp [jobs], by simp [jobs, hqueue']⟩
  have hdrained := jobs_in_order.drained _ _ _ events horderly hflow rfl hqueue' rfl
    (hsettled (fun _ => hqueue') hstack)
  have hgrown := hdrained.completed 0 p p' hp hp'
  have hgrown' := hdrained.failed 0 p p' hp hp'
  have hgrown'' := congrArg List.length hdrained.warnings
  simp only [finishedOf, hp, hp', EngineKind.finished] at hcompleted hfailed
  rw [PooledEngine.jobsCompleted, PooledEngine.jobsCompleted, hcompleted.1, hcompleted.2] at hgrown
  rw [PooledEngine.jobsFailed, PooledEngine.jobsFailed, hfailed.1, hfailed.2] at hgrown'
  rw [List.length_append, hwarned.1, hwarned.2] at hgrown''
  exact ⟨s, s', events, hs, hs', hflow, hdrained, by simpa using hgrown.symm,
    by simpa using hgrown'.symm, by simpa using hgrown''.symm⟩

end Shop
end EventRelay
