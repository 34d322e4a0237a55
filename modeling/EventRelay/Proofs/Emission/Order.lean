import EventRelay.Proofs.Emission.Lease
import EventRelay.Proofs.Host.Entry
import EventRelay.Proofs.Host.Flow
import EventRelay.Proofs.Host.Lending
import EventRelay.Proofs.Law
import EventRelay.Proofs.Listener.Persistence
import EventRelay.Proofs.Script.Path

/-!
# EventRelay.Proofs.Emission.Order

The order of listeners that nobody waits for.

* `Handings`: the trace of handing listeners to workers, and `Shop.KeepsOrder`: what becomes of the
  jobs of one worker, by its queue alone.
* `Relay.Undisturbed`: during an emission, nobody else uses the pool of its engine.
* `Relay.handed`, `dispatch_eq`: what one dispatch does then. `Relay.HandedOver`: what all of them
  do, by induction on the listeners.
* `async_listeners_in_order`: one worker gets all listeners and runs them in their order, if the
  pool keeps idle workers.
-/

namespace EventRelay

/-! ## What is handed to workers -/

/-- What it leaves in the trace to hand listeners to workers of the given numbers, each of which is
acquired for its listener and given back. What other threads leave there meanwhile satisfies `P`. -/
inductive Handings (P : List Interaction → Prop) (e : EngineId) (args : List Value)
    (taken : Bool) : List Listener → List Nat → List Interaction → Prop where
  | none : Handings P e args taken [] [] []
  | next {l : Listener} {ls : List Listener} {n : Nat} {ns : List Nat}
      {u v : List Interaction} : P u → Handings P e args taken ls ns v →
      Handings P e args taken (l :: ls) (n :: ns)
        (.acquired e ⟨e, n, e⟩ :: .submitted ⟨e, n, e⟩ l.target args taken ::
          (u ++ .released e ⟨e, n, e⟩ :: v))

/-- The jobs of listeners that are handed to workers of the given numbers. -/
def jobsFor (e : EngineId) (args : List Value) (ls : List Listener) (ns : List Nat) : List Job :=
  List.zipWith (fun l n => ⟨e, n, l.target, args⟩) ls ns

namespace Shop

/-- Jobs that were accepted by one worker begin and end in their order. Those that have not done so
wait or run, in their order. -/
structure KeepsOrder (jobs : List Job) (e : EngineId) (n : Nat) (events : List JobEvent)
    (b : Shop) : Prop where
  begun : jobs.Sublist ((begunIn events ++ b.relay.queue).filter (Job.runsOn e n))
  ended : jobs.Sublist
    (((endedIn events).map Prod.fst ++ b.jobs ++ b.relay.queue).filter (Job.runsOn e n))

theorem Ledger.keepsOrder {a b : Shop} {events : List JobEvent} (h : a.Ledger events b)
    {jobs : List Job} {e : EngineId} {n : Nat} (hjobs : jobs.Sublist (acceptedIn events))
    (hon : ∀ job ∈ jobs, job.runsOn e n = true) : KeepsOrder jobs e n events b := by
  have haccepted : jobs.Sublist ((a.relay.queue ++ acceptedIn events).filter (Job.runsOn e n)) := by
    rw [← List.filter_eq_self.mpr hon]
    exact (hjobs.trans (List.sublist_append_right ..)).filter _
  have hbegun : jobs.Sublist ((begunIn events ++ b.relay.queue).filter (Job.runsOn e n)) :=
    h.started e n ▸ haccepted
  -- What ran at the start and what has begun since has ended or runs, in this order.
  refine ⟨hbegun, hbegun.trans ?_⟩
  rw [List.filter_append, List.filter_append, ← h.ended e n]
  refine List.Sublist.append ?_ (List.Sublist.refl _)
  exact (List.sublist_append_right ..).filter _

end Shop

/-! ## Engines that nobody else uses -/

/-- What decides over acquisitions and submissions: the pool of an engine, whether its runtime is
alive, and what it refuses. -/
def Engine.standing (engine : Engine) : Option (Pool × Bool) × Refusal × Refusal :=
  (match engine.kind with
    | .pooled p => some (p.pool, p.isOpen)
    | .inline _ => none, engine.refuseAcquire, engine.refuseSubmit)

namespace Relay

def standing (s : Relay) (e : EngineId) : Option (Pool × Bool) × Refusal × Refusal :=
  (s.engine e).standing

/-- A pooled engine that refuses nothing, with its pool and whether its runtime is alive. -/
def Serves (e : EngineId) (q : Pool) (alive : Bool) (s : Relay) : Prop :=
  s.standing e = (some (q, alive), .always none, .always none)

/-- An engine stands as it did. -/
def Spared (e : EngineId) (s s' : Relay) : Prop := s'.standing e = s.standing e

/-- During an emission to listeners that nobody waits for, other threads leave the engine as it
stands. -/
def Undisturbed (x : Runner) (e : EngineId) (event : String) (args : List Value) :
    List Listener → Relay → Prop
  | [], _ => True
  | l :: rest, s =>
    (∀ w s₁ s₂, s.acquire e = (.ok w, s₁) → submit w l.target args s₁ = (.ok (), s₂) →
      Spared e s₂ ((x.keepingWorker w).meanwhile s₂)) ∧
    Undisturbed x e event args rest ((host x e).dispatch event l args s).2

section

variable {e : EngineId} {q : Pool} {alive : Bool} {s s' : Relay}

theorem spared_of_engines (h : s'.engines = s.engines) (e : EngineId) : Spared e s s' := by
  simp only [Spared, standing, engine, h]

theorem serves_of_pooled {p : PooledEngine} (hp : (s.engine e).kind = .pooled p)
    (hacquire : (s.engine e).refuseAcquire = .always none)
    (hsubmit : (s.engine e).refuseSubmit = .always none) : Serves e p.pool p.isOpen s := by
  simp only [Serves, standing, Engine.standing, hp, hacquire, hsubmit]

namespace Serves

theorem pooled (h : Serves e q alive s) :
    ∃ p, (s.engine e).kind = .pooled p ∧ p.pool = q ∧ p.isOpen = alive := by
  have hpool := congrArg Prod.fst h
  unfold standing Engine.standing at hpool
  cases hk : (s.engine e).kind with
  | inline i =>
    rw [hk] at hpool
    cases hpool
  | pooled p =>
    rw [hk] at hpool
    cases hpool
    exact ⟨p, rfl, rfl, rfl⟩

theorem refuseAcquire (h : Serves e q alive s) : (s.engine e).refuseAcquire = .always none :=
  congrArg (fun standing => standing.2.1) h

theorem refuseSubmit (h : Serves e q alive s) : (s.engine e).refuseSubmit = .always none :=
  congrArg (fun standing => standing.2.2) h

theorem grantsAcquire (h : Serves e q alive s) (trace : List Interaction) :
    (s.engine e).refuseAcquire trace = none := by
  rw [h.refuseAcquire]
  rfl

theorem grantsSubmit (h : Serves e q alive s) (trace : List Interaction) :
    (s.engine e).refuseSubmit trace = none := by
  rw [h.refuseSubmit]
  rfl

theorem kept (h : Serves e q alive s) (hs : Spared e s s') : Serves e q alive s' :=
  hs.trans h

/-- The pool changes, and nothing else. -/
theorem putPool (h : Serves e q alive s) {p : PooledEngine} (hp : (s.engine e).kind = .pooled p)
    (q' : Pool) : Serves e q' alive (s.putKind e (.pooled { p with pool := q' })) := by
  obtain ⟨p', hp', -, hopen⟩ := h.pooled
  rw [hp] at hp'
  cases hp'
  have hengine : (s.putKind e (.pooled { p with pool := q' })).engine e =
      { s.engine e with kind := .pooled { p with pool := q' } } := by
    rw [putKind, engine_putEngine, if_pos rfl]
  rw [Serves, standing, hengine]
  simp only [Engine.standing, hopen, h.refuseAcquire, h.refuseSubmit]

theorem acquire (h : Serves e q alive s) :
    ∃ s₁, s.acquire e = (.ok ⟨e, q.acquire.1, e⟩, s₁) ∧ Serves e q.acquire.2 alive s₁ := by
  obtain ⟨p, hp, rfl, -⟩ := h.pooled
  have hacquire : s.acquire e = (.ok ⟨e, p.pool.acquire.1, e⟩,
      (s.putKind e (.pooled { p with pool := p.pool.acquire.2 })).note
        (.acquired e ⟨e, p.pool.acquire.1, e⟩)) := by
    simp only [Relay.acquire, h.grantsAcquire, take_pooled hp]
  exact ⟨_, hacquire, (h.putPool hp p.pool.acquire.2).kept (spared_of_engines rfl e)⟩

theorem release (h : Serves e q alive s) (n : Nat) :
    Serves e ((q.release n).getD q) alive (s.release e ⟨e, n, e⟩) := by
  obtain ⟨p, hp, rfl, -⟩ := h.pooled
  have hnoted : Serves e p.pool alive (s.note (.released e ⟨e, n, e⟩)) :=
    h.kept (spared_of_engines rfl e)
  have hp' : ((s.note (.released e ⟨e, n, e⟩)).engine e).kind = .pooled p := hp
  simp only [Relay.release, giveBack, hp']
  cases p.pool.release n with
  | none => exact hnoted.kept (spared_of_engines rfl e)
  | some q => exact hnoted.putPool hp' q

end Serves

end

/-! ## One listener -/

/-- A job was accepted by a worker and waits. -/
def awaiting (s : Relay) (w : Worker) (t : Target) (args : List Value) : Relay :=
  { s.note (.submitted w t args true) with queue := s.queue ++ [⟨w.home, w.number, t, args⟩] }

/-- A listener that nobody waits for was handed to a worker, and other threads went on; or it was
dropped because the runtime has ended. -/
def handed (x : Runner) (e : EngineId) (event : String) (args : List Value) (l : Listener)
    (n : Nat) (alive : Bool) (s : Relay) : Relay :=
  match alive with
  | true => (x.keepingWorker ⟨e, n, e⟩).meanwhile (s.awaiting ⟨e, n, e⟩ l.target args)
  | false => (s.note (.submitted ⟨e, n, e⟩ l.target args false)).warn
      (.notSubmitted event (Worker.nameOf n) (.host (.queueClosed n)))

/-- Listeners were handed to workers of the given numbers, and their jobs were accepted in that
order if the runtime of the engine is alive. -/
structure HandedOver (x : Runner) (e : EngineId) (args : List Value) (alive : Bool)
    (ls : List Listener) (ns : List Nat) (s s' : Relay) : Prop where
  trace : ∀ (P : List Interaction → Prop) [Composable P], x.Extends P →
    ∃ u, Handings P e args alive ls ns u ∧ s'.trace = s.trace ++ u
  flow : ∀ exits, alive = true → x.Courses True NoCalls exits →
    ∀ running, (s.stack = [] → running = []) →
    ∃ events, Shop.Flow exits ⟨s, running⟩ events ⟨s', running⟩ ∧
      (jobsFor e args ls ns).Sublist (acceptedIn events)

section

variable {exits : Exits} {x : Runner} {e : EngineId} {event : String} {args : List Value}
  {l : Listener} {q : Pool} {alive : Bool} {n : Nat} {s s₁ s' : Relay}

theorem submit_awaiting {w : Worker} {t : Target} (h : Serves e q true s) (hw : w.home = e)
    (hvia : w.via = e) : submit w t args s = (.ok (), s.awaiting w t args) := by
  obtain ⟨p, hp, -, hopen⟩ := h.pooled
  simp only [submit, hw, hvia, h.grantsSubmit, hp, hopen, if_true, awaiting]

theorem runOn_eq (x : Runner) (event : String) (args : List Value) (n : Nat)
    (h : Serves e q alive s) (hm : l.mode = .async) :
    (host x e).runOn event l args ⟨e, n, e⟩ s = (.ok (), handed x e event args l n alive s) := by
  simp only [Host.runOn, hm, host, handOver, handed]
  cases alive with
  | true => rw [submit_awaiting h rfl rfl]
  | false =>
    obtain ⟨p, hp, -, hopen⟩ := h.pooled
    simp only [submit, h.grantsSubmit, hp, hopen]
    rfl

variable (e event args l n alive) in
theorem handed_adds {P : List Interaction → Prop} [Composable P] (hx : x.Extends P) (s : Relay) :
    Adds P (s.trace ++ [.submitted ⟨e, n, e⟩ l.target args alive])
      (handed x e event args l n alive s).trace := by
  cases alive with
  | false => exact .refl _
  | true => exact hx.others _ (s.awaiting ⟨e, n, e⟩ l.target args)

/-- Code that comes back leaves the jobs running that ran before. -/
theorem flow_of_left (h : Course True NoCalls exits s none s') (running : List Running)
    (hrunning : s.stack = [] → running = []) :
    ∃ events, Shop.Flow exits ⟨s, running⟩ events ⟨s', running⟩ ∧
      (s'.stack = [] → running = []) := by
  obtain ⟨events, running', hflow, hsame⟩ := Shop.flow_of_course h running hrunning
  obtain rfl := hsame rfl
  exact ⟨events, hflow, fun hempty => hrunning (h.stack_eq ▸ hempty)⟩

variable (event args l n) in
theorem handed_flow (hx : x.Courses True NoCalls exits) (hs : Serves e q true s)
    (running : List Running) (hrunning : s.stack = [] → running = []) :
    let s' := handed x e event args l n true s
    ∃ events, Shop.Flow exits ⟨s, running⟩ events ⟨s', running⟩ ∧ (s'.stack = [] → running = []) ∧
      ⟨e, n, l.target, args⟩ ∈ acceptedIn events := by
  obtain ⟨p, hp, -, hopen⟩ := hs.pooled
  obtain ⟨u, hu, hkept⟩ :=
    flow_of_left (hx.others _ (s.awaiting ⟨e, n, e⟩ l.target args)) running hrunning
  obtain ⟨s₁, hsubmit, haccepted⟩ := Shop.submit_accepts exits (w := ⟨e, n, e⟩) hp hopen
    (hs.grantsSubmit s.trace) l.target args running
  rw [submit_awaiting hs rfl rfl] at hsubmit
  cases hsubmit
  exact ⟨_, haccepted.trans hu, hkept, by simp [acceptedIn, JobEvent.accepted?]⟩

variable (x event args) in
/-- A listener is handed to the worker that the pool gives out, which is given back then. -/
theorem dispatch_eq (h : Serves e q alive s) (hm : l.mode = .async) (hb : l.binding = .lazy) :
    ∃ s₁, s.acquire e = (.ok ⟨e, q.acquire.1, e⟩, s₁) ∧ Serves e q.acquire.2 alive s₁ ∧
      (host x e).dispatch event l args s = (.ok (),
        (handed x e event args l q.acquire.1 alive s₁).release e ⟨e, q.acquire.1, e⟩) := by
  obtain ⟨s₁, ha, hs₁⟩ := h.acquire
  have hran := runOn_eq x event args q.acquire.1 hs₁ hm
  refine ⟨s₁, ha, hs₁, ?_⟩
  simp only [Host.dispatch, hb, Host.lease]
  rw [show (host x e).acquire s = _ from ha]
  dsimp only
  rw [hran]
  rfl

variable (event) in
/-- While other threads leave the engine alone, it stands afterwards as its worker was lent. -/
theorem handed_serves (hs : Serves e q.acquire.2 alive s)
    (hquiet : ∀ s₂, submit ⟨e, n, e⟩ l.target args s = (.ok (), s₂) →
      Spared e s₂ ((x.keepingWorker ⟨e, n, e⟩).meanwhile s₂)) :
    Serves e q.acquire.2 alive (handed x e event args l n alive s) := by
  cases alive with
  | false => exact hs.kept (spared_of_engines rfl e)
  | true =>
    have hqueued : Serves e q.acquire.2 true (s.awaiting ⟨e, n, e⟩ l.target args) :=
      hs.kept (spared_of_engines rfl e)
    exact hqueued.kept (hquiet _ (submit_awaiting hs rfl rfl))

theorem HandedOver.nil (x : Runner) (e : EngineId) (args : List Value) (alive : Bool)
    (s : Relay) : HandedOver x e args alive [] [] s s where
  trace P _ _ := ⟨[], .none, by simp⟩
  flow _ _ _ running _ := ⟨[], .refl, .slnil⟩

/-- What an emission holds itself makes no difference. -/
theorem HandedOver.of_keeping {ls : List Listener} {ns : List Nat}
    {held : Keeps} (h : HandedOver (x.keeping held) e args alive ls ns s s') :
    HandedOver x e args alive ls ns s s' where
  trace P _ hx := h.trace P (hx.keeping held)
  flow exits halive hx := h.flow exits halive (hx.keeping held)

theorem HandedOver.cons {ls : List Listener} {ns : List Nat}
    (ha : s.acquire e = (.ok ⟨e, n, e⟩, s₁)) (hs₁ : Serves e q alive s₁)
    (h : HandedOver x e args alive ls ns
      ((handed x e event args l n alive s₁).release e ⟨e, n, e⟩) s') :
    HandedOver x e args alive (l :: ls) (n :: ns) s s' where
  trace P _ hx := by
    obtain ⟨v, hv, htrace⟩ := h.trace P hx
    obtain ⟨u, hu, hP⟩ :=
      handed_adds e event args l alive n hx s₁
    refine ⟨_, .next hP hv, ?_⟩
    rw [htrace, release_trace, hu, acquire_trace_ok ha]
    simp
  flow exits halive hx running hrunning := by
    subst halive
    have hacquired : Course True NoCalls exits s none (s.acquire e).2 := acquire_course trivial s e
    rw [ha] at hacquired
    obtain ⟨u₁, hu₁, hkept₁⟩ := flow_of_left hacquired running hrunning
    obtain ⟨u₂, hu₂, hkept₂, hjob⟩ :=
      handed_flow event args l n hx hs₁ running hkept₁
    obtain ⟨u₃, hu₃, hkept₃⟩ := flow_of_left (release_course trivial _ e ⟨e, n, e⟩) running hkept₂
    obtain ⟨events, hflow, hjobs⟩ := h.flow exits rfl hx running hkept₃
    -- Other threads may have jobs accepted in between, hence a sublist of all that were.
    refine ⟨_, ((hu₁.trans hu₂).trans hu₃).trans hflow, ?_⟩
    simp only [acceptedIn_append, jobsFor, List.zipWith_cons_cons]
    rw [List.append_assoc, List.append_assoc]
    refine (List.Sublist.append (List.singleton_sublist.mpr hjob) ?_).trans
      (List.sublist_append_right ..)
    exact hjobs.trans (List.sublist_append_right ..)

/-! ## Emissions -/

/-- By induction on the listeners that are left. -/
theorem emitTo_handed {ls : List Listener} (h : Serves e q alive s)
    (hls : ∀ l ∈ ls, l.mode = .async ∧ l.binding = .lazy)
    (hquiet : Undisturbed x e event args ls s) :
    ∃ s', (host x e).emitTo event args ls s = (.ok (), s') ∧
      Serves e (Pool.lends ls.length q).2 alive s' ∧
      HandedOver x e args alive ls (Pool.lends ls.length q).1 s s' := by
  induction ls generalizing s q with
  | nil => exact ⟨s, rfl, h, .nil x e args alive s⟩
  | cons l rest ih =>
    obtain ⟨⟨hm, hb⟩, hrest⟩ := List.forall_mem_cons.mp hls
    obtain ⟨hquiet, hquiet'⟩ := hquiet
    obtain ⟨s₁, ha, hs₁, hdispatch⟩ := dispatch_eq x event args h hm hb
    rw [hdispatch] at hquiet'
    have hs₂ := (handed_serves event hs₁ fun s₂ => hquiet _ s₁ s₂ ha).release q.acquire.1
    obtain ⟨s', hemit, hs', hhanded⟩ := ih hs₂ hrest hquiet'
    rw [Host.emitTo_cons_of_ok hdispatch]
    exact ⟨s', hemit, hs', .cons ha hs₁ hhanded⟩

/-- Other threads that always leave an engine alone disturb no emission. -/
theorem undisturbed_of_spared (hx : ∀ keeps s, Spared e s (x.others keeps s))
    (ls : List Listener) (s : Relay) : Undisturbed x e event args ls s := by
  induction ls generalizing s with
  | nil => trivial
  | cons l rest ih => exact ⟨fun _ _ _ _ _ => hx _ _, ih _⟩

theorem acquire_stack {granted : Except Cause Worker} (h : s.acquire e = (granted, s')) :
    s'.stack = s.stack := by
  have hacquired : Course True NoCalls AnyExit s none (s.acquire e).2 :=
    acquire_course trivial s e
  rw [h] at hacquired
  exact hacquired.stack_eq

theorem submit_stack {w : Worker} {t : Target} {queued : Except Cause Unit}
    (h : submit w t args s = (queued, s')) : s'.stack = s.stack := by
  have hsubmitted : Course True NoCalls AnyExit s none (submit w t args s).2 :=
    submit_course w t args s
  rw [h] at hsubmitted
  exact hsubmitted.stack_eq

/-- Threads that run jobs only while this one is inside no worker do nothing where it is inside
one. -/
theorem meanwhile_inside {call : Caller} {bound : Nat} (hx : x.others = settle call bound)
    (hs : s.stack ≠ []) : x.meanwhile s = s := by
  rw [Runner.meanwhile, hx]
  exact settle_of_inside hs call bound x.keeps

theorem handed_inside {call : Caller} {bound : Nat} (hx : x.others = settle call bound)
    (hs : s.stack ≠ []) : (handed x e event args l n alive s).stack = s.stack := by
  cases alive with
  | false => rfl
  | true =>
    have hs' : (s.awaiting ⟨e, n, e⟩ l.target args).stack ≠ [] := hs
    have hx' : (x.keepingWorker ⟨e, n, e⟩).others = settle call bound := hx
    rw [handed, meanwhile_inside hx' hs']
    rfl

theorem undisturbed_inside {call : Caller} {bound : Nat} (hx : x.others = settle call bound)
    {ls : List Listener} (h : Serves e q alive s) (hs : s.stack ≠ [])
    (hls : ∀ l ∈ ls, l.mode = .async ∧ l.binding = .lazy) :
    Undisturbed x e event args ls s := by
  induction ls generalizing s q with
  | nil => trivial
  | cons l rest ih =>
    obtain ⟨⟨hm, hb⟩, hrest⟩ := List.forall_mem_cons.mp hls
    obtain ⟨s₁, ha, hs₁, hdispatch⟩ := dispatch_eq x event args h hm hb
    have hinside : s₁.stack ≠ [] := acquire_stack ha ▸ hs
    have hquiet (s₂ : Relay)
        (hsubmit : submit ⟨e, q.acquire.1, e⟩ l.target args s₁ = (.ok (), s₂)) :
        Spared e s₂ ((x.keepingWorker ⟨e, q.acquire.1, e⟩).meanwhile s₂) := by
      have hx' : (x.keepingWorker ⟨e, q.acquire.1, e⟩).others = settle call bound := hx
      rw [meanwhile_inside hx' (submit_stack hsubmit ▸ hinside)]
      rfl
    refine ⟨fun w s₁' s₂ ha' hsubmit => ?_, ?_⟩
    · rw [ha] at ha'
      cases ha'
      exact hquiet s₂ hsubmit
    · rw [hdispatch]
      refine ih ((handed_serves event hs₁ hquiet).release q.acquire.1) ?_ hrest
      rw [release, giveBack_stack]
      exact handed_inside hx hinside ▸ hinside

/-- All listeners were handed to one worker in their order, and in this order it begins and ends
their jobs, whatever else happens. -/
structure OneWorker (x : Runner) (e : EngineId) (args : List Value) (alive : Bool)
    (ls : List Listener) (n : Nat) (s s' : Relay) : Prop where
  handed : HandedOver x e args alive ls (List.replicate ls.length n) s s'
  jobs : ∀ exits, alive = true → x.Courses True NoCalls exits →
    ∀ running, Shop.Orderly ⟨s, running⟩ → (s.stack = [] → running = []) →
    let jobs := jobsFor e args ls (List.replicate ls.length n)
    ∃ events, Shop.Flow exits ⟨s, running⟩ events ⟨s', running⟩ ∧
      jobs.Sublist (acceptedIn events) ∧
      ∀ later b, Shop.Flow exits ⟨s', running⟩ later b →
        Shop.KeepsOrder jobs e n (events ++ later) b

theorem runsOn_of_mem_jobsFor {ls : List Listener} {k : Nat} {job : Job}
    (h : job ∈ jobsFor e args ls (List.replicate k n)) : job.runsOn e n = true := by
  induction ls generalizing k with
  | nil => simp [jobsFor] at h
  | cons l rest ih =>
    cases k with
    | zero => simp [jobsFor] at h
    | succ k =>
      rw [jobsFor, List.replicate_succ, List.zipWith_cons_cons, List.mem_cons] at h
      rcases h with rfl | h
      · exact Job.runsOn_self _
      · exact ih h

theorem HandedOver.oneWorker {ls : List Listener}
    (h : HandedOver x e args alive ls (List.replicate ls.length n) s s') :
    OneWorker x e args alive ls n s s' where
  handed := h
  jobs exits halive hx running horderly hrunning := by
    obtain ⟨events, hflow, hjobs⟩ := h.flow exits halive hx running hrunning
    refine ⟨events, hflow, hjobs, fun later b hlater => ?_⟩
    refine ((hflow.trans hlater).ledger horderly).2.keepsOrder ?_ fun job => runsOn_of_mem_jobsFor
    rw [acceptedIn_append]
    exact hjobs.trans (List.sublist_append_left ..)

/-- An emission all of whose listeners are lazily bound and not waited for, while nobody else uses
the pool of its engine. If the pool keeps idle workers, one worker gets all listeners in the order
of their registration, and so runs them in this order; it is idle again afterwards, and was made
only if none was idle before. If the pool keeps none, each listener gets a new worker. Other threads
may do anything meanwhile that leaves the engine as it stands, and run the jobs whenever they like.
They do so if they always spare the engine, and in scripts whenever the emission is inside a worker.
What a worker has accepted it runs in that order, however this interleaves with anything else. -/
theorem async_listeners_in_order :
    (∀ (t : List PoolMove) (s : Relay) (x : Runner) a event args p, Path initial t s →
      let ls := (s.adapter a).listeners.find event
      let e := (s.adapter a).engine
      let x' := emitting x a event ls
      (s.engine e).kind = .pooled p → (s.engine e).refuseAcquire = .always none →
      (s.engine e).refuseSubmit = .always none →
      (∀ l ∈ ls, l.mode = .async ∧ l.binding = .lazy) → Undisturbed x' e event args ls s →
      ls.Pairwise Listener.Before ∧
      ∃ s' p', emit x a event args s = (.ok (), s') ∧ (s'.engine e).kind = .pooled p' ∧
        (0 < p.config.maxIdle → Pool.Reused ls.length p.pool p'.pool ∧
          OneWorker x e args p.isOpen ls p.pool.acquire.1 s s') ∧
        (p.config.maxIdle = 0 → Pool.Spent ls.length p.pool p'.pool ∧
          HandedOver x e args p.isOpen ls (List.range' (p.pool.created + 1) ls.length) s s')) ∧
    (∀ (x : Runner) e event args, (∀ keeps s, Spared e s (x.others keeps s)) →
      ∀ ls s, Undisturbed x e event args ls s) ∧
    (∀ (x : Runner) call bound e q alive event args ls (s : Relay), x.others = settle call bound →
      Serves e q alive s → s.stack ≠ [] → (∀ l ∈ ls, l.mode = .async ∧ l.binding = .lazy) →
      Undisturbed x e event args ls s) ∧
    (∀ exits (a : Shop) events b jobs e n, a.Orderly → a.Flow exits events b →
      jobs.Sublist (acceptedIn events) → (∀ job ∈ jobs, job.runsOn e n = true) →
      Shop.KeepsOrder jobs e n events b) ∧
    ∀ program depth, (Script.runner program depth).Courses True NoCalls program.Exits := by
  refine ⟨?_, ?_, ?_, ?_, fun program depth => Script.runner_course (fun _ => trivial) depth⟩
  · intro t s x a event args p ht ls e x' hp hacquire hsubmit hls hquiet
    have hsound := (ht.pool_run hp).sound
    obtain ⟨s', hemit, hs', hhanded⟩ :=
      emitTo_handed (serves_of_pooled hp hacquire hsubmit) hls hquiet
    obtain ⟨p', hp', hpool, -⟩ := hs'.pooled
    have hhanded := hhanded.of_keeping
    refine ⟨ht.handles_increasing a event, s', p', hemit, hp', fun hmax => ?_, fun hmax => ?_⟩
    · rw [← hsound.maxIdle_eq] at hmax
      obtain ⟨hworkers, hreused⟩ := Pool.lends_of_room ls.length hmax hsound.room
      rw [hworkers] at hhanded
      exact ⟨hpool ▸ hreused, hhanded.oneWorker⟩
    · rw [← hsound.maxIdle_eq] at hmax
      -- A pool that was reached keeps to its bound, so none is idle.
      have hidle : p.pool.idle = [] := List.length_eq_zero_iff.mp (by have := hsound.room; omega)
      have hspent := Pool.spent_lends ls.length hmax hidle
      rw [Pool.lends_of_full ls.length hmax hidle] at hhanded
      exact ⟨hpool ▸ hspent, hhanded⟩
  · intro x e event args hx ls s
    exact undisturbed_of_spared hx ls s
  · intro x call bound e q alive event args ls s hx hs hinside hls
    exact undisturbed_inside hx hs hinside hls
  · intro exits a events b jobs e n ha hflow hjobs hon
    exact (hflow.ledger ha).2.keepsOrder hjobs hon

end

/-- The registration of a listener that nobody waits for. -/
def later (id : String) : Request := .listen 0 "t" (.function (Function.anonymous id)) .async

/-- An adapter of an engine that keeps an idle worker, with two such listeners. -/
def deferring : Relay :=
  let engine : EngineKind := .pooled (PooledEngine.fresh ⟨1, "w", none⟩ true)
  let s := (later "g").run ((later "f").run
    ((Relay.initial.putEngine 0 (Engine.ofKind engine)).addAdapter 0 Adapter.blank.type).2)
  { s with names := { s.names with engines := Names.bind "e" 0 s.names.engines } }

/-- Functions that use the pool. -/
def leasing : Script.Program :=
  let lease : List Script.Action :=
    [.step (.leaseFor "e" (.function (Function.anonymous "log")) [])]
  [("f", .body lease none), ("g", .body lease none)]

/-- A thread that runs for a while before any other thread goes on. -/
def ahead (program : Script.Program) (depth : Nat) : Runner :=
  { Script.runner program depth with others := fun _ s => s }

/-- The jobs run after the emission, in the order of the listeners, and use the pool themselves. -/
theorem async_listeners_in_order_twice :
    let x := ahead leasing 9
    let ls := (deferring.adapter 0).listeners.find "t"
    ∃ s' p p', (deferring.engine 0).kind = .pooled p ∧ p.pool = Pool.empty 1 ∧
      emit x 0 "t" [] deferring = (.ok (), s') ∧ (s'.engine 0).kind = .pooled p' ∧
      Pool.Reused 2 p.pool p'.pool ∧ OneWorker x 0 [] true ls 1 deferring s' ∧
      (∃ events, Shop.Flow leasing.Exits ⟨deferring, []⟩ events ⟨s', []⟩ ∧
        (jobsFor 0 [] ls [1, 1]).Sublist (acceptedIn events)) ∧
      s'.trace.map Interaction.text =
        ["acquire worker-1", "submit worker-1 global:<anonymous>", "release worker-1",
          "acquire worker-1", "submit worker-1 global:<anonymous>", "release worker-1"] ∧
      s'.calls = [] ∧ (drain x.call x.keeps 9 s').calls = ["g", "f"] := by
  intro x ls
  obtain ⟨hordered, hspared, -, -, hrunner⟩ := async_listeners_in_order
  have hp : (deferring.engine 0).kind =
      .pooled (PooledEngine.fresh ⟨1, "w", none⟩ true) := rfl
  have hpath : Path Relay.initial [] deferring :=
    ((((Path.single (.addEngine _ (.pooled ⟨1, "w", none⟩ true))).step
      (.addAdapter 0 Adapter.blank.type)).step (.request (later "f"))).step
        (.request (later "g"))).step (.record _ _ _ _ _ _ _)
  have hlength : ls.length = 2 := rfl
  have hls : ∀ l ∈ ls, l.mode = .async ∧ l.binding = .lazy := by decide
  have hquiet : Undisturbed (emitting x 0 "t" ls) 0 "t" [] ls deferring :=
    hspared (emitting x 0 "t" ls) 0 "t" [] (fun _ _ => rfl) ls deferring
  obtain ⟨-, s', p', hemit, hp', hroom, -⟩ :=
    hordered [] deferring x 0 "t" [] _ hpath hp rfl rfl hls hquiet
  obtain ⟨hreused, hone⟩ := hroom (by decide)
  obtain ⟨htrace, hcalls, hran⟩ : (emit x 0 "t" [] deferring).2.trace.map Interaction.text =
      ["acquire worker-1", "submit worker-1 global:<anonymous>", "release worker-1",
        "acquire worker-1", "submit worker-1 global:<anonymous>", "release worker-1"] ∧
      (emit x 0 "t" [] deferring).2.calls = [] ∧
      (drain x.call x.keeps 9 (emit x 0 "t" [] deferring).2).calls = ["g", "f"] := by
    decide +kernel
  rw [hemit] at htrace hcalls hran
  have hcourses : x.Courses True NoCalls leasing.Exits :=
    ⟨(hrunner leasing 9).call, fun _ s => .stay s⟩
  have horderly : Shop.Orderly ⟨deferring, []⟩ := ⟨fun _ _ => Nat.zero_le 1, nofun⟩
  obtain ⟨events, hflow, hjobs, -⟩ := hone.jobs _ rfl hcourses [] horderly fun _ => rfl
  exact ⟨s', _, p', hp, rfl, hemit, hp', hlength ▸ hreused, hone, ⟨events, hflow, hjobs⟩, htrace,
    hcalls, hran⟩

end Relay
end EventRelay
