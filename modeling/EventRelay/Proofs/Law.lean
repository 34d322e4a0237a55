import EventRelay.Proofs.Host.Jobs
import EventRelay.Proofs.Host.Modules

/-!
# EventRelay.Proofs.Law

What holds between the states before and after any code.

* `acceptedBy`: the jobs that the workers of an engine accepted, read off the trace.
* `Relay.Plain`: changes that touch no export, and neither the queue nor the current worker of an
  inline engine.
* `Relay.Frame`: a relation between states that the end of a job obeys, and all that touches neither
  engines nor the trace. So does the running of jobs, if calls of functions do.
* `Relay.Law`: a relation that all plain changes obey, and each of the others.
* `invoke_obeys`, `lease_obeys`, `inWorker_obeys` and their like: then code inside workers obeys it,
  if calls of functions do. So a fact about exports, queues or current workers is shown once for
  each change.
-/

namespace EventRelay

/-- The job that a worker of the engine accepted, if one did. -/
def Interaction.accepted? (e : EngineId) : Interaction → Option Job
  | submitted w t args true => if w.home = e then some ⟨w.home, w.number, t, args⟩ else none
  | _ => none

/-- The jobs that workers of the engine accepted, the oldest first. -/
def acceptedBy (e : EngineId) (trace : List Interaction) : List Job :=
  trace.filterMap (Interaction.accepted? e)

/-- An engine with the same exports and, if it is an inline one, with the same jobs and the same
current worker. It may have made workers. -/
inductive EngineKind.Resembles : EngineKind → EngineKind → Prop where
  | inline {i i' : InlineEngine} :
      i'.exports = i.exports → i'.current = i.current → i'.queue = i.queue → i'.begun = i.begun →
      i.workers ≤ i'.workers → Resembles (.inline i) (.inline i')
  | pooled {p p' : PooledEngine} : p'.modules = p.modules → Resembles (.pooled p) (.pooled p')

theorem EngineKind.Resembles.refl (kind : EngineKind) : kind.Resembles kind := by
  cases kind with
  | inline i => exact .inline rfl rfl rfl rfl (Nat.le_refl _)
  | pooled p => exact .pooled rfl

namespace Relay

theorem size_putEngine (s : Relay) (e : EngineId) (engine : Engine) :
    (s.putEngine e engine).engines.size = max s.engines.size (e + 1) :=
  Table.size_put Engine.blank s.engines e engine

/-! ## Plain changes -/

structure Plain (s s' : Relay) : Prop where
  size : s.engines.size ≤ s'.engines.size
  kinds : ∀ e, (s.engine e).kind.Resembles (s'.engine e).kind
  accepted : ∀ e i, (s.engine e).kind = .inline i → acceptedBy e s'.trace = acceptedBy e s.trace

namespace Plain

variable {s s' s'' : Relay} {e : EngineId}

theorem of_eq (hengines : s'.engines = s.engines) (htrace : s'.trace = s.trace) : Plain s s' where
  size := by rw [hengines]
  kinds e := by
    unfold engine
    rw [hengines]
    exact .refl _
  accepted e i _ := by rw [htrace]

theorem note {i : Interaction} (h : ∀ e i', (s.engine e).kind = .inline i' → i.accepted? e = none) :
    Plain s (s.note i) where
  size := Nat.le_refl _
  kinds e := .refl _
  accepted e i' hi' := by simp [acceptedBy, h e i' hi']

theorem putEngine {engine : Engine} (h : (s.engine e).kind.Resembles engine.kind) :
    Plain s (s.putEngine e engine) where
  size := by
    rw [size_putEngine]
    exact Nat.le_max_left _ _
  kinds e' := by
    rw [engine_putEngine]
    split
    · rename_i he
      exact he ▸ h
    · exact .refl _
  accepted e' i _ := rfl

theorem putPooled {p p' : PooledEngine} (hk : (s.engine e).kind = .pooled p)
    (h : p'.modules = p.modules) : Plain s (s.putKind e (.pooled p')) := by
  refine putEngine ?_
  rw [hk]
  exact .pooled h

theorem putInline {i i' : InlineEngine} (hk : (s.engine e).kind = .inline i)
    (hexports : i'.exports = i.exports) (hcurrent : i'.current = i.current)
    (hqueue : i'.queue = i.queue) (hbegun : i'.begun = i.begun)
    (hworkers : i.workers ≤ i'.workers) :
    Plain s (s.putKind e (.inline i')) := by
  refine putEngine ?_
  rw [hk]
  exact .inline hexports hcurrent hqueue hbegun hworkers

theorem take (e : EngineId) : Plain s (s.take e).2 := by
  unfold Relay.take
  cases hk : (s.engine e).kind with
  | inline i => exact putInline hk rfl rfl rfl rfl (Nat.le_succ _)
  | pooled p => exact putPooled hk rfl

theorem giveBack (e : EngineId) (n : Nat) : Plain s (s.giveBack e n) := by
  unfold Relay.giveBack
  cases hk : (s.engine e).kind with
  | inline i => exact putInline hk rfl rfl rfl rfl (Nat.le_refl _)
  | pooled p =>
    dsimp only
    split
    · exact putPooled hk rfl
    · exact of_eq rfl rfl

theorem finish (job : Job) (failed : Bool) : Plain s (s.finish job failed) := by
  unfold Relay.finish
  split
  · rename_i p hk
    exact putPooled hk rfl
  · exact of_eq rfl rfl

theorem closeUnused (e : EngineId) : Plain s (s.closeUnused e) := by
  unfold Relay.closeUnused
  split
  · rename_i p hk
    split
    · exact putPooled hk rfl
    · exact of_eq rfl rfl
  · exact of_eq rfl rfl

/-- What pooled engines accept is not for inline ones. -/
theorem acceptedPooled {w : Worker} {t : Target} {args : List Value} {p : PooledEngine}
    (hk : (s.engine w.home).kind = .pooled p) : Plain s (s.note (.submitted w t args true)) := by
  refine note fun e i hi => ?_
  have hne : w.home ≠ e := by
    rintro rfl
    rw [hk] at hi
    cases hi
  exact if_neg hne

end Plain

/-! ## Laws -/

/-- Where code inside a new worker of an inline engine starts. -/
def opened (s : Relay) (e : EngineId) : Relay :=
  (s.newWorker e).2.setCurrent e (some (s.newWorker e).1)

section

variable {s : Relay} {e : EngineId}

theorem opened_inline {i : InlineEngine} (hk : (s.engine e).kind = .inline i) :
    s.opened e = (s.putKind e (.inline { i with workers := i.workers + 1 })).putKind e
      (.inline { i with workers := i.workers + 1, current := some (i.workers + 1) }) := by
  simp only [opened, newWorker, hk, setCurrent, putKind, engine_putEngine, if_pos]

/-- A new worker of the engine is current, and other engines are as before. -/
theorem engine_opened {i : InlineEngine} (hk : (s.engine e).kind = .inline i) (e' : EngineId) :
    ((s.opened e).engine e').kind = if e = e' then
      .inline { i with workers := i.workers + 1, current := some (i.workers + 1) }
      else (s.engine e').kind := by
  rw [opened_inline hk, putKind, engine_putEngine]
  split
  · rfl
  · rw [putKind, engine_putEngine, if_neg ‹_›]

theorem size_opened {i : InlineEngine} (hk : (s.engine e).kind = .inline i) :
    (s.opened e).engines.size = max s.engines.size (e + 1) := by
  rw [opened_inline hk, putKind, size_putEngine, putKind, size_putEngine, Nat.max_assoc,
    Nat.max_self]

theorem engine_setCurrent {i : InlineEngine} (hk : (s.engine e).kind = .inline i)
    (current : Option Nat) :
    ((s.setCurrent e current).engine e).kind = .inline { i with current := current } := by
  simp only [setCurrent, hk, putKind, engine_putEngine, if_pos]

theorem engine_setCurrent_of_ne {e' : EngineId} (he : e ≠ e') (current : Option Nat) :
    (s.setCurrent e current).engine e' = s.engine e' := by
  unfold setCurrent
  split
  · rw [putKind, engine_putEngine, if_neg he]
  · rfl

theorem size_setCurrent (s : Relay) (e : EngineId) (current : Option Nat) :
    s.engines.size ≤ (s.setCurrent e current).engines.size := by
  unfold setCurrent
  split
  · rw [putKind, size_putEngine]
    exact Nat.le_max_left _ _
  · exact Nat.le_refl _

end

/-- A relation that the end of a job obeys, and all changes that touch neither engines nor the
trace. -/
structure Frame (R : Relay → Relay → Prop) : Prop where
  refl : ∀ s, R s s
  trans : ∀ {s s' s''}, R s s' → R s' s'' → R s s''
  of_eq : ∀ {s s' : Relay}, s'.engines = s.engines → s'.trace = s.trace → R s s'
  finish : ∀ (s : Relay) job failed, R s (s.finish job failed)

/-- A relation that the changes of the state obey, but only those edits of exports that are
allowed. -/
structure Law (allowed : Edit → Prop) (R : Relay → Relay → Prop) : Prop where
  refl : ∀ s, R s s
  trans : ∀ {s s' s''}, R s s' → R s' s'' → R s s''
  plain : ∀ {s s'}, s.Plain s' → R s s'
  addEngine : ∀ {s kind}, FreshKind kind → R s (s.putEngine s.engines.size (Engine.ofKind kind))
  /-- A worker of an inline engine accepts a job: it is noted, and it is the last of the queue. -/
  accepted : ∀ {s : Relay} {w : Worker} {i : InlineEngine} (t : Target) (args : List Value),
    (s.engine w.home).kind = .inline i →
    R s ((s.note (.submitted w t args true)).putKind w.home
      (.inline { i with queue := i.queue ++ [⟨w.home, w.number, t, args⟩] }))
  begun : ∀ {s s' : Relay} {e : EngineId} {job : Job}, s.nextJob? e = some (job, s') → R s s'
  /-- Code inside a new worker of an inline engine returns. -/
  returned : ∀ {s s' : Relay} {e : EngineId} {i : InlineEngine}, (s.engine e).kind = .inline i →
    R (s.opened e) s' → R s (s'.setCurrent e i.current)
  /-- It does not. -/
  unwound : ∀ {s s' : Relay} {e : EngineId} {i : InlineEngine}, (s.engine e).kind = .inline i →
    R (s.opened e) s' → R s s'
  edited : ∀ {s : Relay} (e : EngineId) {d : Edit}, allowed d →
    R s (Script.putExports e ((Script.exportsOf e s).edit d) s)

end Relay

/-- Every call of a function obeys the relation. -/
def Caller.Obeys (R : Relay → Relay → Prop) (call : Caller) : Prop :=
  ∀ f args s, R s (call f args s).2

/-- So do the calls of a thread and what other threads do. -/
structure Runner.Obeys (R : Relay → Relay → Prop) (x : Runner) : Prop where
  call : x.call.Obeys R
  others : ∀ keeps s, R s (x.others keeps s)

theorem Runner.Obeys.keeping {R : Relay → Relay → Prop} {x : Runner} (hx : x.Obeys R)
    (held : Keeps) : (x.keeping held).Obeys R :=
  ⟨hx.call, hx.others⟩

namespace Relay

section

variable {ε α : Type} {allowed : Edit → Prop} {R : Relay → Relay → Prop} {x : Runner}
  {call : Caller}

theorem Frame.keep (frame : Frame R) {s s₁ s' : Relay} (h : R s s₁)
    (hengines : s'.engines = s₁.engines) (htrace : s'.trace = s₁.trace) : R s s' :=
  frame.trans h (frame.of_eq hengines htrace)

theorem Frame.since (frame : Frame R) {s s₁ s' : Relay} (h : R s₁ s')
    (hengines : s₁.engines = s.engines) (htrace : s₁.trace = s.trace) : R s s' :=
  frame.trans (frame.of_eq hengines htrace) h

theorem Frame.conclude (frame : Frame R) (s : Relay) (job : Job) (complaint : Option Warning) :
    R s (s.conclude job complaint) := by
  unfold Relay.conclude
  cases complaint with
  | none => exact frame.finish s job false
  | some w => exact frame.since (frame.finish (s.warn w) job true) rfl rfl

theorem Law.frame (law : Law allowed R) : Frame R where
  refl := law.refl
  trans := law.trans
  of_eq hengines htrace := law.plain (.of_eq hengines htrace)
  finish _ job failed := law.plain (.finish job failed)

theorem Law.of_eq (law : Law allowed R) {s s' : Relay} (hengines : s'.engines = s.engines)
    (htrace : s'.trace = s.trace) : R s s' :=
  law.frame.of_eq hengines htrace

/-- What laws do not see may change in between. -/
theorem Law.andThen (law : Law allowed R) {s s₁ s₂ s' : Relay} (h : R s s₁) (h' : R s₂ s')
    (hengines : s₂.engines = s₁.engines) (htrace : s₂.trace = s₁.trace) : R s s' :=
  law.trans (law.frame.keep h hengines htrace) h'

theorem Law.keep (law : Law allowed R) {s s₁ s' : Relay} (h : R s s₁)
    (hengines : s'.engines = s₁.engines) (htrace : s'.trace = s₁.trace) : R s s' :=
  law.frame.keep h hengines htrace

theorem Law.since (law : Law allowed R) {s s₁ s' : Relay} (h : R s₁ s')
    (hengines : s₁.engines = s.engines) (htrace : s₁.trace = s.trace) : R s s' :=
  law.frame.since h hengines htrace

theorem Law.note (law : Law allowed R) {s : Relay} {i : Interaction}
    (h : ∀ e, i.accepted? e = none) : R s (s.note i) :=
  law.plain (.note fun e _ _ => h e)

theorem Law.acquire (law : Law allowed R) (s : Relay) (e : EngineId) : R s (s.acquire e).2 := by
  unfold Relay.acquire
  split
  · exact law.note fun _ => rfl
  · exact law.trans (law.plain (.take e)) (law.note fun _ => rfl)

theorem Law.release (law : Law allowed R) (s : Relay) (e : EngineId) (w : Worker) :
    R s (s.release e w) :=
  law.trans (law.note fun _ => rfl) (law.plain (.giveBack e w.number))

/-! ## Code inside a worker -/

theorem runTarget_obeys (frame : Frame R) (hcall : call.Obeys R) (e : EngineId) (t : Target)
    (args : List Value) (s : Relay) : R s (runTarget call e t args s).2 := by
  unfold runTarget
  split
  · exact hcall _ args s
  · exact frame.refl s

theorem within_obeys (frame : Frame R) {body : Relay → Exit ε α × Relay} (m : Marker)
    (s : Relay) (hbody : ∀ s', R s' (body s').2) : R s (within m body s).2 := by
  unfold within
  split
  · exact hbody s
  split
  · exact frame.refl s
  · have hb := frame.since (s := s) (hbody { s with stack := m :: s.stack }) rfl rfl
    generalize body { s with stack := m :: s.stack } = out at hb
    obtain ⟨exit, s'⟩ := out
    cases exit with
    | halt h => exact hb
    | ok | error | panic => exact frame.keep hb rfl rfl

theorem enter_obeys (frame : Frame R) (hx : x.Obeys R) {body : Relay → Exit ε α × Relay}
    (m : Marker) (s : Relay) (hbody : ∀ s', R s' (body s').2) : R s (enter x m body s).2 := by
  have hw := within_obeys frame m s hbody
  unfold enter
  generalize within m body s = out at hw
  obtain ⟨exit, s'⟩ := out
  cases exit with
  | halt h => exact hw
  | ok | error | panic => exact frame.trans hw (hx.others x.keeps s')

/-! ## Jobs of pooled engines -/

theorem runJob_obeys (frame : Frame R) (hcall : call.Obeys R) (keeps : Keeps) (job : Job)
    (s : Relay) : R s (runJob call keeps job s).2 := by
  rw [runJob_eq]
  dsimp only
  generalize (_ || _ : Bool) = held
  have hb := within_obeys frame ⟨job.home, job.number, held⟩ s
    (runTarget_obeys frame hcall job.home job.target job.args)
  generalize within _ (runTarget call job.home job.target job.args) s = out at hb
  obtain ⟨exit, s'⟩ := out
  cases exit with
  | halt h => exact hb
  | ok | error | panic => exact frame.trans hb (frame.conclude s' job _)

/-- By induction on the jobs that may still run. -/
theorem drain_obeys (frame : Frame R) (hcall : call.Obeys R) (keeps : Keeps) (bound : Nat)
    (s : Relay) : R s (drain call keeps bound s) := by
  induction bound generalizing s with
  | zero =>
    unfold drain
    split
    · exact frame.refl s
    · exact frame.of_eq rfl rfl
  | succ bound ih =>
    unfold drain
    split
    · exact frame.refl s
    rename_i job rest hq
    have hj := frame.since (s := s)
      (runJob_obeys frame hcall keeps job { s with queue := rest }) rfl rfl
    split
    · exact frame.of_eq rfl rfl
    · rename_i s' hran
      rw [hran] at hj
      exact frame.trans hj (ih s')

theorem settle_obeys (frame : Frame R) (hcall : call.Obeys R) (bound : Nat) (keeps : Keeps)
    (s : Relay) : R s (settle call bound keeps s) := by
  unfold settle
  split
  · exact drain_obeys frame hcall keeps bound s
  · exact frame.refl s

/-! ## Targets -/

theorem invoke_obeys (law : Law allowed R) (hx : x.Obeys R) (w : Worker) (t : Target)
    (args : List Value) (s : Relay) : R s (invoke x w t args s).2 := by
  have hn : R s (s.note (.invoked w t args)) := law.note fun _ => rfl
  unfold invoke
  dsimp only
  split
  · exact law.trans hn (runTarget_obeys law.frame hx.call w.home t args _)
  · exact law.trans hn (enter_obeys law.frame (hx.keeping _) _ _ fun s' =>
      runTarget_obeys law.frame hx.call w.home t args s')

theorem submit_obeys (law : Law allowed R) (w : Worker) (t : Target) (args : List Value)
    (s : Relay) : R s (submit w t args s).2 := by
  unfold submit
  split
  · exact law.note fun _ => rfl
  split
  · rename_i i hk
    exact law.accepted t args hk
  rename_i p hk
  split
  · exact law.keep (law.plain (.acceptedPooled hk)) rfl rfl
  · exact law.note fun _ => rfl

theorem handOver_obeys (law : Law allowed R) (hx : x.Obeys R) (w : Worker) (t : Target)
    (args : List Value) (s : Relay) : R s (handOver x w t args s).2 := by
  have h : R s (submit w t args s).2 := submit_obeys law w t args s
  unfold handOver
  generalize submit w t args s = submitted at h
  obtain ⟨_ | _, s'⟩ := submitted
  · exact h
  · exact law.trans h (hx.others _ s')

theorem lease_obeys (law : Law allowed R) {refused : Cause → Relay → Exit ε α × Relay}
    {body : Worker → Relay → Exit ε α × Relay} (e : EngineId) (s : Relay)
    (hrefused : ∀ c s', R s' (refused c s').2) (hbody : ∀ w s', R s' (body w s').2) :
    R s ((host x e).lease refused body s).2 := by
  have ha : R s (s.acquire e).2 := law.acquire s e
  unfold Host.lease
  simp only [host]
  generalize s.acquire e = granted at ha
  obtain ⟨c | w, s₁⟩ := granted
  · exact law.trans ha (hrefused c s₁)
  · have hb := law.trans ha (hbody w s₁)
    dsimp only
    generalize body w s₁ = out at hb
    obtain ⟨exit, s₂⟩ := out
    cases exit with
    | halt h => exact hb
    | ok | error | panic => exact law.trans hb (law.release s₂ e w)

/-! ## Code inside a worker of any engine -/

theorem withWorker_obeys (law : Law allowed R) {body : Relay → Exit ε α × Relay} (e : EngineId)
    (s : Relay) {i : InlineEngine} (hk : (s.engine e).kind = .inline i)
    (hbody : ∀ s', R s' (body s').2) : R s (withWorker e body s).2.2 := by
  have hb := hbody (s.opened e)
  have hprevious : s.inlineCurrent e = i.current := by
    unfold inlineCurrent
    rw [hk]
  unfold withWorker
  unfold opened at hb
  dsimp only
  rw [hprevious]
  generalize body _ = out at hb
  obtain ⟨exit, s'⟩ := out
  cases exit with
  | halt | panic => exact law.unwound hk hb
  | ok | error => exact law.returned hk hb

theorem inPooled_obeys (law : Law allowed R) (hx : x.Obeys R) {body : Relay → Exit ε α × Relay}
    (e : EngineId) (s : Relay) (hbody : ∀ s', R s' (body s').2) :
    R s (inPooled x e body s).2.2 := by
  unfold inPooled
  dsimp only
  have hb := law.trans (law.plain (.take e))
    (enter_obeys law.frame hx ⟨(s.take e).1.home, (s.take e).1.number, true⟩ (s.take e).2 hbody)
  generalize enter x _ body (s.take e).2 = out at hb
  obtain ⟨exit, s'⟩ := out
  cases exit with
  | halt h => exact hb
  | ok | error | panic => exact law.trans hb (law.plain (.giveBack e _))

theorem inWorker_obeys (law : Law allowed R) (hx : x.Obeys R) {body : Relay → Exit ε α × Relay}
    (e : EngineId) (s : Relay) (hbody : ∀ s', R s' (body s').2) :
    R s (inWorker x e body s).2.2 := by
  unfold inWorker
  split
  · rename_i i hk
    exact withWorker_obeys law e s hk hbody
  · exact inPooled_obeys law hx e s hbody

/-- By induction on the jobs that may still run. -/
theorem runPending_obeys (law : Law allowed R) (hx : x.Obeys R) (e : EngineId) (bound ran : Nat)
    (s : Relay) : R s (runPending x e bound ran s).2 := by
  induction bound generalizing ran s with
  | zero =>
    unfold runPending
    split <;> exact law.refl s
  | succ bound ih =>
    unfold runPending
    cases hn : s.nextJob? e with
    | none => exact law.refl s
    | some next =>
      obtain ⟨job, s'⟩ := next
      have hran := law.trans (law.begun hn)
        (runTarget_obeys law.frame hx.call e job.target job.args s')
      dsimp only
      generalize runTarget x.call e job.target job.args s' = out at hran
      obtain ⟨exit, s''⟩ := out
      cases exit with
      | halt | panic => exact hran
      | ok | error => exact law.trans hran (ih _ s'')

end

end Relay
end EventRelay
