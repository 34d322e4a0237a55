import Mathlib.Data.List.GetD
import EventRelay.Proofs.Host.Pool
import EventRelay.Proofs.Listener.History
import EventRelay.Proofs.Trace
import EventRelay.Script.Run

/-!
# EventRelay.Proofs.Path

Runs as sequences of small changes of the state.

* `Relay.Change`: everything that the operations on a relay do at once, with the acquisitions and
  releases of pooled workers that it consists of.
* `Relay.Path`: changes one after the other, with all their acquisitions and releases.
* `Relay.Waits`: the thread holds a worker that it is not inside of right now.
* `Relay.Runs`: code that goes along a path. It leaves all workers that it entered, and where a
  thread waits for a worker of its own, it holds that worker.
* `take_stack`, `take_stalled` and their like: updates that leave the stack alone.
-/

namespace EventRelay

/-- An acquisition or a release of a worker of a pooled engine. -/
abbrev PoolMove := EngineId × Pool.Move

namespace Relay

/-! ## Changes -/

/-- What taking a worker from an engine is to its pool. -/
def taking (s : Relay) (e : EngineId) : List PoolMove :=
  match (s.engine e).kind with
  | .inline _ => []
  | .pooled p => [(e, .took p.pool.acquire.1)]

/-- What giving a worker back to an engine is to its pool. -/
def giving (s : Relay) (e : EngineId) (number : Nat) : List PoolMove :=
  match (s.engine e).kind with
  | .inline _ => []
  | .pooled p => [(e, p.pool.outcome number)]

/-- An engine that was not used yet. -/
inductive FreshKind : EngineKind → Prop where
  | inline (exports : Modules) : FreshKind (.inline (InlineEngine.fresh exports))
  | pooled (c : Config) (ownsRuntime : Bool) :
      FreshKind (.pooled (PooledEngine.fresh c ownsRuntime))

/-- One change of the state, with what it does to the pools. -/
inductive Change (s : Relay) : List PoolMove → Relay → Prop where
  | take (e : EngineId) : Change s (s.taking e) (s.take e).2
  | giveBack (e : EngineId) (number : Nat) :
      Change s (s.giving e number) (s.giveBack e number)
  | note (i : Interaction) : Change s [] (s.note i)
  | warn (w : Warning) : Change s [] (s.warn w)
  /-- The thread enters a worker. -/
  | entered (m : Marker) :
      s.stack.head?.map Marker.number ≠ some m.number →
      (∀ held ∈ s.stack, held.home = m.home → held.number ≠ m.number) →
      Change s [] { s with stack := m :: s.stack }
  /-- The thread leaves the worker that it entered last. -/
  | left (m : Marker) (rest : List Marker) :
      s.stack = m :: rest → Change s [] { s with stack := rest }
  | queued (job : Job) : Change s [] { s with queue := s.queue ++ [job] }
  | unqueued (job : Job) (before after : List Job) :
      s.queue = before ++ job :: after → Change s [] { s with queue := before ++ after }
  | finish (job : Job) (failed : Bool) : Change s [] (s.finish job failed)
  | queuedInline (e : EngineId) (i : InlineEngine) (job : Job) :
      (s.engine e).kind = .inline i →
      Change s [] (s.putKind e (.inline { i with queue := i.queue ++ [job] }))
  | begun (e : EngineId) (job : Job) (s' : Relay) :
      s.nextJob? e = some (job, s') → Change s [] s'
  | setCurrent (e : EngineId) (current : Option Nat) : Change s [] (s.setCurrent e current)
  | newWorker (e : EngineId) : Change s [] (s.newWorker e).2
  /-- The listeners of an adapter change. -/
  | request (q : Request) : Change s [] (q.run s)
  /-- A listener is added to a registry that belongs to no adapter. -/
  | register (r : Nat) (e : EngineId) (event : String) (v : Value) (mode : Mode) (l : Listener)
      (s' : Relay) : s.newListener e v mode = (.ok l, s') →
      Change s [] (s'.putRegistry r ((s'.registry r).add event l))
  | unregister (r : Nat) (event : String) (p : Listener → Bool) :
      Change s [] (s.putRegistry r ((s.registry r).removeFirst event p).2)
  | clearEvent (r : Nat) (event : String) :
      Change s [] (s.putRegistry r ((s.registry r).clear event).2)
  | newRegistry : Change s [] (s.putRegistry s.registries.size Registry.empty)
  | types (space : TypeSpace) : Change s [] { s with types := space }
  | addAdapter (e : EngineId) (type : AdapterType) : Change s [] (s.addAdapter e type).2
  | addEngine (kind : EngineKind) :
      FreshKind kind → Change s [] (s.putEngine s.engines.size (Engine.ofKind kind))
  | refuse (e : EngineId) (acquire submit : Refusal) :
      Change s [] (s.putEngine e ⟨(s.engine e).kind, acquire, submit⟩)
  | putExports (e : EngineId) (m : Modules) : Change s [] (Script.putExports e m s)
  | closeUnused (e : EngineId) : Change s [] (s.closeUnused e)
  /-- What scripts keep beside engines and adapters: what names stand for, what was seen, and
  whether jobs end. -/
  | record (names : Names) (calls gates : List String) (log : List (List Value))
      (inner : List Reply) (reported : Reported) (stalled : Option Halt) :
      Change s [] { s with
        names := names, calls := calls, gates := gates, log := log, inner := inner
        reported := reported, stalled := stalled }

/-- Changes one after the other, with what they do to the pools. -/
inductive Path (s : Relay) : List PoolMove → Relay → Prop where
  | refl : Path s [] s
  | step {t u : List PoolMove} {s' s'' : Relay} :
      Path s t s' → Change s' u s'' → Path s (t ++ u) s''

namespace Path

variable {s s' s'' : Relay} {t u : List PoolMove}

theorem single (h : Change s u s') : Path s u s' := .step .refl h

theorem trans (h : Path s t s') (h' : Path s' u s'') : Path s (t ++ u) s'' := by
  induction h' with
  | refl =>
    rw [List.append_nil]
    exact h
  | step _ hc ih =>
    rw [← List.append_assoc]
    exact .step ih hc

end Path

/-! ## Code that runs along a path -/

/-- The thread holds a worker, and another one was entered last. -/
def Waits (s : Relay) (home : EngineId) (number : Nat) : Prop :=
  s.stack.head?.map Marker.number ≠ some number ∧
    ∃ m ∈ s.stack, m.home = home ∧ m.number = number

/-- What code that stops somewhere, or for no reason, does to the state. -/
structure Runs (s : Relay) (halted : Option Halt) (s' : Relay) : Prop where
  path : ∃ t, Path s t s'
  stack : halted = none → s'.stack = s.stack
  /-- If it waits for a worker of its own, it holds that worker, or a job does that it waits for. -/
  waits : ∀ home number, halted = some (.selfLock home number) →
    s'.Waits home number ∨ s'.stalled = some (.selfLock home number)
  /-- If a job waits for a worker of its own, it has come to hold it. -/
  stalls : ∀ home number, s'.stalled = some (.selfLock home number) →
    s.stalled = some (.selfLock home number) ∨ ∃ t s₁, Path s t s₁ ∧ s₁.Waits home number

end Relay

/-- Why control does not leave, if it does not. -/
def Exit.halt? {ε α : Type} : Exit ε α → Option Halt
  | halt reason => some reason
  | _ => none

@[simp] theorem Exit.halt?_map {ε α β : Type} (f : α → β) (exit : Exit ε α) :
    (exit.map f).halt? = exit.halt? := by
  cases exit <;> rfl

@[simp] theorem Exit.halt?_mapError {ε ε' α : Type} (f : ε → ε') (exit : Exit ε α) :
    (exit.mapError f).halt? = exit.halt? := by
  cases exit <;> rfl

theorem Exit.leaves_of_halt? {ε α : Type} {exit : Exit ε α} (h : exit.halt? = none) :
    exit.Leaves := by
  rintro reason rfl
  cases h

theorem Exit.halt?_of_leaves {ε α : Type} {exit : Exit ε α} (h : exit.Leaves) :
    exit.halt? = none := by
  cases exit with
  | halt reason => exact absurd h (Exit.not_leaves_halt reason)
  | ok | error | panic => rfl

/-- Code that runs along a path, whatever its way out. -/
abbrev RunsTo {ε α : Type} (s : Relay) (out : Exit ε α × Relay) : Prop :=
  s.Runs out.1.halt? out.2

/-- Every call of a function runs along a path. -/
def Caller.Runs (call : Caller) : Prop :=
  ∀ f args s, RunsTo s (call f args s)

/-- So do the calls of a thread, and other threads. -/
structure Runner.Runs (x : Runner) : Prop where
  call : x.call.Runs
  others : ∀ keeps s, Relay.Runs s none (x.others keeps s)

namespace Relay

namespace Runs

variable {s s' s'' : Relay} {u : List PoolMove} {halted : Option Halt}

theorem stay (s : Relay) {halted : Option Halt} (h : halted ≠ none → halted = some .outOfFuel) :
    s.Runs halted s where
  path := ⟨[], .refl⟩
  stack _ := rfl
  waits home number hwaits := by simp [hwaits] at h
  stalls _ _ := .inl

theorem refl (s : Relay) : s.Runs none s := .stay s nofun

theorem outOfFuel (s : Relay) : s.Runs (some .outOfFuel) s := .stay s fun _ => rfl

theorem trans (h : s.Runs none s') (h' : s'.Runs halted s'') : s.Runs halted s'' where
  path := by
    obtain ⟨t, ht⟩ := h.path
    obtain ⟨u, hu⟩ := h'.path
    exact ⟨t ++ u, ht.trans hu⟩
  stack hn := (h'.stack hn).trans (h.stack rfl)
  waits := h'.waits
  stalls home number hstalled := by
    rcases h'.stalls home number hstalled with hstalled | ⟨u, s₁, hu, hwaits⟩
    · exact h.stalls home number hstalled
    · obtain ⟨t, ht⟩ := h.path
      exact .inr ⟨t ++ u, s₁, ht.trans hu, hwaits⟩

theorem of_change (h : Change s u s') (hstack : s'.stack = s.stack)
    (hstalled : s'.stalled = s.stalled) : s.Runs none s' where
  path := ⟨u, .single h⟩
  stack _ := hstack
  waits := nofun
  stalls _ _ hs := .inl (hstalled ▸ hs)

end Runs

/-! ## Updates of engines -/

theorem engine_putEngine (s : Relay) (e e' : EngineId) (engine : Engine) :
    (s.putEngine e' engine).engine e = if e' = e then engine else s.engine e :=
  Table.get_put Engine.blank s.engines e' e engine

/-- No engine stands where the next one will. -/
theorem engine_size (s : Relay) : s.engine s.engines.size = Engine.blank :=
  List.getD_eq_default _ _ (Nat.le_refl _)

/-! ## Updates that leave the stack alone -/

section

variable (s : Relay)

@[simp] theorem take_stack (e : EngineId) : (s.take e).2.stack = s.stack := by
  unfold take
  split <;> rfl

@[simp] theorem take_stalled (e : EngineId) : (s.take e).2.stalled = s.stalled := by
  unfold take
  split <;> rfl

@[simp] theorem giveBack_stack (e : EngineId) (n : Nat) : (s.giveBack e n).stack = s.stack := by
  unfold giveBack
  split
  · rfl
  · split <;> rfl

@[simp] theorem giveBack_stalled (e : EngineId) (n : Nat) :
    (s.giveBack e n).stalled = s.stalled := by
  unfold giveBack
  split
  · rfl
  · split <;> rfl

@[simp] theorem finish_stack (job : Job) (failed : Bool) :
    (s.finish job failed).stack = s.stack := by
  unfold finish
  split <;> rfl

@[simp] theorem finish_stalled (job : Job) (failed : Bool) :
    (s.finish job failed).stalled = s.stalled := by
  unfold finish
  split <;> rfl

/-! ## Workers -/

theorem take_runs (e : EngineId) : s.Runs none (s.take e).2 :=
  .of_change (.take e) (take_stack s e) (take_stalled s e)

theorem giveBack_runs (e : EngineId) (n : Nat) : s.Runs none (s.giveBack e n) :=
  .of_change (.giveBack e n) (giveBack_stack s e n) (giveBack_stalled s e n)

theorem warn_runs (w : Warning) : s.Runs none (s.warn w) :=
  .of_change (.warn w) rfl rfl

theorem finish_runs (job : Job) (failed : Bool) : s.Runs none (s.finish job failed) :=
  .of_change (.finish job failed) (finish_stack s job failed) (finish_stalled s job failed)

end

end Relay

end EventRelay
