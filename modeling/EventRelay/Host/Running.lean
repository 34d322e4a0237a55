import EventRelay.Dispatch
import EventRelay.Relay

/-!
# EventRelay.Host.Running

How engines and workers run targets.

* `Caller`: what a call of a function does, given from outside, so that all of this holds for any
  functions. `Runner`: the same for what runs beside the thread.
* `Relay.acquire`, `Relay.release`: workers taken from an engine and given back.
* `Relay.within`: code inside a worker of a pooled engine. It is left on every way out, and a
  worker that is on top of the stack already is not entered again.
* `Relay.runJob`: a job of a pooled engine, on a thread of its own. `Relay.settle`: other threads
  that run jobs whenever they may.
* `Relay.invoke`, `Relay.submit`: the two ways to have a worker run a target, now or later.
* `Relay.host`: an engine, as emissions see it.
* `Relay.runPending`: the jobs of an inline engine.
-/

namespace EventRelay

/-- What a call of a function does. -/
abbrev Caller := Function → List Value → Relay → Exit Cause Value × Relay

/-- Which workers of pooled engines the operations hold that are under way. -/
abbrev Keeps := Relay → EngineId → Nat → Bool

/-- How a thread calls functions and how many jobs it runs in a row at most, which workers its
operations hold that are under way, and what other threads do when it lets them. -/
structure Runner where
  call : Caller
  jobs : Nat
  keeps : Keeps
  others : Keeps → Relay → Relay

namespace Runner

/-- The runner inside an operation that holds some workers. -/
def keeping (x : Runner) (held : Keeps) : Runner :=
  { x with keeps := fun s e n => held s e n || x.keeps s e n }

/-- The runner inside an operation on a worker. -/
def keepingWorker (x : Runner) (w : Worker) : Runner :=
  x.keeping fun _ e n => e == w.home && n == w.number

/-- Lets other threads go on. -/
def meanwhile (x : Runner) (s : Relay) : Relay := x.others x.keeps s

end Runner

namespace Relay

/-! ## Workers -/

/-- The worker that runs the current code, as far as an engine knows. -/
def currentWorker (s : Relay) (e : EngineId) : Option Worker :=
  match (s.engine e).kind with
  | .inline i => i.current.map fun n => ⟨e, n, e⟩
  | .pooled _ =>
    match s.stack with
    | [] => none
    | m :: _ => if m.present then some ⟨m.home, m.number, e⟩ else none

def take (s : Relay) (e : EngineId) : Worker × Relay :=
  match (s.engine e).kind with
  | .inline i =>
    let n := i.workers + 1
    (⟨e, n, e⟩, s.putKind e (.inline { i with workers := n, acquired := i.acquired + 1 }))
  | .pooled p =>
    let (n, pool) := p.pool.acquire
    (⟨e, n, e⟩, s.putKind e (.pooled { p with pool := pool }))

/-- Gives a worker back to an engine, by its number. -/
def giveBack (s : Relay) (e : EngineId) (number : Nat) : Relay :=
  match (s.engine e).kind with
  | .inline i => s.putKind e (.inline { i with released := i.released + 1 })
  | .pooled p =>
    match p.pool.release number with
    | some pool => s.putKind e (.pooled { p with pool := pool })
    | none => s.warn (.notLeased (Worker.nameOf number))

/-- Takes a worker from an engine that may refuse. -/
def acquire (s : Relay) (e : EngineId) : Except Cause Worker × Relay :=
  match (s.engine e).refuseAcquire s.trace with
  | some text => (.error (.text text), s.note (.refused e))
  | none =>
    let (w, s) := s.take e
    (.ok w, s.note (.acquired e w))

def release (s : Relay) (e : EngineId) (w : Worker) : Relay :=
  (s.note (.released e w)).giveBack e w.number

/-! ## Code inside a worker -/

/-- Runs `body` inside a worker of a pooled engine. A worker of the same number on top of the stack
means that the thread is inside already. A worker further down is locked by the thread itself,
which then waits forever. -/
def within {ε α : Type} (m : Marker) (body : Relay → Exit ε α × Relay) (s : Relay) :
    Exit ε α × Relay :=
  if s.stack.head?.map Marker.number = some m.number then body s
  else if s.stack.any fun held => held.home == m.home && held.number == m.number then
    (.halt (.selfLock m.home m.number), s)
  else
    match body { s with stack := m :: s.stack } with
    | (.halt h, s') => (.halt h, s')
    | (exit, s') => (exit, { s' with stack := s.stack })

/-- The function that a target stands for right now, where an engine looks up exports. -/
def callee (s : Relay) (e : EngineId) (t : Target) : Except Cause Function :=
  match t with
  | .function f => .ok f
  | .export module name =>
    match (s.engine e).kind with
    | .inline i =>
      match i.exports.find? module name with
      | some f => .ok f
      | none => .error (.text s!"no function `{name}` in module `{module}`")
    | .pooled p =>
      match p.modules.resolve module name with
      | .ok f => .ok f
      | .error error => .error (.host error)

/-- Calls the function that a target stands for. -/
def runTarget (call : Caller) (e : EngineId) (t : Target) (args : List Value) (s : Relay) :
    Exit Cause Value × Relay :=
  match s.callee e t with
  | .ok f => call f args s
  | .error c => (.error c, s)

/-! ## Jobs of pooled engines -/

def finish (s : Relay) (job : Job) (failed : Bool) : Relay :=
  match (s.engine job.home).kind with
  | .pooled p => s.putKind job.home (.pooled { p with finished := p.finished ++ [(job, failed)] })
  | .inline _ => s

/-- The name of the worker of a job in warnings. -/
def jobWorkerName (s : Relay) (job : Job) : String :=
  match (s.engine job.home).kind with
  | .pooled p => p.workerName job.number
  | .inline _ => Worker.nameOf job.number

/-- Runs a job inside its worker. A failure or a panic ends here, with a warning. -/
def runJob (call : Caller) (keeps : Keeps) (job : Job) (s : Relay) : Option Halt × Relay :=
  let held := keeps s job.home job.number || s.holds job.home job.number
  let m : Marker := ⟨job.home, job.number, held⟩
  match within m (runTarget call job.home job.target job.args) s with
  | (.ok _, s') => (none, s'.finish job false)
  | (.error c, s') => (none, (s'.warn (.jobFailed (s'.jobWorkerName job) c)).finish job true)
  | (.panic _, s') => (none, (s'.warn (.jobPanicked (s'.jobWorkerName job))).finish job true)
  | (.halt h, s') => (some h, s')

/-- Runs the waiting jobs, also those that they queue, `bound` many at most. A job that would never
end is not begun, and neither is any after it. -/
def drain (call : Caller) (keeps : Keeps) (bound : Nat) (s : Relay) : Relay :=
  match bound with
  | 0 => if s.queue.isEmpty then s else { s with stalled := some .outOfFuel }
  | bound + 1 =>
    match s.queue with
    | [] => s
    | job :: rest =>
      match runJob call keeps job { s with queue := rest } with
      | (some reason, _) => { s with stalled := some reason }
      | (none, s') => drain call keeps bound s'

/-- Other threads that run the waiting jobs as soon as this one is inside no worker. -/
def settle (call : Caller) (bound : Nat) (keeps : Keeps) (s : Relay) : Relay :=
  if s.stack.isEmpty && s.stalled.isNone then drain call keeps bound s else s

/-- Why the jobs that wait never end, although the thread is inside no worker. -/
def endless? (s : Relay) : Option Halt :=
  if s.stack.isEmpty && !s.queue.isEmpty then some (s.stalled.getD .outOfFuel) else none

/-- Runs `body` inside a worker of a pooled engine, and lets other threads go on once it was
left. -/
def enter {ε α : Type} (x : Runner) (m : Marker) (body : Relay → Exit ε α × Relay) (s : Relay) :
    Exit ε α × Relay :=
  match within m body s with
  | (.halt h, s') => (.halt h, s')
  | (exit, s') => (exit, x.meanwhile s')

/-! ## Targets -/

/-- Has a worker run a target, and waits for it. -/
def invoke (x : Runner) (w : Worker) (t : Target) (args : List Value) (s : Relay) :
    Exit Cause Value × Relay :=
  let s := s.note (.invoked w t args)
  match (s.engine w.home).kind with
  | .inline _ => runTarget x.call w.home t args s
  | .pooled _ =>
    enter (x.keepingWorker w) ⟨w.home, w.number, true⟩ (runTarget x.call w.home t args) s

/-- Has a worker queue a target. -/
def submit (w : Worker) (t : Target) (args : List Value) (s : Relay) :
    Except Cause Unit × Relay :=
  match (s.engine w.via).refuseSubmit s.trace with
  | some text => (.error (.text text), s.note (.submitted w t args false))
  | none =>
    let job : Job := ⟨w.home, w.number, t, args⟩
    match (s.engine w.home).kind with
    | .inline i =>
      (.ok (), (s.note (.submitted w t args true)).putKind w.home
        (.inline { i with queue := i.queue ++ [job] }))
    | .pooled p =>
      if p.isOpen then
        (.ok (), { s.note (.submitted w t args true) with queue := s.queue ++ [job] })
      else (.error (.host (.queueClosed w.number)), s.note (.submitted w t args false))

/-- Has a worker queue a target, and lets other threads go on if it did. -/
def handOver (x : Runner) (w : Worker) (t : Target) (args : List Value) (s : Relay) :
    Except Cause Unit × Relay :=
  match submit w t args s with
  | (.ok _, s') => (.ok (), (x.keepingWorker w).meanwhile s')
  | (.error c, s') => (.error c, s')

/-- An engine, as emissions on a thread see it. -/
def host (x : Runner) (e : EngineId) : Host Relay where
  acquire s := s.acquire e
  release w s := s.release e w
  invoke := invoke x
  submit := handOver x
  warn w s := s.warn w

/-! ## Inline engines -/

/-- Sets the current worker of an inline engine. -/
def setCurrent (s : Relay) (e : EngineId) (current : Option Nat) : Relay :=
  match (s.engine e).kind with
  | .inline i => s.putKind e (.inline { i with current := current })
  | .pooled _ => s

/-- The number of the current worker of an inline engine. -/
def inlineCurrent (s : Relay) (e : EngineId) : Option Nat :=
  match (s.engine e).kind with
  | .inline i => i.current
  | .pooled _ => none

/-- Makes a new worker of an inline engine, without an acquisition. -/
def newWorker (s : Relay) (e : EngineId) : Nat × Relay :=
  match (s.engine e).kind with
  | .inline i => (i.workers + 1, s.putKind e (.inline { i with workers := i.workers + 1 }))
  | .pooled _ => (0, s)

/-- Runs `body` with a new worker as the current one of an inline engine. The earlier one is
current again after a return, but not after unwinding. -/
def withWorker {ε α : Type} (e : EngineId) (body : Relay → Exit ε α × Relay) (s : Relay) :
    Nat × Exit ε α × Relay :=
  let previous := s.inlineCurrent e
  let (n, s) := s.newWorker e
  match body (s.setCurrent e (some n)) with
  | (.ok a, s') => (n, .ok a, s'.setCurrent e previous)
  | (.error c, s') => (n, .error c, s'.setCurrent e previous)
  | (exit, s') => (n, exit, s')

/-- Runs `body` inside a worker of the pool of a pooled engine, which is given back on every way
out. -/
def inPooled {ε α : Type} (x : Runner) (e : EngineId) (body : Relay → Exit ε α × Relay)
    (s : Relay) : Nat × Exit ε α × Relay :=
  let (w, s) := s.take e
  match enter x ⟨w.home, w.number, true⟩ body s with
  | (.halt h, s') => (w.number, .halt h, s')
  | (exit, s') => (w.number, exit, s'.giveBack e w.number)

/-- Runs `body` inside a worker of an engine, and names its number. -/
def inWorker {ε α : Type} (x : Runner) (e : EngineId) (body : Relay → Exit ε α × Relay)
    (s : Relay) : Nat × Exit ε α × Relay :=
  match (s.engine e).kind with
  | .inline _ => withWorker e body s
  | .pooled _ => inPooled x e body s

/-- Takes the oldest waiting job of an inline engine. -/
def nextJob? (s : Relay) (e : EngineId) : Option (Job × Relay) :=
  match (s.engine e).kind with
  | .inline i =>
    match i.queue with
    | [] => none
    | job :: rest =>
      some (job, s.putKind e (.inline { i with queue := rest, begun := i.begun ++ [job] }))
  | .pooled _ => none

/-- Runs the waiting jobs of an inline engine, also those that they queue, and counts them. A
failure is no concern, but a panic unwinds and leaves the rest waiting. -/
def runPending (x : Runner) (e : EngineId) (bound ran : Nat) (s : Relay) :
    Exit Cause Nat × Relay :=
  match bound with
  | 0 => if (s.nextJob? e).isNone then (.ok ran, s) else (.halt .outOfFuel, s)
  | bound + 1 =>
    match s.nextJob? e with
    | none => (.ok ran, s)
    | some (job, s') =>
      match runTarget x.call e job.target job.args s' with
      | (.panic p, s'') => (.panic p, s'')
      | (.halt h, s'') => (.halt h, s'')
      | (_, s'') => runPending x e bound (ran + 1) s''

end Relay

end EventRelay
