import EventRelay.Adapter.Call
import EventRelay.Interface.Catalogue
import EventRelay.Script.Step

/-!
# EventRelay.Script.Run

Running scripts.

* `runStep`, `runSteps`: one step, and listed steps with a report for each. A panic ends the
  listed step that it comes from and no other.
* `runActions`, `behave`: what a function does.
* `callAt`: calls nested up to a depth, which ties functions that run steps to steps that call
  functions.
* `run`: a whole script.
-/

namespace EventRelay
namespace Script

open Relay

/-! ## Names -/

/-- The engine of a name; an inline engine is started if there is none. -/
def engineNamed (name : String) (s : Relay) : EngineId × Relay :=
  match Names.look name s.names.engines with
  | some e => (e, s)
  | none =>
    let e := s.engines.size
    (e, { s.putEngine e Engine.blank with
      names := { s.names with engines := Names.bind name e s.names.engines } })

/-- Runs `body` with the adapter of a name. -/
def withAdapter (name : String) (s : Relay) (body : AdapterId → Exit Fault Reply × Relay) :
    Exit Fault Reply × Relay :=
  match Names.look name s.names.adapters with
  | some a => body a
  | none => (.error (.unknown name), s)

def withWorkerNamed (name : String) (s : Relay) (body : Worker → Exit Fault Reply × Relay) :
    Exit Fault Reply × Relay :=
  match Names.look name s.names.workers with
  | some w => body w
  | none => (.error (.unknown name), s)

/-- Runs `body` with the registry of a name. -/
def withRegistry (name : String) (s : Relay) (body : Nat → Exit Fault Reply × Relay) :
    Exit Fault Reply × Relay :=
  match Names.look name s.names.registries with
  | some r => body r
  | none => (.error (.unknown name), s)

def nameAdapter (name : String) (a : AdapterId) (s : Relay) : Relay :=
  closeAllUnused { s with
    names := { s.names with adapters := Names.bind name a s.names.adapters } }

/-- Names a handle, if there is a name for it. -/
def nameHandle (name : Option String) (n : Nat) (s : Relay) : Relay :=
  match name with
  | some key => { s with names := { s.names with handles := Names.bind key n s.names.handles } }
  | none => s

/-! ## Parts of steps -/

/-- The settings that a pooled engine starts with. -/
def settingsOf (given : Settings) : Except Fault Config :=
  match given.start with
  | .standard => .ok Config.standard
  | .standardOnRuntime => .ok Config.standard
  | _ =>
    let base := match given.document with
      | none => some Config.standard
      | some d => Config.read? d
    match base with
    | none => .error .unreadable
    | some c =>
      let c : Config :=
        ⟨given.maxIdle.getD c.maxIdle, given.workerName.getD c.workerName,
          match given.threads with
          | some n => some n
          | none => c.threads⟩
      match c.validate with
      | .ok () => .ok c
      | .error e => .error (.cause (.host e))

/-- Whether the runtime of a pooled engine ends with it. -/
def Start.ownsRuntime : Start → Bool
  | owning => true
  | standard => true
  | _ => false

def addEngine (name : String) (kind : EngineKind) (s : Relay) : Relay :=
  let e := s.engines.size
  closeAllUnused { s.putEngine e (Engine.ofKind kind) with
    names := { s.names with engines := Names.bind name e s.names.engines } }

def startEngine (name : String) (spec : EngineSpec) (s : Relay) : Exit Fault Reply × Relay :=
  match spec with
  | .inline exports => (.ok .null, addEngine name (.inline (InlineEngine.fresh ⟨exports⟩)) s)
  | .pooled settings =>
    match settingsOf settings with
    | .error e => (.error e, s)
    | .ok c =>
      (.ok (.config c),
        addEngine name (.pooled (PooledEngine.fresh c settings.start.ownsRuntime)) s)

def dropEngine (name : String) (s : Relay) : Relay :=
  closeAllUnused { s with
    names := { s.names with engines := Names.drop name s.names.engines } }

/-- Submissions to a worker until one is refused, which happens only after its engine closed. -/
def submitUntilClosed (w : Worker) (s : Relay) : Exit Fault Reply × Relay :=
  match (s.engine w.home).kind with
  | .pooled p =>
    if p.isOpen then (.halt .outOfFuel, s)
    else (.error (.cause (.host (.queueClosed w.number))), s)
  | .inline _ => (.halt .outOfFuel, s)

def statsOf (e : EngineId) (s : Relay) : Reply :=
  match (s.engine e).kind with
  | .inline i => .inlineStats i.acquired i.released
  | .pooled p =>
    .pooledStats p.pool.created p.pool.acquired p.pool.released p.jobsCompleted p.jobsFailed
      p.pool.idle.length

/-- The workers of the waiting jobs of an inline engine. -/
def pendingOf (e : EngineId) (s : Relay) : Reply :=
  match (s.engine e).kind with
  | .inline i => .pending (i.queue.map fun job => Worker.nameOf job.number)
  | .pooled _ => .pending []

def describeEngine (e : EngineId) (s : Relay) : Reply :=
  match (s.engine e).kind with
  | .inline _ => .null
  | .pooled p => .text p.describe

def exportsOf (e : EngineId) (s : Relay) : Modules :=
  match (s.engine e).kind with
  | .inline i => i.exports
  | .pooled p => p.modules

def putExports (e : EngineId) (m : Modules) (s : Relay) : Relay :=
  match (s.engine e).kind with
  | .inline i => s.putKind e (.inline { i with exports := m })
  | .pooled p => s.putKind e (.pooled { p with modules := m })

def textOrNull : Option String → Reply
  | some t => .text t
  | none => .null

/-- The answer of a new adapter, which gets a name. -/
def finishAdapter (name : String) (made : Except AdapterError AdapterId × Relay) :
    Exit Fault Reply × Relay :=
  match made with
  | (.error e, s) => (.error (.adapter e), s)
  | (.ok a, s) => (.ok (.made (s.adapter a).type.name), nameAdapter name a s)

/-- An adapter of the interface that a trait of the catalogue declares. -/
def declare (name engine trait : String) (s : Relay) : Exit Fault Reply × Relay :=
  match Interface.Catalogue.find? trait with
  | none => (.error (.unknown trait), s)
  | some d =>
    let (e, s) := engineNamed engine s
    match s.newAdapter e d.descriptor with
    | (.error error, s) => (.error (.adapter error), s)
    | (.ok a, s) =>
      let s := nameAdapter name a s
      (.ok (.descriptor d.descriptor),
        { s with names := { s.names with declared := Names.bind name (a, d) s.names.declared } })

/-- Calls a trait method of an adapter whose interface a trait declares. -/
def callDeclaredNamed (x : Runner) (name method : String) (args : List Value) (s : Relay) :
    Exit Fault Reply × Relay :=
  match Names.look name s.names.declared with
  | none => (.error (.unknown name), s)
  | some (a, d) =>
    match d.method? method with
    | none => (.error (.unknown method), s)
    | some (index, m) =>
      match callDeclared x a index m args s with
      | (.ok typed, s') => (.ok (.typed m.shape typed), s')
      | (.error e, s') => (.error e, s')
      | (.panic p, s') => (.panic p, s')
      | (.halt h, s') => (.halt h, s')

/-- Registers a listener with a registry that belongs to no adapter. -/
def register (r : Nat) (e : EngineId) (event : String) (mode : Mode) (v : Value)
    (name : Option String) (s : Relay) : Exit Fault Reply × Relay :=
  match s.newListener e v mode with
  | (.error error, s) => (.error (.registration error), s)
  | (.ok l, s) =>
    (.ok (.registered l), nameHandle name l.handle (s.putRegistry r ((s.registry r).add event l)))

/-- The listeners of an event, which get a name. -/
def snapshotOf (r : Nat) (event name : String) (s : Relay) : Exit Fault Reply × Relay :=
  match (s.registry r).find event with
  | [] => (.ok .null, s)
  | ls =>
    (.ok (.snapshot ls),
      { s with names := { s.names with snapshots := Names.bind name ls s.names.snapshots } })

/-- The answer of a removal from a registry. -/
def removed (r : Nat) (result : Bool × Registry) (s : Relay) : Exit Fault Reply × Relay :=
  (.ok (.flag result.1), s.putRegistry r result.2)

/-- Everything observed since the report before. -/
def report (result : Except Panic Reply) (s : Relay) : Report × Relay :=
  (⟨result, s.log.drop s.reported.log, s.inner.drop s.reported.inner,
      s.trace.drop s.reported.trace, s.warnings.drop s.reported.warnings⟩,
    { s with
      reported := ⟨s.log.length, s.inner.length, s.trace.length, s.warnings.length⟩ })

/-- An answer from the way out of an invocation. -/
def answer {α : Type} (reply : α → Reply) (out : Exit InvocationError α × Relay) :
    Exit Fault Reply × Relay :=
  ((out.1.map reply).mapError Fault.invocation, out.2)

/-- An answer from the way out of a worker. -/
def workerAnswer {α : Type} (reply : α → Reply) (out : Exit Cause α × Relay) :
    Exit Fault Reply × Relay :=
  ((out.1.map reply).mapError Fault.cause, out.2)

/-! ## Steps -/

mutual

def runStep (x : Runner) : Step → Relay → Exit Fault Reply × Relay
  | .startEngine name spec, s => startEngine name spec s
  | .dropEngine engine, s => (.ok .null, dropEngine engine s)
  | .submitUntilClosed worker, s => withWorkerNamed worker s fun w => submitUntilClosed w s
  | .refuse engine acquire submit, s =>
    let (e, s) := engineNamed engine s
    (.ok .null, s.putEngine e ⟨(s.engine e).kind, .always acquire, .always submit⟩)
  | .acquire engine name, s =>
    let (e, s) := engineNamed engine s
    match s.acquire e with
    | (.error c, s) => (.error (.cause c), s)
    | (.ok w, s) =>
      (.ok (.text w.name),
        { s with names := { s.names with workers := Names.bind name w s.names.workers } })
  | .release engine worker, s =>
    let (e, s) := engineNamed engine s
    withWorkerNamed worker s fun w => (.ok .null, s.release e w)
  | .invoke worker target args, s =>
    withWorkerNamed worker s fun w => workerAnswer .value (invoke x w target args s)
  | .submit worker target args, s =>
    withWorkerNamed worker s fun w =>
      let (queued, s) := handOver x w target args s
      workerAnswer (fun _ => .null) (.ofExcept queued, s)
  | .leaseDuring engine steps, s =>
    let (e, s) := engineNamed engine s
    (host x e).lease (fun c s => (.error (.cause c), s))
      (fun w s =>
        match runSteps x steps s with
        | (.ok reports, s) => (.ok (.leasedDuring w reports), s)
        | (.error h, s) => (.halt h, s)) s
  | .leaseFor engine target args, s =>
    let (e, s) := engineNamed engine s
    (host x e).lease (fun c s => (.error (.cause c), s))
      (fun w s => workerAnswer (.leased w) (invoke x w target args s)) s
  | .current engine, s =>
    let (e, s) := engineNamed engine s
    (.ok (textOrNull ((s.currentWorker e).map Worker.name)), s)
  | .inWorker engine steps, s =>
    let (e, s) := engineNamed engine s
    match inWorker (ε := Fault) (α := List Report) x e
        (fun s =>
          match runSteps x steps s with
          | (.ok reports, s) => (.ok reports, s)
          | (.error h, s) => (.halt h, s)) s with
    | (n, exit, s) => (exit.map (.inside (Worker.nameOf n)), s)
  | .panicInWorker engine, s =>
    let (e, s) := engineNamed engine s
    match (s.engine e).kind with
    | .inline _ => (.error (.unknown "not a task engine"), s)
    | .pooled _ => (inPooled x e (fun s => (.panic (.text "inside"), s)) s).2
  | .runPending engine, s =>
    let (e, s) := engineNamed engine s
    workerAnswer .number (Relay.runPending x e x.jobs 0 s)
  | .pending engine, s =>
    let (e, s) := engineNamed engine s
    (.ok (pendingOf e s), s)
  | .stats engine, s =>
    let (e, s) := engineNamed engine s
    (.ok (statsOf e s), s)
  | .describeEngine engine, s =>
    let (e, s) := engineNamed engine s
    (.ok (describeEngine e s), s)
  | .define engine module name f, s =>
    let (e, s) := engineNamed engine s
    (.ok .null, putExports e ((exportsOf e s).define module name f) s)
  | .undefine engine module name, s =>
    let (e, s) := engineNamed engine s
    let (f, m) := (exportsOf e s).undefine module name
    (.ok (textOrNull (f.map Function.id)), putExports e m s)
  | .resolveModule engine module name, s =>
    let (e, s) := engineNamed engine s
    match (exportsOf e s).resolve module name with
    | .ok f => (.ok (.function f.id), s)
    | .error error => (.error (.cause (.host error)), s)
  | .synthesize d, s =>
    match s.synthesize d with
    | (.ok type, s) => (.ok (.synthesized type), s)
    | (.error error, s) => (.error (.adapter error), s)
  | .lookup name, s =>
    (.ok (textOrNull ((s.types.lookup name).map fun t => t.descriptor.name)), s)
  | .installed, s => (.ok (.number s.types.installedCount), s)
  | .newAdapter name engine d, s =>
    let (e, s) := engineNamed engine s
    finishAdapter name (s.newAdapter e d)
  | .construct name engine args, s =>
    let (e, s) := engineNamed engine s
    finishAdapter name (s.construct e args)
  | .withType name engine adapter, s =>
    withAdapter adapter s fun a =>
      let (e, s) := engineNamed engine s
      let (b, s) := s.addAdapter e (s.adapter a).type
      finishAdapter name (.ok b, s)
  | .clone name adapter, s => withAdapter adapter s fun a => finishAdapter name (.ok a, s)
  | .typeInfo adapter, s => withAdapter adapter s fun a => (.ok (.typeInfo (s.adapter a).type), s)
  | .describe adapter, s =>
    withAdapter adapter s fun a => (.ok (.text (s.adapter a).describe), s)
  | .sameType adapter other, s =>
    withAdapter adapter s fun a =>
      withAdapter other s fun b => (.ok (.flag ((s.adapter a).type == (s.adapter b).type)), s)
  | .sameEngine adapter engine, s =>
    withAdapter adapter s fun a =>
      let (e, s) := engineNamed engine s
      (.ok (.flag ((s.adapter a).engine == e)), s)
  | .resolve adapter method arity, s =>
    withAdapter adapter s fun a =>
      match (s.adapter a).type.resolve method arity with
      | .ok slot => (.ok (.number slot.index), s)
      | .error e => (.error (.invocation e), s)
  | .slotAt adapter index, s =>
    withAdapter adapter s fun a =>
      match (s.adapter a).type.slot index with
      | .ok slot => (.ok (.text slot.name), s)
      | .error e => (.error (.invocation e), s)
  | .listen adapter event mode v name, s =>
    withAdapter adapter s fun a =>
      match s.listen a event v mode with
      | (.ok n, s) => (.ok (.handle n), nameHandle name n s)
      | (.error e, s) => (.error (.registration e), s)
  | .unlisten adapter event handle, s =>
    withAdapter adapter s fun a =>
      match Names.look handle s.names.handles with
      | none => (.error (.unknown handle), s)
      | some n =>
        let s := s.unlisten a event n
        (.ok (.texts (s.adapter a).listeners.events), s)
  | .unlistenValue adapter event v, s =>
    withAdapter adapter s fun a =>
      let s := s.unlistenValue a event v
      (.ok (.number ((s.adapter a).listeners.count event)), s)
  | .unlistenAll adapter event, s =>
    withAdapter adapter s fun a =>
      let s := s.unlistenAll a event
      (.ok (.texts (s.adapter a).listeners.events), s)
  | .count adapter event, s =>
    withAdapter adapter s fun a => (.ok (.number ((s.adapter a).listeners.count event)), s)
  | .events adapter, s =>
    withAdapter adapter s fun a => (.ok (.texts (s.adapter a).listeners.events), s)
  | .emit adapter event args, s =>
    withAdapter adapter s fun a => answer (fun _ => .null) (Relay.emit x a event args s)
  | .call adapter method args, s =>
    withAdapter adapter s fun a => answer .value (Relay.call x a method args s)
  | .callSlot adapter index args, s =>
    withAdapter adapter s fun a => answer .value (Relay.callSlot x a index args s)
  | .openGate gate, s => (.ok .null, { s with gates := gate :: s.gates })
  | .gate gate, s => (.ok (.gate (s.gates.contains gate)), s)
  | .recorded atLeast, s => (.ok (.recorded s.log.length (decide (atLeast ≤ s.log.length))), s)
  | .newRegistry name, s =>
    let r := s.registries.size
    let s := s.putRegistry r Registry.empty
    (.ok .null,
      { s with names := { s.names with registries := Names.bind name r s.names.registries } })
  | .register registry engine event mode v name, s =>
    withRegistry registry s fun r =>
      let (e, s) := engineNamed engine s
      register r e event mode v name s
  | .unregister registry event handle, s =>
    withRegistry registry s fun r =>
      match Names.look handle s.names.handles with
      | none => (.error (.unknown handle), s)
      | some n => removed r ((s.registry r).remove event n) s
  | .unregisterValue registry event v, s =>
    withRegistry registry s fun r => removed r ((s.registry r).removeValue event v) s
  | .unregisterMode registry event mode, s =>
    withRegistry registry s fun r =>
      removed r ((s.registry r).removeFirst event fun l => l.mode == mode) s
  | .clearEvent registry event, s =>
    withRegistry registry s fun r =>
      let (n, cleared) := (s.registry r).clear event
      (.ok (.number n), s.putRegistry r cleared)
  | .registryState registry, s =>
    withRegistry registry s fun r =>
      (.ok (.registry ((s.registry r).lists.map fun e => (e.1, e.2.length))), s)
  | .snapshot registry event name, s =>
    withRegistry registry s fun r => snapshotOf r event name s
  | .dispatch snapshot index engine event args, s =>
    match (Names.look snapshot s.names.snapshots).bind fun ls => ls[index]? with
    | none => (.error (.unknown snapshot), s)
    | some l =>
      let (e, s) := engineNamed engine s
      answer (fun _ => .null) ((host x e).dispatch event l args s)
  | .declared name engine trait, s => declare name engine trait s
  | .callDeclared adapter method args, s => callDeclaredNamed x adapter method args s

/-- Runs listed steps, with a report for each. Outside of all workers, the jobs that wait after a
step are waited for. -/
def runSteps (x : Runner) : List Step → Relay → Except Halt (List Report) × Relay
  | [], s => (.ok [], s)
  | step :: rest, s =>
    let done (result : Except Panic Reply) (s : Relay) : Except Halt (List Report) × Relay :=
      match s.endless? with
      | some h => (.error h, s)
      | none =>
        let (first, s) := report result s
        match runSteps x rest s with
        | (.ok reports, s) => (.ok (first :: reports), s)
        | (.error h, s) => (.error h, s)
    match runStep x step s with
    | (.ok reply, s) => done (.ok reply) s
    | (.error fault, s) => done (.ok (.fault fault)) s
    | (.panic p, s) => done (.error p) s
    | (.halt h, s) => (.error h, s)

end

/-! ## Functions -/

/-- Notes the answer of a step that a function ran. -/
def noteInner (reply : Reply) (s : Relay) : Relay := { s with inner := s.inner ++ [reply] }

/-- Runs the actions of a function; it returns nothing if none of them returns. -/
def runActions (x : Runner) (f : Function) (args : List Value) :
    List Action → Relay → Exit Cause Value × Relay
  | [], s => (.ok .null, s)
  | .record :: rest, s => runActions x f args rest (s.record (.str f.id :: args))
  | .recordWorker engine :: rest, s =>
    let (e, s) := engineNamed engine s
    let worker := match s.currentWorker e with
      | some w => .int w.number
      | none => .null
    runActions x f args rest (s.record [.str f.id, worker])
  | .fail message :: _, s => (.error (.text message), s)
  | .panic message :: _, s => (.panic (.text message), s)
  | .ret v :: _, s => (.ok v, s)
  | .retArg index :: _, s =>
    match args[index]? with
    | some v => (.ok v, s)
    | none => (.error (.text "no such argument"), s)
  | .retInt index :: _, s =>
    match Shape.decodeInt .i64 (args[index]?.getD .null) with
    | .ok n => (.ok (.int n.val), s)
    | .error e => (.error (.conversion e), s)
  | .step step :: rest, s =>
    match runStep x step s with
    | (.ok reply, s) => runActions x f args rest (noteInner reply s)
    | (.error fault, s) => runActions x f args rest (noteInner (.fault fault) s)
    | (.panic p, s) => (.panic p, s)
    | (.halt h, s) => (.halt h, s)
  | .attempt step :: rest, s =>
    match runStep x step s with
    | (.ok reply, s) => runActions x f args rest (noteInner reply s)
    | (.error fault, s) => (.error (.text fault.message), noteInner (.fault fault) s)
    | (.panic p, s) => (.panic p, s)
    | (.halt h, s) => (.halt h, s)

def behave (x : Runner) (b : Behaviour) (f : Function) (args : List Value) (s : Relay) :
    Exit Cause Value × Relay :=
  match b with
  | .returning v => (.ok v, s.record args)
  | .tagged tag => (.ok .null, s.record (tag :: args))
  | .opener gate => (.ok .null, { s with gates := gate :: s.gates })
  | .blocker gate =>
    if s.gates.contains gate then (.ok .null, s)
    else (.error (.text "gate was never opened"), s)
  | .body actions limit =>
    let spent := match limit with
      | some n => decide (n ≤ s.calls.count f.id)
      | none => false
    if spent then (.ok .null, s)
    else runActions x f args actions { s with calls := f.id :: s.calls }

/-- Calls run by a caller, as many jobs in a row as it nests deep, and no operation under way.
Beside it, other threads run the jobs of pooled engines. -/
def runnerOf (call : Caller) (depth : Nat) : Runner :=
  ⟨call, depth, fun _ _ _ => false, settle call depth⟩

/-- Calls of functions, nested up to a depth. -/
def callAt (program : Program) : Nat → Caller
  | 0 => fun _ _ s => (.halt .outOfFuel, s)
  | depth + 1 => fun f args s =>
    behave (runnerOf (callAt program depth) depth) (program.behaviour f) f args s

/-- The functions of a program, nested up to a depth. -/
def runner (program : Program) (depth : Nat) : Runner := runnerOf (callAt program depth) depth

/-- A depth that no script comes near. -/
def enoughDepth : Nat := 1000000

/-- The state before a script, with the adapter types of the catalogue. -/
def start : Relay := { Relay.initial with types := Interface.Catalogue.space }

/-- Runs a script and reports on each of its steps. -/
def run (program : Program) (steps : List Step) : Except Halt (List Report) :=
  (runSteps (runner program enoughDepth) steps start).1

/-- One call of a function, and the calls recorded since the last report, if it makes any. -/
def callOnce (program : Program) (f : Function) (args : List Value) :
    Exit Cause Value × List (List Value) :=
  let (exit, s) := callAt program enoughDepth f args start
  (exit, s.log.drop s.reported.log)

end Script
end EventRelay
