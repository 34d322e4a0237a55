import EventRelay.Host.Journal
import EventRelay.Listener.Registry
import EventRelay.Outcome

/-!
# EventRelay.Dispatch

Emission on any engine.

* `Host`: an engine and its workers, by what they do when they are asked.
* `Host.lease`: a worker that is given back on every way out.
* `Host.dispatch`: runs one listener, on its worker or on a leased one.
* `Host.emitTo`: runs listeners in order up to the first failure of one that is waited for.
* `Host.emit`: emission to the listeners that there are at its start.
-/

namespace EventRelay

/-- An engine and its workers, by what becomes of a state when they are asked for something. They
may refuse at any time. Whatever else happens meanwhile, in a target or on other threads, is part of
what they do. Workers are known by their numbers. -/
structure Host (σ : Type) where
  acquire : σ → Except Cause Worker × σ
  release : Worker → σ → σ
  /-- Has a worker run a target, and waits for it. -/
  invoke : Worker → Target → List Value → σ → Exit Cause Value × σ
  /-- Has a worker queue a target. -/
  submit : Worker → Target → List Value → σ → Except Cause Unit × σ
  warn : Warning → σ → σ

namespace Host

variable {σ ε α : Type}

/-- Runs `body` with a worker that is given back on every way out. Where none is to be had,
`refused` runs instead. -/
def lease (h : Host σ) (refused : Cause → σ → Exit ε α × σ) (body : Worker → σ → Exit ε α × σ)
    (s : σ) : Exit ε α × σ :=
  match h.acquire s with
  | (.error c, s') => refused c s'
  | (.ok w, s') =>
    match body w s' with
    | (.halt reason, s'') => (.halt reason, s'')
    | (exit, s'') => (exit, h.release w s'')

/-- Runs a listener on a worker. -/
def runOn (h : Host σ) (event : String) (l : Listener) (args : List Value) (w : Worker) (s : σ) :
    Exit InvocationError Unit × σ :=
  match l.mode with
  | .sync =>
    match h.invoke w l.target args s with
    | (.ok _, s') => (.ok (), s')
    | (.error c, s') => (.error (.listener event c), s')
    | (.panic p, s') => (.panic p, s')
    | (.halt reason, s') => (.halt reason, s')
  | .async =>
    match h.submit w l.target args s with
    | (.ok _, s') => (.ok (), s')
    | (.error c, s') => (.ok (), h.warn (.notSubmitted event w.name c) s')

/-- What becomes of a listener for which there is no worker. -/
def withoutWorker (h : Host σ) (event : String) (l : Listener) (c : Cause) (s : σ) :
    Exit InvocationError Unit × σ :=
  match l.mode with
  | .sync => (.error (.worker c), s)
  | .async => (.ok (), h.warn (.noWorker event c) s)

/-- Runs a listener, on the worker it is bound to or on one leased for the one call. -/
def dispatch (h : Host σ) (event : String) (l : Listener) (args : List Value) (s : σ) :
    Exit InvocationError Unit × σ :=
  match l.binding with
  | .bound w => h.runOn event l args w s
  | .lazy => h.lease (h.withoutWorker event l) (h.runOn event l args) s

/-- Runs listeners in order, up to the first that does not end well. -/
def emitTo (h : Host σ) (event : String) (args : List Value) (ls : List Listener) (s : σ) :
    Exit InvocationError Unit × σ :=
  match ls with
  | [] => (.ok (), s)
  | l :: rest =>
    match h.dispatch event l args s with
    | (.ok _, s') => h.emitTo event args rest s'
    | other => other

/-- Emits an event to the listeners that it has now. -/
def emit (h : Host σ) (listeners : σ → List Listener) (event : String) (args : List Value)
    (s : σ) : Exit InvocationError Unit × σ :=
  h.emitTo event args (listeners s) s

end Host

end EventRelay
