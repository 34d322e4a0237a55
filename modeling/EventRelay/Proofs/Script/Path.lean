import EventRelay.Proofs.Script.Course

/-!
# EventRelay.Proofs.Script.Path

Scripts run along paths, since they have courses.

* `enter_runs`, `inWorker_runs` and their like: code inside a worker runs along a path, if it does
  so outside.
* `runSteps_runs`, `runner_runs`: so do listed steps and calls of functions.
-/

namespace EventRelay

/-- Calls may end in any way. -/
abbrev AnyExit : Exits := fun _ _ _ => True

/-- A call that runs along a path may stand in a course as it is. -/
theorem Caller.Runs.courses {call : Caller} (hcall : call.Runs) :
    call.Courses True Relay.Runs AnyExit :=
  ⟨fun f args s => .called (hcall f args s), fun _ _ _ => trivial⟩

theorem Runner.Runs.courses {x : Runner} (hx : x.Runs) : x.Courses True Relay.Runs AnyExit :=
  ⟨hx.call.courses, fun keeps s => .called (hx.others keeps s)⟩

namespace Relay

theorem Course.runs_of_runs {exits : Exits} {s s' : Relay} {halted : Option Halt}
    (h : Course True Runs exits s halted s') : s.Runs halted s' :=
  h.runs fun _ _ _ hruns => hruns

section

variable {ε α : Type} {x : Runner} {call : Caller}

theorem runTarget_runs (hcall : call.Runs) (e : EngineId) (t : Target) (args : List Value)
    (s : Relay) : RunsTo s (runTarget call e t args s) :=
  (runTarget_course hcall.courses e t args s).runs_of_runs

/-- The thread is inside the worker while the body runs, and back where it was afterwards. -/
theorem within_runs {body : Relay → Exit ε α × Relay} (m : Marker) (s : Relay)
    (hbody : ∀ s', RunsTo s' (body s')) : RunsTo s (within m body s) :=
  have hcourse : CourseOf True (fun s halted s' => s.Runs halted s') AnyExit s (within m body s) :=
    within_course m s fun s' => .called (hbody s')
  hcourse.runs_of_runs

theorem enter_runs (hx : x.Runs) {body : Relay → Exit ε α × Relay} (m : Marker) (s : Relay)
    (hbody : ∀ s', RunsTo s' (body s')) : RunsTo s (enter x m body s) :=
  (enter_course hx.courses m s fun s' => .called (hbody s')).runs_of_runs

theorem invoke_runs (hx : x.Runs) (w : Worker) (t : Target) (args : List Value) (s : Relay) :
    RunsTo s (invoke x w t args s) :=
  (invoke_course hx.courses w t args s).runs_of_runs

theorem inWorker_runs (hx : x.Runs) {body : Relay → Exit ε α × Relay} (e : EngineId) (s : Relay)
    (hbody : ∀ s', RunsTo s' (body s')) : RunsTo s (inWorker x e body s).2 :=
  (inWorker_course hx.courses e s fun s' => .called (hbody s')).runs_of_runs

end

end Relay

namespace Script

open Relay

/-- Scripts start on a path. -/
theorem start_path : Path initial [] start := .single (.types Interface.Catalogue.space)

theorem runSteps_runs {x : Runner} (hx : x.Runs) (steps : List Step) (s : Relay) :
    s.Runs (haltOf (runSteps x steps s).1) (runSteps x steps s).2 :=
  (runSteps_course hx.courses steps (fun _ => trivial) s).runs_of_runs

theorem runner_runs (program : Program) (depth : Nat) : (runner program depth).Runs :=
  have hx : (runner program depth).Courses True NoCalls program.Exits :=
    runner_course (fun _ => trivial) depth
  ⟨fun f args s => (hx.call.course f args s).runs_alone,
    fun keeps s => (hx.others keeps s).runs_alone⟩

end Script
end EventRelay
