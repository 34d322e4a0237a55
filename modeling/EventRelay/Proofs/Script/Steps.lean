import EventRelay.Proofs.Trace
import EventRelay.Script.Run

/-!
# EventRelay.Proofs.Script.Steps

Listed steps, one after the other.

* `Script.resultOf`: what is reported of a step that was left.
* `Script.runSteps_of_result` and its like: how listed steps go on after the first one.
* `Script.Proceeds`: these ways together, for proofs about all listed steps.
-/

namespace EventRelay
namespace Script

/-- What is reported of a step that was left. -/
def resultOf : Exit Fault Reply → Option (Except Panic Reply)
  | .ok reply => some (.ok reply)
  | .error fault => some (.ok (.fault fault))
  | .panic p => some (.error p)
  | .halt _ => none

/-- Listed steps with the report on one before them. -/
def following (first : Report) (out : Except Halt (List Report) × Relay) :
    Except Halt (List Report) × Relay :=
  (out.1.map (first :: ·), out.2)

theorem reports_of_following {first : Report} {out : Except Halt (List Report) × Relay}
    {reports : List Report} (h : (following first out).1 = .ok reports) :
    ∃ later, out.1 = .ok later := by
  obtain ⟨_ | later, s⟩ := out
  · cases h
  · exact ⟨later, rfl⟩

variable {x : Runner} {step : Step} {rest : List Step} {s s' : Relay} {exit : Exit Fault Reply}

theorem leaves_of_resultOf {result : Except Panic Reply} (h : resultOf exit = some result) :
    exit.Leaves := by
  rintro reason rfl
  cases h

theorem halt_of_resultOf (h : resultOf exit = none) : ∃ reason, exit = .halt reason := by
  cases exit with
  | halt reason => exact ⟨reason, rfl⟩
  | ok | error | panic => cases h

theorem runSteps_of_halt {reason : Halt} (h : runStep x step s = (.halt reason, s')) :
    runSteps x (step :: rest) s = (.error reason, s') := by
  simp only [runSteps, h]

theorem runSteps_of_endless {result : Except Panic Reply} {reason : Halt}
    (h : runStep x step s = (exit, s')) (hresult : resultOf exit = some result)
    (hend : s'.endless? = some reason) :
    runSteps x (step :: rest) s = (.error reason, s') := by
  cases exit <;> cases hresult <;> simp only [runSteps, h, hend]

/-- The report on the first step comes next, and then the others run. -/
theorem runSteps_of_result {result : Except Panic Reply} (h : runStep x step s = (exit, s'))
    (hresult : resultOf exit = some result) (hend : s'.endless? = none) :
    runSteps x (step :: rest) s =
      following (report result s').1 (runSteps x rest (report result s').2) := by
  rcases hrest : runSteps x rest (report result s').2 with ⟨reports, s''⟩
  cases exit <;> cases hresult <;> simp only [runSteps, h, hend, hrest] <;> cases reports <;> rfl

/-- How listed steps go on after the first one. -/
inductive Proceeds (x : Runner) (step : Step) (rest : List Step) (s : Relay) :
    Except Halt (List Report) × Relay → Prop where
  | halted {reason : Halt} {s' : Relay} :
      runStep x step s = (.halt reason, s') → Proceeds x step rest s (.error reason, s')
  | endless {exit : Exit Fault Reply} {reason : Halt} {s' : Relay} :
      runStep x step s = (exit, s') → exit.Leaves → s'.endless? = some reason →
      Proceeds x step rest s (.error reason, s')
  | reported {exit : Exit Fault Reply} {s' : Relay} (result : Except Panic Reply) :
      runStep x step s = (exit, s') → exit.Leaves → s'.endless? = none →
      Proceeds x step rest s
        (following (report result s').1 (runSteps x rest (report result s').2))

theorem runSteps_cons (x : Runner) (step : Step) (rest : List Step) (s : Relay) :
    Proceeds x step rest s (runSteps x (step :: rest) s) := by
  rcases hran : runStep x step s with ⟨exit, s'⟩
  cases hresult : resultOf exit with
  | none =>
    obtain ⟨reason, rfl⟩ := halt_of_resultOf hresult
    exact runSteps_of_halt hran ▸ .halted hran
  | some result =>
    have hleft := leaves_of_resultOf hresult
    cases hend : s'.endless? with
    | some reason => exact runSteps_of_endless hran hresult hend ▸ .endless hran hleft hend
    | none => exact runSteps_of_result hran hresult hend ▸ .reported result hran hleft hend

end Script
end EventRelay
