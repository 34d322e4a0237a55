import EventRelay.Proofs.Host.Inline
import EventRelay.Proofs.Script.Law

/-!
# EventRelay.Proofs.Script.Inline

Scripts and the queue of an inline engine.

* `runSteps_exact`, `runner_exact`: scripts and functions keep the queue exact, since that is a law.
* `inline_queue_exact`: what began is what was accepted, in that order, up to what still waits.
-/

namespace EventRelay

namespace Script

open Relay

theorem runSteps_exact {x : Runner} {e : EngineId} (hx : x.Exact e) (steps : List Step)
    (s : Relay) : Exact e s (runSteps x steps s).2 :=
  runSteps_obeys (Exact.law e) hx steps (fun _ _ => trivial) s

theorem runner_exact (e : EngineId) (program : Program) (depth : Nat) :
    (runner program depth).Exact e :=
  runner_obeys (Exact.law e) (fun _ _ => trivial) depth

/-! ## Exact queues -/

/-- Without a refusal, a worker of an inline engine takes every job, and puts it last. -/
theorem submit_inline {w : Worker} {t : Target} {args : List Value} {s : Relay} {i : InlineEngine}
    (x : Runner) (hk : (s.engine w.home).kind = .inline i)
    (hvia : (s.engine w.via).refuseSubmit s.trace = none) :
    ∃ s', Relay.submit w t args s = (.ok (), s') ∧
      handOver x w t args s = (.ok (), (x.keepingWorker w).meanwhile s') ∧
      Turnover w.home s [] [⟨w.home, w.number, t, args⟩] s' := by
  refine ⟨_, ?_, ?_, .accepted hk⟩
  · simp only [Relay.submit, hvia, hk]
  · simp only [handOver, Relay.submit, hvia, hk]

/-- What a drain that comes back leaves: all that waited has begun, and then what came meanwhile. -/
theorem runPending_empties {x : Runner} {e : EngineId} (hx : x.Exact e) {bound n : Nat}
    {s s' : Relay} {i i' : InlineEngine} (h : runPending x e bound 0 s = (.ok n, s'))
    (hk : (s.engine e).kind = .inline i) (hk' : (s'.engine e).kind = .inline i') :
    i'.queue = [] ∧ ∃ taken, i'.begun = i.begun ++ i.queue ++ taken := by
  obtain ⟨jobs, last, left, s₁, started, taken, -, -, hend, hran, -⟩ :=
    runPending_turnover hx bound s
  rw [h] at hend hran
  cases hend with
  | emptied hn =>
    have hempty : i'.queue = [] := (nextJob?_eq_none hk').mp hn
    obtain ⟨i₀, hi₀, hbegun, hqueue, -⟩ := hran i' hk'
    obtain rfl : i₀ = i := by
      rw [hk] at hi₀
      cases hi₀
      rfl
    rw [hempty, List.append_nil] at hqueue
    exact ⟨hempty, taken, by rw [hbegun, ← hqueue, List.append_assoc]⟩

/-- No script loses, doubles or moves a job of an inline engine: what began and then what waits is
what its workers accepted, in that order. This holds for any functions that leave the queue exact
themselves, also for those that stop a run halfway; and functions that run steps do. A submission
puts its job last. A drain, nested or not, comes back only when the queue is empty, with the number
of the jobs that it began itself; a job that fails is only one of them, and a job that panics leaves
behind what had not begun. -/
theorem inline_queue_exact (e : EngineId) :
    (∀ program depth, (runner program depth).Exact e) ∧
    ∀ x : Runner, x.Exact e →
      (∀ steps i, ((runSteps x steps start).2.engine e).kind = .inline i →
        i.begun ++ i.queue = acceptedBy e (runSteps x steps start).2.trace) ∧
      (∀ steps s, Exact e s (runSteps x steps s).2) ∧
      (∀ (w : Worker) t args (s : Relay) i, w.home = e → (s.engine e).kind = .inline i →
        (s.engine w.via).refuseSubmit s.trace = none →
        ∃ s', Relay.submit w t args s = (.ok (), s') ∧
          handOver x w t args s = (.ok (), (x.keepingWorker w).meanwhile s') ∧
          Turnover e s [] [⟨e, w.number, t, args⟩] s') ∧
      (∀ s, ∃ jobs last left s₁ started taken,
        Rounds x e s jobs s₁ ∧ jobs.length + left = x.jobs ∧
        RoundsEnd x e jobs.length left s₁ last (runPending x e x.jobs 0 s) ∧
        Turnover e s started taken (runPending x e x.jobs 0 s).2 ∧
        (jobs ++ last).Sublist started) ∧
      ∀ s s' n i i', runPending x e x.jobs 0 s = (.ok n, s') →
        (s.engine e).kind = .inline i → (s'.engine e).kind = .inline i' →
        i'.queue = [] ∧ ∃ taken, i'.begun = i.begun ++ i.queue ++ taken := by
  refine ⟨fun program depth => runner_exact e program depth, fun x hx => ?_⟩
  refine ⟨?_, ?_, ?_, ?_, ?_⟩
  · intro steps i hi
    obtain ⟨started, taken, hran⟩ := runSteps_exact hx steps start
    obtain ⟨i₀, hi₀, hbegun, hqueue, htrace⟩ := hran i hi
    -- Before a script, every engine is an inline one without jobs, and the trace is empty.
    cases hi₀
    rw [hbegun, htrace, List.append_assoc, ← hqueue]
    rfl
  · intro steps s
    exact runSteps_exact hx steps s
  · intro w t args s i hw hk hvia
    subst hw
    exact submit_inline x hk hvia
  · intro s
    exact runPending_turnover hx x.jobs s
  · intro s s' n i i' h hk hk'
    exact runPending_empties hx h hk hk'

/-- Two workers of an inline engine are given a job that submits and drains, one that fails, one
that has nothing to call, one that panics, and one that returns. -/
def fiveJobs : List Step :=
  [.startEngine "e" (.inline []), .acquire "e" "a", .acquire "e" "b",
    .submit "a" (.function (Function.anonymous "nested")) [],
    .submit "b" (.function (Function.anonymous "bad")) [], .submit "a" (.export "m" "f") [],
    .submit "b" (.function (Function.anonymous "wild")) [],
    .submit "a" (.function (Function.anonymous "log")) []]

def nestedDrain : Program :=
  [("nested", .body [.step (.submit "b" (.function (Function.anonymous "log")) []),
    .step (.runPending "e")] none), ("bad", .body [.fail "no"] none),
    ("wild", .body [.panic "no"] none)]

/-- The workers of the jobs of an inline engine that began and that wait. -/
def jobsOf (e : EngineId) (s : Relay) : Option (List Nat × List Nat) :=
  match (s.engine e).kind with
  | .inline i => some (i.begun.map Job.number, i.queue.map Job.number)
  | .pooled _ => none

/-- What a drain that came back returned. -/
def drained? : Exit Cause Nat → Option Nat
  | .ok n => some n
  | _ => none

theorem inline_queue_exact_unwinding :
    ∃ s s' i i', s = (runSteps (runner nestedDrain 9) (fiveJobs ++ [.runPending "e"]) start).2 ∧
      (s.engine 0).kind = .inline i ∧ i.begun ++ i.queue = acceptedBy 0 s.trace ∧
      i.begun.map Job.number = [1, 2, 1, 2] ∧ i.queue.map Job.number = [1, 2] ∧
      runPending (runner nestedDrain 9) 0 9 0 s = (.ok 2, s') ∧
      (s'.engine 0).kind = .inline i' ∧ i'.queue = [] ∧
      ∃ taken, i'.begun = i.begun ++ i.queue ++ taken := by
  obtain ⟨hrunner, hqueue⟩ := inline_queue_exact 0
  obtain ⟨hexact, -, -, -, hempties⟩ := hqueue _ (hrunner nestedDrain 9)
  have hexact := hexact (fiveJobs ++ [.runPending "e"])
  obtain ⟨s, hs⟩ : ∃ s, s = (runSteps (runner nestedDrain 9) (fiveJobs ++ [.runPending "e"])
    start).2 := ⟨_, rfl⟩
  have hjobs : jobsOf 0 s = some ([1, 2, 1, 2], [1, 2]) := by
    rw [hs]
    decide +kernel
  have hran : drained? (runPending (runner nestedDrain 9) 0 9 0 s).1 = some 2 ∧
      (jobsOf 0 (runPending (runner nestedDrain 9) 0 9 0 s).2).isSome := by
    rw [hs]
    decide +kernel
  rw [← hs] at hexact
  cases hk : (s.engine 0).kind with
  | pooled p =>
    simp only [jobsOf, hk] at hjobs
    cases hjobs
  | inline i =>
    simp only [jobsOf, hk, Option.some.injEq, Prod.mk.injEq] at hjobs
    cases hrun : runPending (runner nestedDrain 9) 0 9 0 s with
    | mk exit s' =>
      rw [hrun] at hran
      obtain ⟨hcount, hinline⟩ := hran
      cases exit with
      | error | panic | halt => cases hcount
      | ok n =>
        cases hcount
        cases hk' : (s'.engine 0).kind with
        | pooled p =>
          simp only [jobsOf, hk'] at hinline
          cases hinline
        | inline i' =>
          obtain ⟨hempty, hbegun⟩ := hempties s s' 2 i i' hrun hk hk'
          exact ⟨s, s', i, i', hs, hk, hexact i hk, hjobs.1, hjobs.2, hrun, hk', hempty, hbegun⟩

end Script
end EventRelay
