import EventRelay.Proofs.Host.Exclusive

/-!
# EventRelay.Proofs.Host.Reentry

When the thread waits for a worker that it holds itself.

* `within_of_free`: entering a worker that is not on the stack.
* `waits_only_below_top`: no run waits for a worker of its own but for one that was entered before
  the last one.
* `not_waits_take`: a worker that is acquired is not waited for while the workers of its engine
  that the thread is inside of are leased.
* `bound_below_waits`: a listener that is bound to a worker further down is waited for forever.
-/

namespace EventRelay
namespace Relay

section

variable {ε α : Type} {m : Marker} {body : Relay → Exit ε α × Relay} {s : Relay}

/-- The worker is on top of the stack while the body runs, and the stack is as before once it was
left. -/
theorem within_of_free (htop : s.stack.head?.map Marker.number ≠ some m.number)
    (hfree : ¬ s.Waits m.home m.number) :
    (within m body s).1 = (body { s with stack := m :: s.stack }).1 ∧
      ((within m body s).1.Leaves → (within m body s).2.stack = s.stack) := by
  rw [within_of_new htop hfree]
  generalize body { s with stack := m :: s.stack } = out
  obtain ⟨exit, s'⟩ := out
  cases exit with
  | halt reason => exact ⟨rfl, fun hl => absurd hl (Exit.not_leaves_halt reason)⟩
  | ok | error | panic => exact ⟨rfl, fun _ => rfl⟩

/-- No worker that the pool hands out is on the stack, if those on it are leased. -/
theorem not_waits_take {t : List PoolMove} {e : EngineId} {p : PooledEngine}
    (ht : Path Relay.initial t s) (hp : (s.engine e).kind = .pooled p)
    (hleased : ∀ held ∈ s.stack, held.home = e → held.number ∈ p.pool.leased) :
    ¬ (s.take e).2.Waits (s.take e).1.home (s.take e).1.number := by
  rw [take_pooled hp]
  rintro ⟨-, held, hmem, hhome, hnumber⟩
  have hin : held.number ∈ p.pool.leased := hleased held hmem hhome
  rw [show held.number = p.pool.acquire.1 from hnumber] at hin
  exact (ht.pool_run hp).exclusive.grants_free hin

end

/-- Entering a worker waits forever exactly if the thread holds the worker and a worker of another
number was entered last; then nothing else happens. A worker of the number that was entered last is
not entered again. Every run that waits for a worker of its own has come to such a state, or a job
that it waits for has. -/
theorem waits_only_below_top (m : Marker) (s : Relay) :
    (∀ (ε α : Type) (body : Relay → Exit ε α × Relay), s.Waits m.home m.number →
      within m body s = (.halt (.selfLock m.home m.number), s)) ∧
    (∀ (ε α : Type) (body : Relay → Exit ε α × Relay),
      s.stack.head?.map Marker.number = some m.number → within m body s = body s) ∧
    (∀ (ε α : Type) (body : Relay → Exit ε α × Relay),
      s.stack.head?.map Marker.number ≠ some m.number → ¬ s.Waits m.home m.number →
      (within m body s).1 = (body { s with stack := m :: s.stack }).1 ∧
        ((within m body s).1.Leaves → (within m body s).2.stack = s.stack)) ∧
    (∀ t e p, Path Relay.initial t s → (s.engine e).kind = .pooled p →
      (∀ held ∈ s.stack, held.home = e → held.number ∈ p.pool.leased) →
      ¬ (s.take e).2.Waits (s.take e).1.home (s.take e).1.number) ∧
    ∀ program depth steps home number,
      let out := Script.runSteps (Script.runner program depth) steps s
      (out.1 = .error (.selfLock home number) →
        out.2.Waits home number ∨ out.2.stalled = some (.selfLock home number)) ∧
      (s.stalled = none → out.2.stalled = some (.selfLock home number) →
        ∃ t s₁, Path s t s₁ ∧ s₁.Waits home number) := by
  refine ⟨?_, ?_, ?_, ?_, ?_⟩
  · intro ε α body hwaits
    exact within_of_waits hwaits
  · intro ε α body htop
    exact within_of_top htop
  · intro ε α body htop hfree
    exact within_of_free htop hfree
  · intro t e p ht hp hleased
    exact not_waits_take ht hp hleased
  · intro program depth steps home number out
    have hruns := Script.runSteps_runs (Script.runner_runs program depth) steps s
    refine ⟨fun hout => hruns.waits home number ?_, fun hnone hstalled => ?_⟩
    · rw [show (Script.runSteps _ steps s).1 = _ from hout]
      rfl
    · refine (hruns.stalls home number hstalled).resolve_left ?_
      rw [hnone]
      exact nofun

/-- A listener is registered inside a worker and so bound to it; inside a second worker, its event
is emitted. -/
def boundBelow : List Script.Step :=
  [.startEngine "e" (.pooled ⟨.owning, none, some 2, none, none⟩),
    .newAdapter "a" "e" ⟨.interface, "L", []⟩,
    .inWorker "e" [.listen "a" "t" .sync (.function (Function.anonymous "log")) none,
      .inWorker "e" [.emit "a" "t" []]]]

theorem waits_only_below_top_nested :
    let run := Script.runSteps (Script.runner [] 2) boundBelow Script.start
    let body := fun s : Relay => ((.ok (), s) : Exit Fault Unit × Relay)
    ∃ s, s = run.2 ∧ s.Waits 0 1 ∧ within ⟨0, 1, true⟩ body s = (.halt (.selfLock 0 1), s) ∧
      within ⟨0, 2, true⟩ body s = body s ∧ (within ⟨0, 3, true⟩ body s).1 = .ok () ∧
      ¬ (s.take 0).2.Waits 0 3 := by
  intro run body
  obtain ⟨out, hout⟩ : ∃ out, out = run := ⟨_, rfl⟩
  have hlast := (waits_only_below_top ⟨0, 1, true⟩ Script.start).2.2.2.2 [] 2 boundBelow 0 1
  obtain ⟨t, ht⟩ :=
    (Script.runSteps_runs (Script.runner_runs [] 2) boundBelow Script.start).path
  rw [show Script.runSteps _ boundBelow Script.start = out from hout.symm] at hlast ht
  obtain ⟨hhalt, hstalled, hstack, hpool⟩ : Script.haltOf out.1 = some (.selfLock 0 1) ∧
      out.2.stalled = none ∧ out.2.stack = [⟨0, 2, true⟩, ⟨0, 1, true⟩] ∧
      out.2.poolOf 0 = some (2, ⟨2, [], [2, 1], 2, 2, 0⟩) := by
    rw [hout]
    decide +kernel
  rw [← hout]
  obtain ⟨exit, s⟩ := out
  have hrun : exit = .error (.selfLock 0 1) := by
    cases exit with
    | ok reports => cases hhalt
    | error reason =>
      cases hhalt
      rfl
  have hwaits : s.Waits 0 1 := by
    refine (hlast.1 hrun).resolve_right ?_
    rw [hstalled]
    exact nofun
  have hfree : ¬ s.Waits 0 3 := by
    rintro ⟨-, held, hmem, -, hnumber⟩
    rw [hstack] at hmem
    simp only [List.mem_cons, List.not_mem_nil, or_false] at hmem
    rcases hmem with rfl | rfl <;> cases hnumber
  obtain ⟨p, hp, -, heq⟩ := pooled_of_poolOf hpool
  have hleased : ∀ held ∈ s.stack, held.home = 0 → held.number ∈ p.pool.leased := by
    rw [hstack, heq]
    decide
  have htake := (waits_only_below_top ⟨0, 3, true⟩ s).2.2.2.1 _ 0 p (Script.start_path.trans ht)
    hp hleased
  rw [take_pooled hp, heq] at htake
  refine ⟨s, rfl, hwaits, (waits_only_below_top ⟨0, 1, true⟩ s).1 _ _ body hwaits,
    (waits_only_below_top ⟨0, 2, true⟩ s).2.1 _ _ body (by rw [hstack]; rfl),
    ((waits_only_below_top ⟨0, 3, true⟩ s).2.2.1 _ _ body ?_ hfree).1, ?_⟩
  · rw [hstack]
    decide
  · rw [take_pooled hp, heq]
    exact htake

theorem bound_below_waits :
    let out := Script.runSteps (Script.runner [] 2) boundBelow Script.start
    Script.haltOf out.1 = some (.selfLock 0 1) ∧ out.2.stack = [⟨0, 2, true⟩, ⟨0, 1, true⟩] := by
  decide +kernel

end Relay
end EventRelay
