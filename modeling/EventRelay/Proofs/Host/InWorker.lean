import EventRelay.Proofs.Script.Law

/-!
# EventRelay.Proofs.Host.InWorker

The current worker of an inline engine.

* `Relay.Marked`: what any code does to it. It is the one before, or a worker that the code made.
* `Marked.law`: every change of the state does so, and with it all scripts.
* `Relay.Restored`: the current worker is the one before, and so is what functions are bound to.
* `in_worker_marks`: code inside a new worker leaves the current one as it was if it returns. If it
  unwinds, a worker that was made in the call stays current.
-/

namespace EventRelay
namespace Relay

/-- The current worker of an inline engine is as it was, or it was made meanwhile. -/
def Marked (e : EngineId) (s s' : Relay) : Prop :=
  e < s.engines.size → e < s'.engines.size ∧
    ∀ i, (s.engine e).kind = .inline i → ∃ i', (s'.engine e).kind = .inline i' ∧
      i.workers ≤ i'.workers ∧
      (i'.current = i.current ∨ ∃ k, i'.current = some k ∧ i.workers < k ∧ k ≤ i'.workers)

section

variable {e : EngineId} {s s' s'' : Relay}

namespace Marked

theorem of_kind (hsize : s.engines.size ≤ s'.engines.size)
    (h : ∀ i, (s.engine e).kind = .inline i → ∃ i', (s'.engine e).kind = .inline i' ∧
      i.workers ≤ i'.workers ∧ i'.current = i.current) : Marked e s s' := by
  refine fun he => ⟨Nat.lt_of_lt_of_le he hsize, fun i hi => ?_⟩
  obtain ⟨i', hi', hworkers, hcurrent⟩ := h i hi
  exact ⟨i', hi', hworkers, .inl hcurrent⟩

theorem refl (e : EngineId) (s : Relay) : Marked e s s :=
  of_kind (Nat.le_refl _) fun i hi => ⟨i, hi, Nat.le_refl _, rfl⟩

theorem trans (h : Marked e s s') (h' : Marked e s' s'') : Marked e s s'' := by
  intro he
  obtain ⟨he', hs⟩ := h he
  obtain ⟨he'', hs'⟩ := h' he'
  refine ⟨he'', fun i hi => ?_⟩
  obtain ⟨i', hi', hworkers, hcurrent⟩ := hs i hi
  obtain ⟨i'', hi'', hworkers', hcurrent'⟩ := hs' i' hi'
  refine ⟨i'', hi'', Nat.le_trans hworkers hworkers', ?_⟩
  rcases hcurrent' with hsame | ⟨k, hk, hnew, hmade⟩
  · rcases hcurrent with hsame' | ⟨k, hk, hnew, hmade⟩
    · exact .inl (hsame.trans hsame')
    · exact .inr ⟨k, hsame.trans hk, hnew, Nat.le_trans hmade hworkers'⟩
  · exact .inr ⟨k, hk, Nat.lt_of_le_of_lt hworkers hnew, hmade⟩

theorem of_plain (h : s.Plain s') : Marked e s s' := by
  refine of_kind h.size fun i hi => ?_
  have hkind := h.kinds e
  rw [hi] at hkind
  cases hk : (s'.engine e).kind with
  | pooled p =>
    rw [hk] at hkind
    cases hkind
  | inline i' =>
    rw [hk] at hkind
    cases hkind with
    | inline _ hcurrent _ _ hworkers => exact ⟨i', rfl, hworkers, hcurrent⟩

/-- An engine is replaced. If it is this one, it keeps its current worker. -/
theorem putEngine {e' : EngineId} {engine : Engine}
    (h : e < s.engines.size → e' = e → ∀ i, (s.engine e').kind = .inline i →
      ∃ i', engine.kind = .inline i' ∧ i.workers ≤ i'.workers ∧ i'.current = i.current) :
    Marked e s (s.putEngine e' engine) := by
  intro hsize
  refine of_kind ?_ (fun i hi => ?_) hsize
  · rw [size_putEngine]
    exact Nat.le_max_left _ _
  · rw [engine_putEngine]
    split
    · rename_i he
      exact h hsize he i (he ▸ hi)
    · exact ⟨i, hi, Nat.le_refl _, rfl⟩

theorem putInline {e' : EngineId} {i i' : InlineEngine} (hk : (s.engine e').kind = .inline i)
    (hworkers : i.workers ≤ i'.workers) (hcurrent : i'.current = i.current) :
    Marked e s (s.putKind e' (.inline i')) := by
  refine putEngine fun _ _ i₀ hi₀ => ⟨i', rfl, ?_⟩
  rw [hk] at hi₀
  cases hi₀
  exact ⟨hworkers, hcurrent⟩

theorem begun {e' : EngineId} {job : Job} (h : s.nextJob? e' = some (job, s')) :
    Marked e s s' := by
  obtain ⟨i, rest, hk, -, rfl⟩ := nextJob?_eq_some h
  exact putInline hk (Nat.le_refl _) rfl

theorem putExports (e' : EngineId) (m : Modules) : Marked e s (Script.putExports e' m s) := by
  unfold Script.putExports
  cases hk : (s.engine e').kind with
  | inline i => exact putInline hk (Nat.le_refl _) rfl
  | pooled p =>
    refine putEngine fun _ _ i hi => ?_
    rw [hk] at hi
    cases hi

end Marked

/-! ## Code inside a new worker -/

theorem Marked.opened {e' : EngineId} {i : InlineEngine} (hk : (s.engine e').kind = .inline i) :
    Marked e s (s.opened e') := by
  intro hsize
  refine ⟨Nat.lt_of_lt_of_le hsize (size_opened hk ▸ Nat.le_max_left _ _), fun i₀ hi₀ => ?_⟩
  rw [engine_opened hk]
  split
  · rename_i he
    subst he
    rw [hk] at hi₀
    cases hi₀
    exact ⟨_, rfl, Nat.le_succ _, .inr ⟨i.workers + 1, rfl, Nat.lt_succ_self _, Nat.le_refl _⟩⟩
  · exact ⟨i₀, hi₀, Nat.le_refl _, .inl rfl⟩

/-- The engine where the code ended, if it was inside a new worker. -/
theorem Marked.ended {i : InlineEngine} (hk : (s.engine e).kind = .inline i)
    (h : Marked e (s.opened e) s') :
    ∃ i' k, (s'.engine e).kind = .inline i' ∧ i'.current = some k ∧ i.workers < k ∧
      k ≤ i'.workers := by
  have hsize : e < (s.opened e).engines.size := by
    rw [size_opened hk]
    exact Nat.lt_of_lt_of_le (Nat.lt_succ_self e) (Nat.le_max_right _ _)
  have hopened := engine_opened hk e
  rw [if_pos rfl] at hopened
  obtain ⟨i', hi', hworkers, hcurrent⟩ := (h hsize).2 _ hopened
  dsimp only at hworkers hcurrent
  -- The current worker is that of the call, or one that was made by a call inside of it.
  rcases hcurrent with hsame | ⟨k, hk, hnew, hmade⟩
  · exact ⟨i', i.workers + 1, hi', hsame, Nat.lt_succ_self _, hworkers⟩
  · exact ⟨i', k, hi', hk, by omega, hmade⟩

/-- The current worker was restored. -/
theorem Marked.returned {e' : EngineId} {i : InlineEngine} (hk : (s.engine e').kind = .inline i)
    (h : Marked e (s.opened e') s') : Marked e s (s'.setCurrent e' i.current) := by
  by_cases he : e' = e
  · subst he
    obtain ⟨i', k, hi', hk', hnew, hmade⟩ := h.ended hk
    intro hsize
    refine ⟨?_, fun i₀ hi₀ => ?_⟩
    · have hend := (((Marked.opened hk).trans h) hsize).1
      exact Nat.lt_of_lt_of_le hend (size_setCurrent ..)
    · rw [hk] at hi₀
      cases hi₀
      rw [engine_setCurrent hi']
      exact ⟨_, rfl, by dsimp only; omega, .inl rfl⟩
  · refine ((Marked.opened hk).trans h).trans (of_kind (size_setCurrent ..) fun i₀ hi₀ => ?_)
    exact ⟨i₀, (congrArg Engine.kind (engine_setCurrent_of_ne he _)).trans hi₀, Nat.le_refl _, rfl⟩

theorem Marked.law (e : EngineId) : Law (fun _ => True) (Marked e) where
  refl := .refl e
  trans := .trans
  plain := .of_plain
  addEngine _ := .putEngine fun hsize he => absurd he (Nat.ne_of_gt hsize)
  accepted _ _ hk := .trans (.of_kind (Nat.le_refl _) fun i hi => ⟨i, hi, Nat.le_refl _, rfl⟩)
    (.putInline hk (Nat.le_refl _) rfl)
  begun := .begun
  returned := .returned
  unwound hk h := (Marked.opened hk).trans h
  edited e' _ _ := .putExports e' _

/-! ## The way out -/

/-- The current worker is as it was, and with it what a listener would be bound to. -/
structure Restored (e : EngineId) (s s' : Relay) : Prop where
  worker : s'.currentWorker e = s.currentWorker e
  binding : ∀ t, s'.bindingOf e t = s.bindingOf e t

theorem bindingOf_congr (h : s'.currentWorker e = s.currentWorker e) (t : Target) :
    s'.bindingOf e t = s.bindingOf e t := by
  cases t with
  | function f => simp only [bindingOf, h]
  | «export» module name => rfl

theorem bindingOf_function {w : Worker} (h : s.currentWorker e = some w) (f : Function) :
    s.bindingOf e (.function f) = .bound w := by
  simp only [bindingOf, h]

theorem currentWorker_inline {i : InlineEngine} (hk : (s.engine e).kind = .inline i) :
    s.currentWorker e = i.current.map fun n => ⟨e, n, e⟩ := by
  simp only [currentWorker, hk]

theorem restored_setCurrent {i i' : InlineEngine} (hk : (s.engine e).kind = .inline i)
    (hk' : (s'.engine e).kind = .inline i') : Restored e s (s'.setCurrent e i.current) := by
  have hworker : (s'.setCurrent e i.current).currentWorker e = s.currentWorker e := by
    rw [currentWorker_inline hk, currentWorker_inline (engine_setCurrent hk' _)]
  exact ⟨hworker, bindingOf_congr hworker⟩

variable {ε α : Type} {x : Runner} {body : Relay → Exit ε α × Relay}

theorem inWorker_inline {i : InlineEngine} (hk : (s.engine e).kind = .inline i) :
    inWorker x e body s = match body (s.opened e) with
      | (.ok a, s') => (i.workers + 1, .ok a, s'.setCurrent e i.current)
      | (.error c, s') => (i.workers + 1, .error c, s'.setCurrent e i.current)
      | (exit, s') => (i.workers + 1, exit, s') := by
  have hmade : (s.newWorker e).1 = i.workers + 1 := by simp only [newWorker, hk]
  have hprevious : s.inlineCurrent e = i.current := by simp only [inlineCurrent, hk]
  unfold inWorker
  rw [hk]
  unfold withWorker opened
  dsimp only
  rewrite [hprevious, hmade]
  generalize body _ = out
  obtain ⟨exit, s'⟩ := out
  cases exit <;> rfl

/-- Code inside a new worker of an inline engine leaves the current one exactly as it was if it
returns or fails, whatever it did meanwhile. If it unwinds, a worker that was made in the call stays
current, and functions are bound to it afterwards. All scripts, and functions that run them, are
such code. -/
theorem in_worker_marks (e : EngineId) :
    (∀ (ε α : Type) (x : Runner) (body : Relay → Exit ε α × Relay) (s : Relay) i,
      (s.engine e).kind = .inline i → Marked e (s.opened e) (body (s.opened e)).2 →
      let out := inWorker x e body s
      out.2.1 = (body (s.opened e)).1 ∧
      ((∃ a, out.2.1 = .ok a) ∨ (∃ c, out.2.1 = .error c) → Restored e s out.2.2) ∧
      (∀ p, out.2.1 = .panic p → ∃ k, i.workers < k ∧
        out.2.2.currentWorker e = some ⟨e, k, e⟩ ∧
        ∀ f, out.2.2.bindingOf e (.function f) = .bound ⟨e, k, e⟩)) ∧
    (∀ x : Runner, x.Obeys (Marked e) →
      ∀ steps s, Marked e s (Script.runSteps x steps s).2) ∧
    ∀ program depth, (Script.runner program depth).Obeys (Marked e) := by
  refine ⟨fun ε α x body s i hk hbody => ?_, fun x hx steps s => ?_, fun program depth => ?_⟩
  · obtain ⟨i', k, hi', hcurrent, hnew, -⟩ := hbody.ended hk
    rw [inWorker_inline hk]
    generalize body (s.opened e) = out at hi'
    obtain ⟨exit, s'⟩ := out
    have hworker : s'.currentWorker e = some ⟨e, k, e⟩ := by
      rw [currentWorker_inline hi', hcurrent]
      rfl
    cases exit with
    | ok a => exact ⟨rfl, fun _ => restored_setCurrent hk hi', nofun⟩
    | error c => exact ⟨rfl, fun _ => restored_setCurrent hk hi', nofun⟩
    | panic p =>
      -- Nothing is restored on this way out.
      exact ⟨rfl, by simp, fun _ _ => ⟨k, hnew, hworker, bindingOf_function hworker⟩⟩
    | halt h => exact ⟨rfl, by simp, nofun⟩
  · exact Script.runSteps_obeys (Marked.law e) hx steps (fun _ _ => trivial) s
  · exact Script.runner_obeys (Marked.law e) (fun _ _ => trivial) depth

end

/-- An inline engine, and an adapter that uses it. -/
def idleInline : List Script.Step :=
  [.startEngine "e" (.inline []), .newAdapter "a" "e" ⟨.interface, "L", []⟩]

/-- A function that panics. -/
def wild : Script.Program := [("wild", .body [.panic "no"] none)]

/-- Inside one more worker listeners are registered, and an emission to them panics. -/
def nestedWorkers : List Script.Step :=
  [.inWorker "e" [.listen "a" "t" .sync (.function (Function.anonymous "log")) none,
      .listen "a" "t" .sync (.function (Function.anonymous "wild")) none],
    .emit "a" "t" []]

/-- The panic of a listed step ends that step alone, so the code around it returns. -/
theorem in_worker_marks_nested :
    let x := Script.runner wild 2
    let returning (s : Relay) : Exit Fault (List Report) × Relay :=
      match Script.runSteps x nestedWorkers s with
      | (.ok reports, s) => (.ok reports, s)
      | (.error h, s) => (.halt h, s)
    let unwinding (s : Relay) : Exit Fault Unit × Relay := (.panic (.text "inside"), s)
    ∃ s i, s = (Script.runSteps x idleInline Script.start).2 ∧ (s.engine 0).kind = .inline i ∧
      (∃ reports, (inWorker x 0 returning s).2.1 = .ok reports) ∧
      Restored 0 s (inWorker x 0 returning s).2.2 ∧
      ∃ k, i.workers < k ∧ (inWorker x 0 unwinding s).2.2.currentWorker 0 = some ⟨0, k, 0⟩ := by
  intro x returning unwinding
  obtain ⟨hinside, hsteps, hrunner⟩ := in_worker_marks 0
  obtain ⟨s, hs⟩ : ∃ s, s = (Script.runSteps x idleInline Script.start).2 := ⟨_, rfl⟩
  obtain ⟨hnumber, hreturned⟩ : (s.newWorker 0).1 = 1 ∧
      (Script.runSteps x nestedWorkers (s.opened 0)).1.isOk = true := by
    rw [hs]
    decide +kernel
  cases hk : (s.engine 0).kind with
  | pooled p =>
    simp only [newWorker, hk] at hnumber
    exact absurd hnumber (by decide)
  | inline i =>
    have hran : Marked 0 (s.opened 0) (returning (s.opened 0)).2 :=
      Script.nested_obeys id (hsteps x (hrunner wild 2) nestedWorkers (s.opened 0))
    obtain ⟨hexit, hrestored, -⟩ := hinside Fault (List Report) x returning s i hk hran
    obtain ⟨-, -, hleft⟩ := hinside Fault Unit x unwinding s i hk (.refl 0 _)
    have hok : ∃ reports, (returning (s.opened 0)).1 = .ok reports := by
      dsimp only [returning]
      generalize Script.runSteps x nestedWorkers (s.opened 0) = out at hreturned
      obtain ⟨h | reports, s'⟩ := out
      · cases hreturned
      · exact ⟨_, rfl⟩
    rw [← hexit] at hok
    obtain ⟨k, hnew, hworker, -⟩ := hleft (.text "inside") (by rw [inWorker_inline hk])
    exact ⟨s, i, hs, hk, hok, hrestored (.inl hok), k, hnew, hworker⟩

/-- A panic leaves its worker current, so a function is bound to it that runs in no worker. Here a
listener panics that was registered before, and the emission inside the worker passes it on. -/
theorem unwinding_leaves_mark :
    let x := Script.runner wild 2
    let panicking := Script.Step.listen "a" "t" .sync (.function (Function.anonymous "wild")) none
    let s := (Script.runSteps x (idleInline ++ [panicking]) Script.start).2
    let out := inWorker x 0 (emit x 0 "t" []) s
    out.2.1 = .panic (.text "no") ∧
      s.currentWorker 0 = none ∧ out.2.2.currentWorker 0 = some ⟨0, 1, 0⟩ ∧
      s.bindingOf 0 (.function (Function.anonymous "log")) = .lazy ∧
      out.2.2.bindingOf 0 (.function (Function.anonymous "log")) = .bound ⟨0, 1, 0⟩ ∧
      ¬ Restored 0 s out.2.2 := by
  intro x panicking s out
  obtain ⟨hpanic, hbefore, hafter⟩ : out.2.1 = .panic (.text "no") ∧ s.currentWorker 0 = none ∧
      out.2.2.currentWorker 0 = some ⟨0, 1, 0⟩ := by
    decide +kernel
  refine ⟨hpanic, hbefore, hafter, ?_, bindingOf_function hafter _, fun h => ?_⟩
  · simp only [bindingOf, hbefore]
  · have hworker := h.worker
    rw [hbefore, hafter] at hworker
    cases hworker

end Relay
end EventRelay
