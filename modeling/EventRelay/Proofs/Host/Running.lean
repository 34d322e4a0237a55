import EventRelay.Proofs.Trace

/-!
# EventRelay.Proofs.Host.Running

What engines and workers add to the trace, whether jobs are queued, run or dropped meanwhile, and
where panics come from.

* `runTarget_extends`, `settle_adds`, `enter_extends` and their like: running code inside a worker
  adds nothing but what the calls of functions and other threads add.
* `invoke_extends`, `handOver_adds`: the same once the request itself is in the trace.
* `invoke_balances`, `handOver_balances`, `lease_balances`: with the request, and with the
  acquisition and the release of a lease, these are brackets if the calls add brackets.
* `invoke_panic`: what unwinds through an invocation was raised by a call.
-/

namespace EventRelay

/-- A function raised this when it was called. -/
def Runner.Raises (x : Runner) (p : Panic) : Prop := ∃ f args s, (x.call f args s).1 = .panic p

namespace Relay

section

variable {ε α : Type} {P : List Interaction → Prop} [Composable P] {x : Runner}

/-! ## Code inside a worker -/

theorem runTarget_extends {call : Caller} (hcall : call.Extends P) (e : EngineId) (t : Target)
    (args : List Value) (s : Relay) : Extends P s.trace (runTarget call e t args s) := by
  unfold runTarget
  split
  · exact hcall _ args s
  · exact .of_trace_eq rfl

omit [Composable P] in
theorem within_extends {body : Relay → Exit ε α × Relay} (m : Marker) (s : Relay)
    (hbody : ∀ s', s'.trace = s.trace → Extends P s.trace (body s')) :
    Extends P s.trace (within m body s) := by
  unfold within
  split
  · exact hbody s rfl
  split
  · exact .of_halt _ s
  · have hb := hbody { s with stack := m :: s.stack } rfl
    generalize body { s with stack := m :: s.stack } = out at hb
    obtain ⟨exit, s'⟩ := out
    cases exit with
    | halt h => exact .of_halt h s'
    | ok | error | panic => exact fun _ => hb (by simp)

/-! ## Jobs of pooled engines -/

theorem runJob_adds {call : Caller} (hcall : call.Extends P) (keeps : Keeps) (job : Job)
    (s : Relay) (h : (runJob call keeps job s).1 = none) :
    Adds P s.trace (runJob call keeps job s).2.trace := by
  unfold runJob at h ⊢
  dsimp only at h ⊢
  generalize hm : (⟨job.home, job.number, _⟩ : Marker) = m at h ⊢
  have hb : Extends P s.trace (within m (runTarget call job.home job.target job.args) s) :=
    within_extends m s fun s' hs' => hs' ▸ runTarget_extends hcall _ _ _ s'
  generalize within m (runTarget call job.home job.target job.args) s = out at h hb ⊢
  obtain ⟨exit, s'⟩ := out
  cases exit with
  | halt h' => cases h
  | ok | error | panic => simpa using hb (by simp)

/-- By induction on the jobs that may still run. -/
theorem drain_adds {call : Caller} (hcall : call.Extends P) (keeps : Keeps) (bound : Nat)
    (s : Relay) : Adds P s.trace (drain call keeps bound s).trace := by
  induction bound generalizing s with
  | zero =>
    unfold drain
    split <;> exact .refl _
  | succ bound ih =>
    unfold drain
    cases hq : s.queue with
    | nil => exact .refl _
    | cons job rest =>
      have hj := runJob_adds hcall keeps job { s with queue := rest }
      dsimp only
      generalize runJob call keeps job { s with queue := rest } = ran at hj
      obtain ⟨halted, s'⟩ := ran
      cases halted with
      | some h' => exact .refl _
      | none => exact (hj rfl).trans (ih s')

theorem settle_adds {call : Caller} (hcall : call.Extends P) (bound : Nat) (keeps : Keeps)
    (s : Relay) : Adds P s.trace (settle call bound keeps s).trace := by
  unfold settle
  split
  · exact drain_adds hcall keeps bound s
  · exact .refl _

theorem enter_extends (hx : x.Extends P) {body : Relay → Exit ε α × Relay} (m : Marker)
    (s : Relay) (hbody : ∀ s', s'.trace = s.trace → Extends P s.trace (body s')) :
    Extends P s.trace (enter x m body s) := by
  have hw := within_extends m s hbody
  unfold enter
  generalize within m body s = out at hw
  obtain ⟨exit, s'⟩ := out
  cases exit with
  | halt h => exact .of_halt h s'
  | ok | error | panic => exact fun _ => (hw (by simp)).trans (hx.others x.keeps s')

/-! ## Targets -/

/-- What a worker does when it runs a target comes after the request. -/
theorem invoke_extends (hx : x.Extends P) (w : Worker) (t : Target) (args : List Value)
    (s : Relay) : Extends P (s.trace ++ [.invoked w t args]) (invoke x w t args s) := by
  unfold invoke
  dsimp only
  split
  · exact runTarget_extends hx.call w.home t args _
  · exact enter_extends (hx.keeping _) _ _ fun s' hs' =>
      hs' ▸ runTarget_extends hx.call w.home t args s'

omit [Composable P] in
/-- A submission only notes the request. -/
theorem submit_trace (w : Worker) (t : Target) (args : List Value) (s : Relay) : ∃ taken,
    (submit w t args s).2.trace = s.trace ++ [.submitted w t args taken] := by
  unfold submit
  split
  · exact ⟨false, rfl⟩
  split
  · exact ⟨true, rfl⟩
  split
  · exact ⟨true, rfl⟩
  · exact ⟨false, rfl⟩

/-- What other threads do once a worker has queued a target comes after the request. -/
theorem handOver_adds (hx : x.Extends P) (w : Worker) (t : Target) (args : List Value)
    (s : Relay) : ∃ taken,
      Adds P (s.trace ++ [.submitted w t args taken]) (handOver x w t args s).2.trace := by
  obtain ⟨taken, htrace⟩ := submit_trace w t args s
  refine ⟨taken, ?_⟩
  rw [← htrace]
  unfold handOver
  generalize submit w t args s = submitted
  obtain ⟨_ | _, s'⟩ := submitted
  · exact .refl _
  · exact hx.others _ s'

/-! ## Inline engines -/

omit [Composable P] in
theorem withWorker_extends {body : Relay → Exit ε α × Relay} (e : EngineId) (s : Relay)
    (hbody : ∀ s', Extends P s'.trace (body s')) :
    Extends P s.trace (withWorker e body s).2 := by
  unfold withWorker
  dsimp only
  have h := hbody ((s.newWorker e).2.setCurrent e (some (s.newWorker e).1))
  rw [setCurrent_trace, newWorker_trace] at h
  generalize body _ = out at h
  obtain ⟨exit, s'⟩ := out
  cases exit with
  | halt h' => exact .of_halt h' s'
  | ok | error | panic => exact fun _ => by simpa using h (by simp)

theorem inPooled_extends (hx : x.Extends P) {body : Relay → Exit ε α × Relay}
    (e : EngineId) (s : Relay) (hbody : ∀ s', Extends P s'.trace (body s')) :
    Extends P s.trace (inPooled x e body s).2 := by
  unfold inPooled
  have ht := take_trace s e
  generalize s.take e = taken at ht
  obtain ⟨w, s₁⟩ := taken
  dsimp only at ht ⊢
  have h := enter_extends hx ⟨w.home, w.number, true⟩ s₁ fun s' hs' => hs' ▸ hbody s'
  rw [ht] at h
  generalize enter x ⟨w.home, w.number, true⟩ body s₁ = out at h
  obtain ⟨exit, s'⟩ := out
  cases exit with
  | halt h' => exact .of_halt h' s'
  | ok | error | panic => exact fun _ => by simpa using h (by simp)

theorem inWorker_extends (hx : x.Extends P) {body : Relay → Exit ε α × Relay}
    (e : EngineId) (s : Relay) (hbody : ∀ s', Extends P s'.trace (body s')) :
    Extends P s.trace (inWorker x e body s).2 := by
  unfold inWorker
  split
  · exact withWorker_extends e s hbody
  · exact inPooled_extends hx e s hbody

/-- By induction on the jobs that may still run. -/
theorem runPending_extends (hx : x.Extends P) (e : EngineId) (bound ran : Nat) (s : Relay) :
    Extends P s.trace (runPending x e bound ran s) := by
  induction bound generalizing ran s with
  | zero =>
    unfold runPending
    split
    · exact .of_trace_eq rfl
    · exact .of_halt _ s
  | succ bound ih =>
    unfold runPending
    cases hn : s.nextJob? e with
    | none => exact .of_trace_eq rfl
    | some next =>
      obtain ⟨job, s'⟩ := next
      have h := runTarget_extends hx.call e job.target job.args s'
      rw [nextJob?_trace hn] at h
      dsimp only
      generalize runTarget x.call e job.target job.args s' = out at h
      obtain ⟨exit, s''⟩ := out
      cases exit with
      | halt h' => exact .of_halt h' s''
      | panic p => exact fun _ => h (by simp)
      | ok | error => exact .of_adds (h (by simp)) (ih _ s'')

end

/-! ## Brackets -/

section

variable {ε α : Type} {loose : Interaction → Prop} {x : Runner}

theorem invoke_balances (hx : x.Balances loose) (w : Worker) (t : Target) (args : List Value)
    (s : Relay) : Balances loose s.trace (invoke x w t args s) :=
  .of_adds (.one _ (.invoked w t args)) (invoke_extends hx w t args s)

theorem handOver_balances (hx : x.Balances loose) (w : Worker) (t : Target) (args : List Value)
    (s : Relay) : Adds (Bracketed loose) s.trace (handOver x w t args s).2.trace := by
  obtain ⟨taken, h⟩ := handOver_adds hx w t args s
  exact (Adds.one _ (.submitted w t args taken)).trans h

theorem lease_balances {refused : Cause → Relay → Exit ε α × Relay}
    {body : Worker → Relay → Exit ε α × Relay} (e : EngineId) (s : Relay)
    (hrefused : ∀ c s', Balances loose s'.trace (refused c s'))
    (hbody : ∀ w s', Balances loose s'.trace (body w s')) :
    Balances loose s.trace ((host x e).lease refused body s) := by
  unfold Host.lease
  simp only [host]
  cases ha : s.acquire e with
  | mk granted s₁ =>
    cases granted with
    | error c =>
      have h := hrefused c s₁
      rw [acquire_trace_error ha] at h
      exact .of_adds (.one _ (.refused e)) h
    | ok w =>
      have h := hbody w s₁
      rw [acquire_trace_ok ha] at h
      dsimp only
      generalize body w s₁ = out at h
      obtain ⟨exit, s₂⟩ := out
      cases exit with
      | halt h' => exact .of_halt h' s₂
      | ok | error | panic =>
        exact fun _ => release_trace s₂ e w ▸ (h (by simp)).leased

end

/-! ## Panics -/

section

variable {ε α : Type} {x : Runner} {p : Panic}

theorem runTarget_panic {e : EngineId} {t : Target} {args : List Value} {s : Relay}
    (h : (runTarget x.call e t args s).1 = .panic p) : x.Raises p := by
  unfold runTarget at h
  split at h
  · exact ⟨_, args, s, h⟩
  · cases h

theorem within_panic {m : Marker} {body : Relay → Exit ε α × Relay} {s : Relay}
    (h : (within m body s).1 = .panic p) : ∃ s', (body s').1 = .panic p := by
  unfold within at h
  split at h
  · exact ⟨s, h⟩
  split at h
  · cases h
  · refine ⟨{ s with stack := m :: s.stack }, ?_⟩
    generalize body { s with stack := m :: s.stack } = out at h ⊢
    obtain ⟨exit, s'⟩ := out
    cases exit <;> exact h

theorem enter_panic {m : Marker} {body : Relay → Exit ε α × Relay} {s : Relay}
    (h : (enter x m body s).1 = .panic p) : ∃ s', (body s').1 = .panic p := by
  refine within_panic (m := m) (s := s) ?_
  unfold enter at h
  generalize within m body s = out at h ⊢
  obtain ⟨exit, s'⟩ := out
  cases exit <;> exact h

theorem invoke_panic {w : Worker} {t : Target} {args : List Value} {s : Relay}
    (h : (invoke x w t args s).1 = .panic p) : x.Raises p := by
  unfold invoke at h
  dsimp only at h
  split at h
  · exact runTarget_panic h
  · obtain ⟨s', hs'⟩ := enter_panic h
    exact runTarget_panic hs'

end

end Relay

end EventRelay
