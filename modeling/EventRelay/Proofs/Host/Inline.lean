import EventRelay.Proofs.Law

/-!
# EventRelay.Proofs.Host.Inline

The queue of an inline engine.

* `Relay.Turnover`: the jobs that began and the jobs that were accepted between two states, so that
  what waited and what was accepted is what began and what waits.
* `Relay.Exact`: some jobs did. `Exact.law`: every change of the state has such a turnover.
* `Relay.Rounds`, `Relay.RoundsEnd`: the jobs that one drain of the queue begins itself, and how it
  ends. `runPending_turnover`: a drain is these, and they are among the jobs that began meanwhile.
-/

namespace EventRelay

namespace Relay

/-! ## What waits and what began -/

/-- From one state of an inline engine to another, `started` jobs began and `taken` were accepted.
The engine was an inline one before, and its jobs began in the order of its queue. -/
def Turnover (e : EngineId) (s : Relay) (started taken : List Job) (s' : Relay) : Prop :=
  ∀ i', (s'.engine e).kind = .inline i' →
    ∃ i, (s.engine e).kind = .inline i ∧ i'.begun = i.begun ++ started ∧
      i.queue ++ taken = started ++ i'.queue ∧
      acceptedBy e s'.trace = acceptedBy e s.trace ++ taken

/-- No job of the engine was lost, begun twice or moved. -/
def Exact (e : EngineId) (s s' : Relay) : Prop :=
  ∃ started taken, Turnover e s started taken s'

section

variable {e : EngineId} {s s' s'' : Relay}

theorem Turnover.trans {started started' taken taken' : List Job}
    (h : Turnover e s started taken s') (h' : Turnover e s' started' taken' s'') :
    Turnover e s (started ++ started') (taken ++ taken') s'' := by
  intro i'' hi''
  obtain ⟨i', hi', hbegun', hqueue', htrace'⟩ := h' i'' hi''
  obtain ⟨i, hi, hbegun, hqueue, htrace⟩ := h i' hi'
  refine ⟨i, hi, ?_, ?_, ?_⟩
  · rw [hbegun', hbegun, List.append_assoc]
  · rw [← List.append_assoc, hqueue, List.append_assoc, hqueue', List.append_assoc]
  · rw [htrace', htrace, List.append_assoc]

/-- Queue and journal of the engine are as they were. -/
theorem Turnover.still
    (hkind : ∀ i', (s'.engine e).kind = .inline i' →
      ∃ i, (s.engine e).kind = .inline i ∧ i'.begun = i.begun ∧ i'.queue = i.queue)
    (htrace : acceptedBy e s'.trace = acceptedBy e s.trace) : Turnover e s [] [] s' := by
  intro i' hi'
  obtain ⟨i, hi, hbegun, hqueue⟩ := hkind i' hi'
  exact ⟨i, hi, by simp [hbegun], by simp [hqueue], by simp [htrace]⟩

theorem Turnover.refl (e : EngineId) (s : Relay) : Turnover e s [] [] s :=
  .still (fun i' hi' => ⟨i', hi', rfl, rfl⟩) rfl

namespace Exact

theorem refl (e : EngineId) (s : Relay) : Exact e s s := ⟨[], [], .refl e s⟩

theorem trans (h : Exact e s s') (h' : Exact e s' s'') : Exact e s s'' := by
  obtain ⟨started, taken, h⟩ := h
  obtain ⟨started', taken', h'⟩ := h'
  exact ⟨_, _, h.trans h'⟩

/-! ## Changes that the queue does not see -/

theorem of_plain (h : s.Plain s') : Exact e s s' := by
  refine ⟨[], [], fun i' hi' => ?_⟩
  have hkind := h.kinds e
  rw [hi'] at hkind
  cases hk : (s.engine e).kind with
  | pooled p =>
    rw [hk] at hkind
    cases hkind
  | inline i =>
    rw [hk] at hkind
    cases hkind with
    | inline _ _ hqueue hbegun _ =>
      exact ⟨i, rfl, by simp [hbegun], by simp [hqueue], by simp [h.accepted e i hk]⟩

theorem putEngine {e' : EngineId} {engine : Engine}
    (h : ∀ i', engine.kind = .inline i' →
      ∃ i, (s.engine e').kind = .inline i ∧ i'.begun = i.begun ∧ i'.queue = i.queue) :
    Exact e s (s.putEngine e' engine) := by
  refine ⟨[], [], .still (fun i' hi' => ?_) rfl⟩
  rw [engine_putEngine] at hi'
  split at hi'
  · rename_i he
    exact he ▸ h i' hi'
  · exact ⟨i', hi', rfl, rfl⟩

theorem putInline {e' : EngineId} {i i' : InlineEngine} (hk : (s.engine e').kind = .inline i)
    (hbegun : i'.begun = i.begun) (hqueue : i'.queue = i.queue) :
    Exact e s (s.putKind e' (.inline i')) := by
  refine putEngine fun i'' hi'' => ?_
  cases hi''
  exact ⟨i, hk, hbegun, hqueue⟩

theorem setCurrent (e' : EngineId) (current : Option Nat) :
    Exact e s (s.setCurrent e' current) := by
  unfold Relay.setCurrent
  cases hk : (s.engine e').kind with
  | inline i => exact putInline hk rfl rfl
  | pooled p => exact refl e s

theorem opened (e' : EngineId) : Exact e s (s.opened e') := by
  have hn : Exact e s (s.newWorker e').2 := by
    unfold newWorker
    cases hk : (s.engine e').kind with
    | inline i => exact putInline hk rfl rfl
    | pooled p => exact refl e s
  exact hn.trans (setCurrent e' _)

/-- An engine that was not used yet has no jobs, and there was none in its place. -/
theorem addEngine {kind : EngineKind} (h : FreshKind kind) :
    Exact e s (s.putEngine s.engines.size (Engine.ofKind kind)) := by
  refine putEngine fun i' hi' => ?_
  rw [engine_size]
  cases h with
  | inline exports =>
    cases hi'
    exact ⟨_, rfl, rfl, rfl⟩
  | pooled c ownsRuntime => cases hi'

theorem putExports (e' : EngineId) (m : Modules) : Exact e s (Script.putExports e' m s) := by
  unfold Script.putExports
  cases hk : (s.engine e').kind with
  | inline i => exact putInline hk rfl rfl
  | pooled p => exact putEngine nofun

end Exact

/-! ## Changes of the queue -/

theorem Turnover.begun {job : Job} (h : s.nextJob? e = some (job, s')) :
    Turnover e s [job] [] s' := by
  obtain ⟨i, rest, hk, hq, rfl⟩ := nextJob?_eq_some h
  intro i' hi'
  rw [putKind, engine_putEngine, if_pos rfl] at hi'
  cases hi'
  exact ⟨i, hk, rfl, by simp [hq], by simp⟩

theorem Exact.begun {e' : EngineId} {job : Job} (h : s.nextJob? e' = some (job, s')) :
    Exact e s s' := by
  by_cases he : e' = e
  · subst he
    exact ⟨[job], [], .begun h⟩
  · refine ⟨[], [], .still (fun i' hi' => ⟨i', ?_, rfl, rfl⟩) (by rw [nextJob?_trace h])⟩
    obtain ⟨i, rest, -, -, rfl⟩ := nextJob?_eq_some h
    rwa [putKind, engine_putEngine, if_neg he] at hi'

/-- A worker of an inline engine accepts a job: it is noted, and it is the last of the queue. -/
theorem Turnover.accepted {w : Worker} {t : Target} {args : List Value} {i : InlineEngine}
    (hk : (s.engine w.home).kind = .inline i) :
    Turnover w.home s [] [⟨w.home, w.number, t, args⟩]
      ((s.note (.submitted w t args true)).putKind w.home
        (.inline { i with queue := i.queue ++ [⟨w.home, w.number, t, args⟩] })) := by
  intro i' hi'
  rw [putKind, engine_putEngine, if_pos rfl] at hi'
  cases hi'
  exact ⟨i, hk, by simp, by simp, by simp [acceptedBy, Interaction.accepted?]⟩

theorem Exact.accepted {w : Worker} {t : Target} {args : List Value} {i : InlineEngine}
    (hk : (s.engine w.home).kind = .inline i) :
    Exact e s ((s.note (.submitted w t args true)).putKind w.home
      (.inline { i with queue := i.queue ++ [⟨w.home, w.number, t, args⟩] })) := by
  by_cases he : w.home = e
  · subst he
    exact ⟨_, _, .accepted hk⟩
  · refine ⟨[], [], .still (fun i' hi' => ?_) ?_⟩
    · rw [putKind, engine_putEngine, if_neg he] at hi'
      exact ⟨i', hi', rfl, rfl⟩
    · simp [acceptedBy, Interaction.accepted?, he]

/-- The queue keeps exact whatever code does, with any edits of exports. -/
theorem Exact.law (e : EngineId) : Law (fun _ => True) (Exact e) where
  refl := .refl e
  trans := .trans
  plain := .of_plain
  addEngine := .addEngine
  accepted _ _ hk := .accepted hk
  begun := .begun
  returned _ h := ((Exact.opened _).trans h).trans (.setCurrent _ _)
  unwound _ h := (Exact.opened _).trans h
  edited e' _ _ := .putExports e' _

end

end Relay

/-- Every call keeps the queue of the engine exact, and so do other threads. -/
abbrev Runner.Exact (e : EngineId) (x : Runner) : Prop := x.Obeys (Relay.Exact e)

namespace Relay

section

variable {ε α : Type} {x : Runner} {e : EngineId}

/-! ## Drains -/

/-- The oldest job of the queue begins, and runs up to its way out. -/
def Round (x : Runner) (e : EngineId) (s : Relay) (job : Job) (exit : Exit Cause Value)
    (s' : Relay) : Prop :=
  ∃ s₁, s.nextJob? e = some (job, s₁) ∧ runTarget x.call e job.target job.args s₁ = (exit, s')

/-- The jobs that return or fail, one after the other. -/
inductive Rounds (x : Runner) (e : EngineId) : Relay → List Job → Relay → Prop where
  | none (s : Relay) : Rounds x e s [] s
  | returned {s s₁ s₂ : Relay} {job : Job} {v : Value} {jobs : List Job} :
      Round x e s job (.ok v) s₁ → Rounds x e s₁ jobs s₂ → Rounds x e s (job :: jobs) s₂
  | failed {s s₁ s₂ : Relay} {job : Job} {c : Cause} {jobs : List Job} :
      Round x e s job (.error c) s₁ → Rounds x e s₁ jobs s₂ → Rounds x e s (job :: jobs) s₂

/-- How a drain ends after its rounds, given the number of these and of those that may follow.
`last` is the job that never came back to it, if there is one. -/
inductive RoundsEnd (x : Runner) (e : EngineId) (ran left : Nat) (s : Relay) :
    List Job → Exit Cause Nat × Relay → Prop where
  | emptied : s.nextJob? e = none → RoundsEnd x e ran left s [] (.ok ran, s)
  | panicked {job : Job} {p : Panic} {s' : Relay} :
      Round x e s job (.panic p) s' → RoundsEnd x e ran left s [job] (.panic p, s')
  | stuck {job : Job} {h : Halt} {s' : Relay} :
      Round x e s job (.halt h) s' → RoundsEnd x e ran left s [job] (.halt h, s')
  | spent : left = 0 → s.nextJob? e ≠ none → RoundsEnd x e ran left s [] (.halt .outOfFuel, s)

/-- A drain is its rounds and their end, by induction on the jobs that may still run. -/
theorem runPending_rounds (x : Runner) (e : EngineId) (bound ran : Nat) (s : Relay) :
    ∃ jobs last left s₁, Rounds x e s jobs s₁ ∧ jobs.length + left = bound ∧
      RoundsEnd x e (ran + jobs.length) left s₁ last (runPending x e bound ran s) := by
  induction bound generalizing ran s with
  | zero =>
    refine ⟨[], [], 0, s, .none s, rfl, ?_⟩
    unfold runPending
    cases hn : s.nextJob? e with
    | none => exact .emptied hn
    | some next => exact .spent rfl (by simp [hn])
  | succ bound ih =>
    have hzero : ([] : List Job).length + (bound + 1) = bound + 1 := Nat.zero_add _
    unfold runPending
    cases hn : s.nextJob? e with
    | none => exact ⟨[], [], bound + 1, s, .none s, hzero, .emptied hn⟩
    | some next =>
      obtain ⟨job, s₁⟩ := next
      dsimp only
      cases hrun : runTarget x.call e job.target job.args s₁ with
      | mk exit s₂ =>
        have hround : Round x e s job exit s₂ := ⟨s₁, hn, hrun⟩
        obtain ⟨jobs, last, left, s₃, hrounds, hleft, hend⟩ := ih (ran + 1) s₂
        rw [Nat.add_right_comm, Nat.add_assoc, ← List.length_cons (a := job)] at hend
        have hcount : (job :: jobs).length + left = bound + 1 := by
          rw [List.length_cons]
          omega
        cases exit with
        | halt h => exact ⟨[], [job], bound + 1, s, .none s, hzero, .stuck hround⟩
        | panic p => exact ⟨[], [job], bound + 1, s, .none s, hzero, .panicked hround⟩
        | ok v => exact ⟨job :: jobs, last, left, s₃, .returned hround hrounds, hcount, hend⟩
        | error c => exact ⟨job :: jobs, last, left, s₃, .failed hround hrounds, hcount, hend⟩

/-! ## Which jobs a drain begins itself -/

theorem Round.turnover (hx : x.Exact e) {s s' : Relay} {job : Job} {exit : Exit Cause Value}
    (h : Round x e s job exit s') : ∃ started taken, Turnover e s (job :: started) taken s' := by
  obtain ⟨s₁, hn, hrun⟩ := h
  obtain ⟨started, taken, hran⟩ :=
    runTarget_obeys (Exact.law e).frame hx.call e job.target job.args s₁
  rw [hrun] at hran
  exact ⟨started, [] ++ taken, (Turnover.begun hn).trans hran⟩

/-- Between two rounds of a drain, jobs may begin in drains that are nested in it. -/
theorem Rounds.turnover (hx : x.Exact e) {s s' : Relay} {jobs : List Job}
    (h : Rounds x e s jobs s') :
    ∃ started taken, Turnover e s started taken s' ∧ jobs.Sublist started := by
  induction h with
  | none s => exact ⟨[], [], .refl e s, .slnil⟩
  | returned hround _ ih | failed hround _ ih =>
    obtain ⟨started, taken, hfirst⟩ := hround.turnover hx
    obtain ⟨started', taken', hrest, hsub⟩ := ih
    exact ⟨_, _, hfirst.trans hrest, (hsub.trans (List.sublist_append_right started _)).cons_cons _⟩

theorem runPending_turnover (hx : x.Exact e) (bound : Nat) (s : Relay) :
    ∃ jobs last left s₁ started taken, Rounds x e s jobs s₁ ∧ jobs.length + left = bound ∧
      RoundsEnd x e jobs.length left s₁ last (runPending x e bound 0 s) ∧
      Turnover e s started taken (runPending x e bound 0 s).2 ∧
      (jobs ++ last).Sublist started := by
  obtain ⟨jobs, last, left, s₁, hrounds, hleft, hend⟩ := runPending_rounds x e bound 0 s
  obtain ⟨started, taken, hran, hsub⟩ := hrounds.turnover hx
  rw [Nat.zero_add] at hend
  refine ⟨jobs, last, left, s₁, ?_⟩
  generalize runPending x e bound 0 s = out at hend ⊢
  cases hend with
  | emptied hn =>
    exact ⟨started, taken, hrounds, hleft, .emptied hn, hran, by simpa using hsub⟩
  | spent hspent hn =>
    exact ⟨started, taken, hrounds, hleft, .spent hspent hn, hran, by simpa using hsub⟩
  | panicked hround =>
    obtain ⟨started', taken', hlast⟩ := hround.turnover hx
    exact ⟨_, _, hrounds, hleft, .panicked hround, hran.trans hlast,
      hsub.append (List.singleton_sublist.mpr (List.mem_cons_self ..))⟩
  | stuck hround =>
    obtain ⟨started', taken', hlast⟩ := hround.turnover hx
    exact ⟨_, _, hrounds, hleft, .stuck hround, hran.trans hlast,
      hsub.append (List.singleton_sublist.mpr (List.mem_cons_self ..))⟩

theorem nextJob?_eq_none {s : Relay} {i : InlineEngine} (hk : (s.engine e).kind = .inline i) :
    s.nextJob? e = none ↔ i.queue = [] := by
  unfold nextJob?
  rw [hk]
  cases hq : i.queue <;> simp [hq]

end

end Relay
end EventRelay
