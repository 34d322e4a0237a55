import EventRelay.Proofs.Script.Path

/-!
# EventRelay.Proofs.Host.Exclusive

The pools of all engines over whole runs.

* `Relay.movesOf`: the acquisitions and releases of one engine on a path.
* `Relay.Advances`: what one change does to one pool: nothing, one move, or its start.
* `Path.tracks`: on every path, every pool is where its own moves lead from an empty one.
* `acquire_pooled`, `release_pooled`, `inWorker_pooled`: acquisitions and releases are one move
  each, and code inside a worker is an acquisition, what the code does and a release, whatever its
  way out.
* `pools_exclusive`: what holders see of the pools at any point of any run.
-/

namespace EventRelay

/-- The pool of an engine, if it has one, and how many workers may be idle there. -/
def EngineKind.pool? : EngineKind → Option (Nat × Pool)
  | inline _ => none
  | pooled p => some (p.config.maxIdle, p.pool)

namespace Relay

def poolOf (s : Relay) (e : EngineId) : Option (Nat × Pool) := (s.engine e).kind.pool?

/-- The acquisitions and releases of an engine. -/
def movesOf (e : EngineId) (t : List PoolMove) : List Pool.Move :=
  t.filterMap fun m => if m.1 = e then some m.2 else none

section

variable {s s' : Relay} {e : EngineId}

theorem movesOf_append (e : EngineId) (t u : List PoolMove) :
    movesOf e (t ++ u) = movesOf e t ++ movesOf e u :=
  List.filterMap_append

theorem movesOf_single (e e' : EngineId) (m : Pool.Move) :
    movesOf e [(e', m)] = if e' = e then [m] else [] := by
  by_cases h : e' = e <;> simp [movesOf, h]

/-! ## Pools -/

theorem poolOf_putEngine (s : Relay) (e e' : EngineId) (engine : Engine) :
    (s.putEngine e' engine).poolOf e = if e' = e then engine.kind.pool? else s.poolOf e := by
  unfold poolOf
  rw [engine_putEngine]
  split <;> rfl

theorem poolOf_putKind (s : Relay) (e e' : EngineId) (kind : EngineKind) :
    (s.putKind e' kind).poolOf e = if e' = e then kind.pool? else s.poolOf e :=
  poolOf_putEngine s e e' _

theorem poolOf_eq_of_engines (h : s'.engines = s.engines) : s'.poolOf e = s.poolOf e := by
  unfold poolOf engine
  rw [h]

theorem pooled_of_poolOf {maxIdle : Nat} {pool : Pool} (h : s.poolOf e = some (maxIdle, pool)) :
    ∃ p, (s.engine e).kind = .pooled p ∧ p.config.maxIdle = maxIdle ∧ p.pool = pool := by
  unfold poolOf at h
  cases hk : (s.engine e).kind with
  | inline i =>
    rw [hk] at h
    cases h
  | pooled p =>
    rw [hk] at h
    cases h
    exact ⟨p, rfl, rfl, rfl⟩

theorem isSome_poolOf : (s.poolOf e).isSome ↔ ∃ p, (s.engine e).kind = .pooled p := by
  unfold poolOf
  cases (s.engine e).kind with
  | inline i => simp [EngineKind.pool?]
  | pooled p => simp [EngineKind.pool?]

/-- An engine may change apart from its pool. -/
theorem poolOf_putEngine_of_eq {e' : EngineId} {engine : Engine}
    (h : engine.kind.pool? = s.poolOf e') : (s.putEngine e' engine).poolOf e = s.poolOf e := by
  rw [poolOf_putEngine]
  split
  · rename_i heq
    rw [h, heq]
  · rfl

theorem newListener_engines (s : Relay) (e : EngineId) (v : Value) (mode : Mode) :
    (s.newListener e v mode).2.engines = s.engines := by
  unfold newListener
  split <;> rfl

theorem request_engines (s : Relay) (q : Request) : (q.run s).engines = s.engines := by
  cases q with
  | listen a event v mode =>
    have h := newListener_engines s (s.adapter a).engine v mode
    simp only [Request.run, Relay.listen]
    generalize s.newListener (s.adapter a).engine v mode = made at h
    obtain ⟨_ | l, s'⟩ := made
    · exact h
    · exact h
  | unlisten | unlistenValue | unlistenAll => rfl

/-! ## Advances -/

/-- What a change does to a pool. -/
inductive Advances : Option (Nat × Pool) → List Pool.Move → Option (Nat × Pool) → Prop where
  | stays (o : Option (Nat × Pool)) : Advances o [] o
  | moves (maxIdle : Nat) {p p' : Pool} {m : Pool.Move} :
      Pool.Step p m p' → Advances (some (maxIdle, p)) [m] (some (maxIdle, p'))
  | starts (maxIdle : Nat) : Advances none [] (some (maxIdle, Pool.empty maxIdle))

namespace Advances

theorem of_eq (h : s'.poolOf e = s.poolOf e) :
    Advances (s.poolOf e) (movesOf e []) (s'.poolOf e) :=
  h ▸ .stays _

theorem putKind {e' : EngineId} {old new : EngineKind} (hold : (s.engine e').kind = old)
    (h : new.pool? = old.pool?) :
    Advances (s.poolOf e) (movesOf e []) ((s.putKind e' new).poolOf e) :=
  .of_eq (poolOf_putEngine_of_eq (h.trans (congrArg EngineKind.pool? hold).symm))

end Advances

theorem take_advances (s : Relay) (e e' : EngineId) :
    Advances (s.poolOf e) (movesOf e (s.taking e')) ((s.take e').2.poolOf e) := by
  unfold taking take
  cases hk : (s.engine e').kind with
  | inline i =>
    exact .putKind hk rfl
  | pooled p =>
    dsimp only
    rw [movesOf_single, poolOf_putKind]
    by_cases he : e' = e
    · subst he
      have hpool : s.poolOf e' = some (p.config.maxIdle, p.pool) := congrArg EngineKind.pool? hk
      rw [if_pos rfl, if_pos rfl, hpool]
      exact .moves _ .acquire
    · rw [if_neg he, if_neg he]
      exact .stays _

theorem giveBack_advances (s : Relay) (e e' : EngineId) (n : Nat) :
    Advances (s.poolOf e) (movesOf e (s.giving e' n)) ((s.giveBack e' n).poolOf e) := by
  unfold giving giveBack
  cases hk : (s.engine e').kind with
  | inline i =>
    exact .putKind hk rfl
  | pooled p =>
    have hpool : s.poolOf e' = some (p.config.maxIdle, p.pool) := congrArg EngineKind.pool? hk
    have hstep := Pool.Step.release (p := p.pool) n
    dsimp only
    rw [movesOf_single]
    by_cases he : e' = e
    · subst he
      rw [if_pos rfl, hpool]
      cases hr : p.pool.release n with
      | none =>
        rw [hr] at hstep
        have hwarn : (s.warn (.notLeased (Worker.nameOf n))).poolOf e' = s.poolOf e' := rfl
        dsimp only
        rw [hwarn, hpool]
        exact .moves _ hstep
      | some pool =>
        rw [hr] at hstep
        dsimp only
        rw [poolOf_putKind, if_pos rfl]
        exact .moves _ hstep
    · rw [if_neg he]
      cases p.pool.release n with
      | none => exact .stays _
      | some pool =>
        dsimp only
        rw [poolOf_putKind, if_neg he]
        exact .stays _

/-- Every change leaves a pool alone, moves it once, or starts it. -/
theorem Change.advances {u : List PoolMove} (h : Change s u s') (e : EngineId) :
    Advances (s.poolOf e) (movesOf e u) (s'.poolOf e) := by
  cases h with
  | take e' => exact take_advances s e e'
  | giveBack e' n => exact giveBack_advances s e e' n
  | note | warn | entered | left | queued | unqueued | unregister | clearEvent | newRegistry
  | types | addAdapter | record => exact .stays _
  | finish job failed =>
    unfold Relay.finish
    split
    · rename_i p hk
      exact .putKind hk rfl
    · exact .stays _
  | queuedInline e' i job hk =>
    exact .putKind hk rfl
  | begun e' job _ hn =>
    obtain ⟨i, rest, hk, -, rfl⟩ := nextJob?_eq_some hn
    exact .putKind hk rfl
  | setCurrent e' current =>
    unfold Relay.setCurrent
    split
    · rename_i i hk
      exact .putKind hk rfl
    · exact .stays _
  | newWorker e' =>
    unfold Relay.newWorker
    split
    · rename_i i hk
      exact .putKind hk rfl
    · exact .stays _
  | request q => exact .of_eq (poolOf_eq_of_engines (request_engines s q))
  | register r e' event v mode l s₁ hl =>
    have he := newListener_engines s e' v mode
    rw [hl] at he
    exact .of_eq (poolOf_eq_of_engines he)
  | addEngine kind hkind =>
    rw [poolOf_putEngine]
    split
    · rename_i hsize
      subst hsize
      rw [poolOf, engine_size]
      cases hkind with
      | inline exports => exact .stays _
      | pooled c ownsRuntime => exact .starts c.maxIdle
    · exact .stays _
  | refuse e' acquire submit => exact .of_eq (poolOf_putEngine_of_eq rfl)
  | putExports e' m =>
    unfold Script.putExports
    split
    · rename_i i hk
      exact .putKind hk rfl
    · rename_i p hk
      exact .putKind hk rfl
  | closeUnused e' =>
    unfold Relay.closeUnused
    split
    · rename_i p hk
      split
      · exact .putKind hk rfl
      · exact .stays _
    · exact .stays _

/-- An engine with a pool keeps one. -/
theorem Change.pooled {u : List PoolMove} (h : Change s u s')
    (hp : ∃ p, (s.engine e).kind = .pooled p) : ∃ p, (s'.engine e).kind = .pooled p := by
  have hadvances := h.advances e
  rw [← isSome_poolOf] at hp ⊢
  generalize s.poolOf e = o at hp hadvances
  generalize s'.poolOf e = o' at hadvances ⊢
  generalize movesOf e u = ms at hadvances
  cases hadvances with
  | stays => exact hp
  | moves | starts => rfl

theorem Path.pooled {t : List PoolMove} (ht : Path s t s')
    (hp : ∃ p, (s.engine e).kind = .pooled p) : ∃ p, (s'.engine e).kind = .pooled p := by
  induction ht with
  | refl => exact hp
  | step _ hc ih => exact hc.pooled ih

/-! ## Runs -/

/-- A pool is where its moves lead from an empty one; without a pool there are no moves. -/
def Tracks : List Pool.Move → Option (Nat × Pool) → Prop
  | ms, none => ms = []
  | ms, some (maxIdle, p) => Pool.Run maxIdle ms p

theorem Tracks.advance {ms ms' : List Pool.Move} {o o' : Option (Nat × Pool)}
    (h : Tracks ms o) (ha : Advances o ms' o') : Tracks (ms ++ ms') o' := by
  cases ha with
  | stays =>
    rw [List.append_nil]
    exact h
  | moves maxIdle hstep => exact Pool.Run.step h hstep
  | starts maxIdle =>
    cases h
    exact .start

/-- By induction on the changes, whatever they are. -/
theorem Path.tracks {t : List PoolMove} (h : Path Relay.initial t s) (e : EngineId) :
    Tracks (movesOf e t) (s.poolOf e) := by
  induction h with
  | refl => rfl
  | step _ hc ih =>
    rw [movesOf_append]
    exact ih.advance (hc.advances e)

theorem Path.pool_run {t : List PoolMove} {p : PooledEngine} (h : Path Relay.initial t s)
    (hp : (s.engine e).kind = .pooled p) :
    Pool.Run p.config.maxIdle (movesOf e t) p.pool := by
  have hpool : s.poolOf e = some (p.config.maxIdle, p.pool) := congrArg EngineKind.pool? hp
  have htracks := h.tracks e
  rw [hpool] at htracks
  exact htracks

/-! ## Acquisitions and releases -/

variable {p : PooledEngine}

theorem take_pooled (h : (s.engine e).kind = .pooled p) :
    s.take e = (⟨e, p.pool.acquire.1, e⟩,
      s.putKind e (.pooled { p with pool := p.pool.acquire.2 })) := by
  simp only [take, h]

theorem taking_pooled (h : (s.engine e).kind = .pooled p) :
    s.taking e = [(e, .took p.pool.acquire.1)] := by
  simp only [taking, h]

theorem giving_pooled (h : (s.engine e).kind = .pooled p) (n : Nat) :
    s.giving e n = [(e, p.pool.outcome n)] := by
  simp only [giving, h]

theorem kind_putKind (s : Relay) (e : EngineId) (kind : EngineKind) :
    ((s.putKind e kind).engine e).kind = kind := by
  unfold putKind
  rw [engine_putEngine, if_pos rfl]

theorem giveBack_pooled (h : (s.engine e).kind = .pooled p) (n : Nat) :
    ((s.giveBack e n).engine e).kind =
      .pooled { p with pool := (p.pool.release n).getD p.pool } := by
  simp only [giveBack, h]
  cases p.pool.release n with
  | none => exact h
  | some pool => exact kind_putKind s e _

/-- A granted acquisition is one move of the pool. -/
theorem acquire_pooled {w : Worker} (h : (s.engine e).kind = .pooled p)
    (ha : s.acquire e = (.ok w, s')) :
    w = ⟨e, p.pool.acquire.1, e⟩ ∧ Path s [(e, .took w.number)] s' ∧
      (s'.engine e).kind = .pooled { p with pool := p.pool.acquire.2 } := by
  have ht : Path s (s.taking e) (s.take e).2 := .single (.take e)
  rw [taking_pooled h] at ht
  unfold acquire at ha
  split at ha
  · cases ha
  · rw [take_pooled h] at ha ht
    cases ha
    exact ⟨rfl, ht.step (.note _), kind_putKind s e _⟩

/-- A release is one move of the pool. -/
theorem release_pooled (h : (s.engine e).kind = .pooled p) (w : Worker) :
    Path s [(e, p.pool.outcome w.number)] (s.release e w) ∧
      ((s.release e w).engine e).kind =
        .pooled { p with pool := (p.pool.release w.number).getD p.pool } := by
  have hn : ((s.note (.released e w)).engine e).kind = .pooled p := h
  refine ⟨?_, giveBack_pooled hn w.number⟩
  rw [← giving_pooled hn]
  exact (Path.single (.note (.released e w))).step (.giveBack e w.number)

variable {ε α : Type} {x : Runner} {body : Relay → Exit ε α × Relay}

/-- Code inside a pooled worker is an acquisition, what the code does, and a release of the same
worker, whether the code returns, fails or panics. -/
theorem inWorker_pooled (hx : x.Runs) (hbody : ∀ s', RunsTo s' (body s'))
    (h : (s.engine e).kind = .pooled p) :
    let n := p.pool.acquire.1
    let out := inWorker x e body s
    (∃ t, Path s ((e, .took n) :: t) out.2.2) ∧
      (out.2.1.Leaves → ∃ t s₁, Path s ((e, .took n) :: t) s₁ ∧ out.2.2 = s₁.giveBack e n) := by
  have ht : Path s (s.taking e) (s.take e).2 := .single (.take e)
  rw [taking_pooled h] at ht
  dsimp only
  unfold inWorker
  rw [h]
  unfold inPooled
  dsimp only
  rw [take_pooled h] at ht ⊢
  dsimp only at ht ⊢
  generalize s.putKind e _ = s' at ht ⊢
  generalize p.pool.acquire.1 = n at ht ⊢
  have hb := enter_runs hx ⟨e, n, true⟩ s' hbody
  generalize enter x ⟨e, n, true⟩ body s' = out at hb
  obtain ⟨exit, s₁⟩ := out
  obtain ⟨t, hpath⟩ := hb.path
  have hpath' : Path s ((e, .took n) :: t) s₁ := ht.trans hpath
  cases exit with
  | halt reason => exact ⟨⟨t, hpath'⟩, fun hl => absurd hl (Exit.not_leaves_halt reason)⟩
  | ok | error | panic =>
    refine ⟨⟨t ++ s₁.giving e n, ?_⟩, fun _ => ⟨t, s₁, hpath', rfl⟩⟩
    exact hpath'.step (.giveBack e n)

end

/-! ## All pools of all runs -/

/-- At any point of any run, no pooled worker is in two hands and no number is used twice. What
moves the pools are acquisitions, releases and code inside workers, one move for each acquisition
and each release, however they are nested; and every script runs along such a path. -/
theorem pools_exclusive :
    (∀ t s e p, Path Relay.initial t s → (s.engine e).kind = .pooled p →
      Pool.Exclusive p.config.maxIdle (movesOf e t) p.pool) ∧
    (∀ s s' e p w, (s.engine e).kind = .pooled p → s.acquire e = (.ok w, s') →
      w = ⟨e, p.pool.acquire.1, e⟩ ∧ Path s [(e, .took w.number)] s' ∧
        (s'.engine e).kind = .pooled { p with pool := p.pool.acquire.2 }) ∧
    (∀ s e p w, (s.engine e).kind = .pooled p →
      Path s [(e, p.pool.outcome w.number)] (s.release e w) ∧
        ((s.release e w).engine e).kind =
          .pooled { p with pool := (p.pool.release w.number).getD p.pool }) ∧
    (∀ (ε α : Type) (x : Runner) (body : Relay → Exit ε α × Relay) s e p, x.Runs →
      (∀ s', RunsTo s' (body s')) → (s.engine e).kind = .pooled p →
      let n := p.pool.acquire.1
      let out := inWorker x e body s
      (∃ t, Path s ((e, .took n) :: t) out.2.2) ∧
        (out.2.1.Leaves → ∃ t s₁, Path s ((e, .took n) :: t) s₁ ∧
          out.2.2 = s₁.giveBack e n)) ∧
    ∀ program depth, (Script.runner program depth).Runs ∧
      ∀ steps s, ∃ t, Path s t (Script.runSteps (Script.runner program depth) steps s).2 := by
  refine ⟨?_, ?_, ?_, ?_, ?_⟩
  · intro t s e p ht hp
    exact (ht.pool_run hp).exclusive
  · intro s s' e p w hp ha
    exact acquire_pooled hp ha
  · intro s e p w hp
    exact release_pooled hp w
  · intro ε α x body s e p hx hbody hp
    exact inWorker_pooled hx hbody hp
  · intro program depth
    have hx : (Script.runner program depth).Runs := Script.runner_runs program depth
    exact ⟨hx, fun steps s => (Script.runSteps_runs hx steps s).path⟩

/-- Two workers of an engine that keeps one are given back, the second one twice, and then code
inside a worker panics. -/
def crowded : List Script.Step :=
  [.startEngine "e" (.pooled ⟨.owning, none, some 1, none, none⟩), .acquire "e" "a",
    .acquire "e" "b", .release "e" "a", .release "e" "b", .release "e" "b", .panicInWorker "e"]

theorem pools_exclusive_crowded :
    ∃ t s p, s = (Script.runSteps (Script.runner [] 1) crowded Relay.initial).2 ∧
      Path Relay.initial t s ∧ (s.engine 0).kind = .pooled p ∧ p.pool = ⟨1, [1], [], 2, 3, 3⟩ ∧
      Pool.Exclusive 1 (movesOf 0 t) p.pool ∧ Path s [(0, .took 1)] (s.acquire 0).2 ∧
      ∃ t' s', Path s ((0, .took 1) :: t') s' ∧
        (inWorker (ε := Fault) (Script.runner [] 1) 0 (fun s => (.ok (), s)) s).2.2 =
          s'.giveBack 0 1 := by
  obtain ⟨hexclusive, hacquire, -, hinside, hscripts⟩ := pools_exclusive
  obtain ⟨hx, hsteps⟩ := hscripts [] 1
  obtain ⟨t, ht⟩ := hsteps crowded Relay.initial
  obtain ⟨s, hs⟩ : ∃ s, s = (Script.runSteps (Script.runner [] 1) crowded Relay.initial).2 :=
    ⟨_, rfl⟩
  have hpool : s.poolOf 0 = some (1, ⟨1, [1], [], 2, 3, 3⟩) := by
    rw [hs]
    decide +kernel
  have hallowed : (s.engine 0).refuseAcquire s.trace = none := by
    rw [hs]
    decide +kernel
  have hleft : (inWorker (ε := Fault) (Script.runner [] 1) 0
      (fun s => (.ok (), s)) s).2.1.halt? = none := by
    rw [hs]
    decide +kernel
  rw [← hs] at ht
  obtain ⟨p, hp, hmax, heq⟩ := pooled_of_poolOf hpool
  have hn : p.pool.acquire.1 = 1 := by
    rw [heq]
    rfl
  have hgranted : s.acquire 0 = (.ok ⟨0, 1, 0⟩, (s.acquire 0).2) := by
    simp only [acquire, hallowed, take_pooled hp, hn]
  have hp' := hexclusive t s 0 p ht hp
  have hin := (hinside Fault Unit _ (fun s => (.ok (), s)) s 0 p hx (fun s' => .refl s') hp).2
  rw [hmax] at hp'
  rw [hn] at hin
  exact ⟨t, s, p, hs, ht, hp, heq, hp', (hacquire _ _ 0 p _ hp hgranted).2.1,
    hin (Exit.leaves_of_halt? hleft)⟩

end Relay
end EventRelay
