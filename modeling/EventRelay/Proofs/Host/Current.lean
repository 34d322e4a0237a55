import EventRelay.Proofs.Host.Entry

/-!
# EventRelay.Proofs.Host.Current

The current worker while code inside workers is nested, and the leases of the workers that it runs
in.

* `runJob_fst`, `runJob_runs`: jobs are code inside their worker.
* `Relay.leasedOf`, `Course.leasedOf`: nested code ends every lease that it began.
* `current_worker_stack`: the current worker is that of the innermost entry, and every way out of
  the entry restores the one before.
-/

namespace EventRelay
namespace Relay

section

variable {s s' : Relay} {e e' : EngineId} {p : PooledEngine} {m : Marker}

/-! ## Jobs -/

/-- A job runs in its worker, which it has for its current one while somebody holds that. -/
theorem runJob_fst (call : Caller) (keeps : Keeps) (job : Job) (s : Relay)
    (hfree : ¬ s.Waits job.home job.number) :
    let held := keeps s job.home job.number || s.holds job.home job.number
    (runJob call keeps job s).1 = (runTarget call job.home job.target job.args
      (s.entered ⟨job.home, job.number, held⟩)).1.halt? := by
  intro held
  have hw : (within ⟨job.home, job.number, held⟩
      (runTarget call job.home job.target job.args) s).1 = _ := within_fst hfree
  rw [← hw, runJob_eq]
  dsimp only
  generalize within _ (runTarget call job.home job.target job.args) s = out
  obtain ⟨exit, s'⟩ := out
  cases exit <;> rfl

theorem runJob_runs {call : Caller} (hcall : call.Runs) (keeps : Keeps) (job : Job) (s : Relay) :
    s.Runs (runJob call keeps job s).1 (runJob call keeps job s).2 := by
  have hw := within_runs
    ⟨job.home, job.number, keeps s job.home job.number || s.holds job.home job.number⟩ s
    fun s' => runTarget_runs hcall job.home job.target job.args s'
  rw [runJob_eq]
  dsimp only
  generalize within _ (runTarget call job.home job.target job.args) s = out at hw
  obtain ⟨exit, s'⟩ := out
  cases exit with
  | halt reason => exact hw
  | ok | error | panic => exact hw.trans (conclude_runs s' job _)

/-! ## Leases -/

/-- The workers that an engine has handed out, the last in front. -/
def leasedOf (s : Relay) (e : EngineId) : List Nat :=
  ((s.poolOf e).map fun pool => pool.2.leased).getD []

theorem leasedOf_pooled (h : (s.engine e).kind = .pooled p) : s.leasedOf e = p.pool.leased := by
  simp [leasedOf, poolOf, h, EngineKind.pool?]

theorem Change.leasedOf (h : Change s [] s') (e : EngineId) : s'.leasedOf e = s.leasedOf e := by
  have hadvances := h.advances e
  unfold Relay.leasedOf
  generalize s.poolOf e = o at hadvances ⊢
  generalize s'.poolOf e = o' at hadvances ⊢
  cases hadvances with
  | stays => rfl
  | starts => rfl

theorem take_leasedOf (s : Relay) (e e' : EngineId) :
    (s.take e).2.leasedOf e' =
      if e = e' ∧ (s.poolOf e).isSome then (s.take e).1.number :: s.leasedOf e'
      else s.leasedOf e' := by
  cases hk : (s.engine e).kind with
  | inline i =>
    have hnone : (s.poolOf e).isSome = false := by simp [poolOf, hk, EngineKind.pool?]
    rw [hnone]
    simp only [take, hk, Relay.leasedOf, poolOf_putKind]
    split
    · rename_i he
      subst he
      simp [poolOf, hk, EngineKind.pool?]
    · simp
  | pooled p =>
    have hsome : (s.poolOf e).isSome := isSome_poolOf.mpr ⟨p, hk⟩
    rw [take_pooled hk]
    by_cases he : e = e'
    · subst he
      rw [if_pos ⟨rfl, hsome⟩, leasedOf_pooled (kind_putKind s e _), leasedOf_pooled hk]
      exact p.pool.acquire_leased
    · rw [if_neg fun h => he h.1, Relay.leasedOf, poolOf_putKind, if_neg he]
      rfl

theorem giveBack_leasedOf (s : Relay) (e e' : EngineId) (n : Nat) :
    (s.giveBack e n).leasedOf e' =
      if e = e' then (s.leasedOf e').erase n else s.leasedOf e' := by
  cases hk : (s.engine e).kind with
  | inline i =>
    simp only [giveBack, hk, Relay.leasedOf, poolOf_putKind]
    split
    · rename_i he
      subst he
      simp [poolOf, hk, EngineKind.pool?]
    · rfl
  | pooled p =>
    by_cases he : e = e'
    · subst he
      rw [if_pos rfl, leasedOf_pooled (giveBack_pooled hk n), leasedOf_pooled hk]
      by_cases hn : n ∈ p.pool.leased
      · obtain ⟨pool, hpool, hleased, -, -⟩ := Pool.release_of_leased hn
        rw [hpool]
        exact hleased
      · rw [Pool.release_of_not_leased hn, List.erase_of_not_mem hn]
        rfl
    · rw [if_neg he, Relay.leasedOf, Relay.leasedOf]
      simp only [giveBack, hk]
      split
      · rw [poolOf_putKind, if_neg he]
      · rfl

theorem leasedOf_giveBack_take (e e' : EngineId)
    (h : s'.leasedOf e' = (s.take e).2.leasedOf e') :
    (s'.giveBack e (s.take e).1.number).leasedOf e' = s.leasedOf e' := by
  rw [giveBack_leasedOf, h, take_leasedOf]
  by_cases he : e = e'
  · subst he
    by_cases hp : (s.poolOf e).isSome
    · simp [hp]
    · have hnil : s.leasedOf e = [] := by
        rw [Relay.leasedOf, Option.not_isSome_iff_eq_none.mp hp]
        rfl
      simp [hp, hnil]
  · simp [he]

/-- Code that takes no workers by itself leaves with the leases that it came with. -/
theorem Course.leasedOf {exits : Exits} {halted : Option Halt}
    (h : Course False NoCalls exits s halted s') (hnone : halted = none) (e : EngineId) :
    s'.leasedOf e = s.leasedOf e := by
  -- Induction on the course. Whatever is taken in it is given back in the same part of it, when
  -- the part between has restored the leases; so only `leased` has to look at the pool.
  induction h with
  | stay => rfl
  | called h => exact h.elim
  | moved h => exact h.elim
  | andThen _ _ ih ih' => exact (ih' hnone).trans (ih rfl)
  | change hc _ => exact hc.leasedOf e
  | leased e' _ ih => exact leasedOf_giveBack_take e' e (ih rfl)
  | inside m _ _ _ ih => exact ih rfl
  | submitted | stalled | exhausted => rfl
  | job job held exit _ _ _ _ _ _ ih =>
    refine Eq.trans ?_ (ih rfl)
    generalize complaint? _ job exit = complaint
    cases complaint with
    | none => exact (Change.finish job false).leasedOf e
    | some w =>
      exact ((Change.finish job true).leasedOf e).trans (Change.leasedOf (.warn w) e)
  | spent | waits | endless | leaseStuck | insideStuck => cases hnone

/-- Code inside a worker of a pool that takes no workers by itself: the worker is still leased when
its body was left, and then it is given back, so that the leases are those from before. -/
theorem inWorker_leasedOf {ε α : Type} {exits : Exits} {x : Runner}
    {body : Relay → Exit ε α × Relay} (hx : x.Courses False NoCalls exits)
    (hbody : ∀ s', CourseOf False NoCalls exits s' (body s'))
    (hp : (s.engine e).kind = .pooled p) (hleft : (inWorker x e body s).2.1.Leaves) :
    let n := p.pool.acquire.1
    ∃ (s₁ : Relay) (p₁ : PooledEngine) (pool : Pool),
      (inWorker x e body s).2.2 = s₁.giveBack e n ∧ s₁.leasedOf e = n :: s.leasedOf e ∧
      (s₁.engine e).kind = .pooled p₁ ∧
      p₁.pool.release n = some pool ∧ pool.released = p₁.pool.released + 1 ∧
      ∀ e', (inWorker x e body s).2.2.leasedOf e' = s.leasedOf e' := by
  intro n
  have htake := take_pooled hp
  have hc := enter_course hx ⟨e, n, true⟩ (s.take e).2 hbody
  have hall := inWorker_course hx e s hbody
  have hnone : (inWorker x e body s).2.1.halt? = none := Exit.halt?_of_leaves hleft
  have hleases (e' : EngineId) := hall.leasedOf hnone e'
  have hs₁ : (enter x ⟨e, n, true⟩ body (s.take e).2).1.halt? = none ∧
      (inWorker x e body s).2.2 =
        (enter x ⟨e, n, true⟩ body (s.take e).2).2.giveBack e n := by
    simp only [inWorker, hp, inPooled] at hnone ⊢
    rw [htake] at hnone ⊢
    dsimp only at hnone ⊢
    generalize enter x _ body _ = out at hnone ⊢
    obtain ⟨exit, s'⟩ := out
    cases exit with
    | halt reason => cases hnone
    | ok | error | panic => exact ⟨rfl, rfl⟩
  obtain ⟨hnone₁, hgive⟩ := hs₁
  generalize enter x ⟨e, n, true⟩ body (s.take e).2 = out at hc hnone₁ hgive
  have hleased : out.2.leasedOf e = n :: s.leasedOf e := by
    rw [hc.leasedOf hnone₁, take_leasedOf, if_pos ⟨rfl, isSome_poolOf.mpr ⟨p, hp⟩⟩, htake]
  obtain ⟨t, ht⟩ := (hc.runs fun _ _ _ hcalls => hcalls.elim).path
  obtain ⟨p₁, hp₁⟩ := ((Path.single (.take e)).trans ht).pooled ⟨p, hp⟩
  have hmem : n ∈ p₁.pool.leased := by
    rw [← leasedOf_pooled hp₁, hleased]
    exact List.mem_cons_self
  obtain ⟨pool, hpool, -, -, hreleased⟩ := Pool.release_of_leased hmem
  exact ⟨out.2, p₁, pool, hgive, hleased, hp₁, hpool, hreleased, hleases⟩

end

/-! ## The stack of current workers -/

/-- How code inside workers of pooled engines treats the current worker, and the pool. -/
structure StackDiscipline (x : Runner) : Prop where
  /-- Code that is left, by a return, a failure or a panic, has restored the current worker. -/
  restored : ∀ (s s' : Relay) (e : EngineId) (p : PooledEngine), (s.engine e).kind = .pooled p →
    s.Runs none s' → s'.currentWorker e = s.currentWorker e
  /-- Inside workers of one engine, the current worker is the one entered last, or none for a job
  whose worker nobody holds. -/
  innermost : ∀ (s : Relay) (m : Marker) (e : EngineId) (p : PooledEngine),
    (s.engine e).kind = .pooled p → (∀ held ∈ s.stack, held.home = m.home) →
    ∃ top, (s.entered m).stack.head? = some top ∧ top.home = m.home ∧ top.number = m.number ∧
      (top = m ∨ s.entered m = s) ∧ (s.entered m).currentWorker e = top.worker? e ∧
      ∀ held ∈ (s.entered m).stack, held.home = m.home
  /-- A body runs inside its worker, unless the thread waits for itself, and is such code. -/
  entry : ∀ (ε α : Type) (m : Marker) (body : Relay → Exit ε α × Relay) (s : Relay),
    (∀ s', RunsTo s' (body s')) → RunsTo s (enter x m body s) ∧
      (s.Waits m.home m.number → enter x m body s = (.halt (.selfLock m.home m.number), s)) ∧
      (¬ s.Waits m.home m.number → (enter x m body s).1 = (body (s.entered m)).1)
  invocation : ∀ (w : Worker) (t : Target) (args : List Value) (s : Relay) (p : PooledEngine),
    (s.engine w.home).kind = .pooled p → RunsTo s (invoke x w t args s) ∧
      (¬ s.Waits w.home w.number →
        (invoke x w t args s).1 = (runTarget x.call w.home t args
          ((s.note (.invoked w t args)).entered ⟨w.home, w.number, true⟩)).1)
  job : ∀ (keeps : Keeps) (job : Job) (s : Relay),
    s.Runs (runJob x.call keeps job s).1 (runJob x.call keeps job s).2 ∧
    (¬ s.Waits job.home job.number →
      let held := keeps s job.home job.number || s.holds job.home job.number
      (runJob x.call keeps job s).1 = (runTarget x.call job.home job.target job.args
        (s.entered ⟨job.home, job.number, held⟩)).1.halt?)
  /-- What runs in a worker of the pool gives it back as its last act. -/
  inPool : ∀ (ε α : Type) (body : Relay → Exit ε α × Relay) (e : EngineId) (s : Relay)
    (p : PooledEngine), (s.engine e).kind = .pooled p → (∀ s', RunsTo s' (body s')) →
    let n := p.pool.acquire.1
    let out := (inWorker x e body s).2
    RunsTo s out ∧
      (¬ s.Waits e n → out.1 = (body ((s.take e).2.entered ⟨e, n, true⟩)).1) ∧
      (out.1.Leaves → ∃ t s₁, Path s ((e, .took n) :: t) s₁ ∧ out.2 = s₁.giveBack e n)

theorem StackDiscipline.of_runs {x : Runner} (hx : x.Runs) : StackDiscipline x where
  restored s s' e p hp hruns := hruns.currentWorker hp
  innermost s m e p hp hhome := by
    by_cases htop : s.stack.head?.map Marker.number = some m.number
    · rw [entered_of_top htop]
      obtain ⟨top, hhead, hnumber⟩ := Option.map_eq_some_iff.mp htop
      refine ⟨top, hhead, hhome top (List.mem_of_mem_head? hhead), hnumber, .inr rfl, ?_, hhome⟩
      rw [currentWorker_pooled hp, hhead]
      rfl
    · have hcurrent := entered_currentWorker_of_ne hp htop
      rw [entered_of_ne htop] at hcurrent ⊢
      refine ⟨m, rfl, rfl, rfl, .inl rfl, hcurrent, fun held hmem => ?_⟩
      rcases List.mem_cons.mp hmem with rfl | hmem
      · rfl
      · exact hhome held hmem
  entry ε α m body s hbody := by
    refine ⟨enter_runs hx m s hbody, fun hwaits => ?_, fun hfree => enter_fst hfree⟩
    unfold enter
    rw [within_of_waits hwaits]
  invocation w t args s p hp :=
    ⟨invoke_runs hx w t args s, fun hfree => invoke_fst w t args hp hfree⟩
  job keeps job s :=
    ⟨runJob_runs hx.call keeps job s, fun hfree => runJob_fst x.call keeps job s hfree⟩
  inPool ε α body e s p hp hbody :=
    ⟨inWorker_runs hx e s hbody, fun hfree => inWorker_fst hp hfree,
      (inWorker_pooled hx hbody hp).2⟩

/-- Inside a worker, the current worker of the engine is the one entered last, or none for a job
whose worker nobody holds, and every way out restores the one from before. Functions, listed steps
and whatever they nest keep to that at any depth. What runs in a worker of the pool gives that
worker back as its last act, once; if it takes no workers by itself, the worker is leased until then
and all leases are the same as before. -/
theorem current_worker_stack :
    (∀ x, x.Runs → StackDiscipline x) ∧
    (∀ (ε α : Type) (exits : Exits) (x : Runner) (body : Relay → Exit ε α × Relay) (e : EngineId)
      (s : Relay) (p : PooledEngine), x.Courses False NoCalls exits →
      (∀ s', CourseOf False NoCalls exits s' (body s')) → (s.engine e).kind = .pooled p →
      let n := p.pool.acquire.1
      let out := (inWorker x e body s).2
      out.1.Leaves → ∃ (s₁ : Relay) (p₁ : PooledEngine) (pool : Pool), out.2 = s₁.giveBack e n ∧
        s₁.leasedOf e = n :: s.leasedOf e ∧ (s₁.engine e).kind = .pooled p₁ ∧
        p₁.pool.release n = some pool ∧ pool.released = p₁.pool.released + 1 ∧
        ∀ e', out.2.leasedOf e' = s.leasedOf e') ∧
    ∀ program depth,
      let x := Script.runner program depth
      x.Runs ∧ (∀ steps (s : Relay), s.Runs (Script.haltOf (Script.runSteps x steps s).1)
        (Script.runSteps x steps s).2) ∧
      (program.takesWorkers = false → x.Courses False NoCalls program.Exits ∧
        ∀ steps s, Script.stepsTakeWorkers steps = false →
          Course False NoCalls program.Exits s (Script.haltOf (Script.runSteps x steps s).1)
            (Script.runSteps x steps s).2) := by
  refine ⟨fun x hx => .of_runs hx, ?_, ?_⟩
  · intro ε α exits x body e s p hx hbody hp n out hleft
    exact inWorker_leasedOf hx hbody hp hleft
  · intro program depth
    have hx := Script.runner_runs program depth
    refine ⟨hx, fun steps s => Script.runSteps_runs hx steps s, fun htakes => ?_⟩
    have hc : (Script.runner program depth).Courses False NoCalls program.Exits :=
      Script.runner_course (by simp [htakes]) depth
    exact ⟨hc, fun steps s hsteps => Script.runSteps_course hc steps (by simp [hsteps]) s⟩

/-- Code inside two workers panics, one nested in the other. -/
theorem current_worker_stack_unwinding :
    let x := Script.runner [] 1
    let inner := fun s : Relay => ((.panic (.text "inside"), s) : Exit Fault Unit × Relay)
    let body := fun s : Relay => (inWorker x 0 inner s).2
    ∃ s : Relay, (s.entered ⟨0, 1, true⟩).currentWorker 0 = some ⟨0, 1, 0⟩ ∧
      (inWorker x 0 body s).2.1.halt? = none ∧
      (inWorker x 0 body s).2.2.currentWorker 0 = s.currentWorker 0 ∧
      (inWorker x 0 body s).2.2.leasedOf 0 = s.leasedOf 0 := by
  intro x inner body
  obtain ⟨s, hs⟩ : ∃ s, s = (Script.runSteps (Script.runner [] 1)
      [.startEngine "e" (.pooled ⟨.owning, none, some 1, none, none⟩)] Script.start).2 := ⟨_, rfl⟩
  have hpool : s.poolOf 0 = some (1, Pool.empty 1) := by
    rw [hs]
    decide +kernel
  have hstack : s.stack = [] := by
    rw [hs]
    decide +kernel
  have hleft : (inWorker x 0 body s).2.1.halt? = none := by
    rw [hs]
    decide +kernel
  obtain ⟨p, hp, -, -⟩ := pooled_of_poolOf hpool
  obtain ⟨hdiscipline, hleases, hscripts⟩ := current_worker_stack
  obtain ⟨hx, -, hcourses⟩ := hscripts [] 1
  obtain ⟨hc, -⟩ := hcourses rfl
  have hbody (s' : Relay) : CourseOf False NoCalls (Script.Program.Exits []) s' (body s') :=
    inWorker_course hc 0 s' fun s'' => .stay s''
  have hruns := ((hdiscipline x hx).inPool Fault Unit body 0 s p hp
    fun s' => (hbody s').runs_alone).1
  rw [RunsTo, hleft] at hruns
  obtain ⟨top, htop, -, -, hsame, hcurrent, -⟩ :=
    (hdiscipline x hx).innermost s ⟨0, 1, true⟩ 0 p hp (by simp [hstack])
  obtain rfl : top = ⟨0, 1, true⟩ := by
    rw [entered_of_ne (by simp [hstack])] at htop
    exact (Option.some.inj htop).symm
  obtain ⟨_, _, _, -, -, -, -, -, hkept⟩ :=
    hleases Fault Unit _ x body 0 s p hc hbody hp (Exit.leaves_of_halt? hleft)
  exact ⟨s, hcurrent, hleft, (hdiscipline x hx).restored s _ 0 p hp hruns, hkept 0⟩

end Relay
end EventRelay
