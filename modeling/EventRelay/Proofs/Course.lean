import EventRelay.Proofs.Host.Jobs

/-!
# EventRelay.Proofs.Course

Runs with the nesting that they have.

* `Relay.Course`: code as small changes, with what stands between taking a worker and giving it
  back, between entering a worker and leaving it, and between the begin and the end of a job, as a
  part of its own. So a fact about nested code is one induction.
* `Course.runs`: code of some course runs along a path.
* `enter_course`, `inWorker_course` and their like: what code inside a worker does has a course.
* `settle_course`: so have other threads that run the waiting jobs.
-/

namespace EventRelay

/-- How calls of functions may end. -/
abbrev Exits := Function → List Value → Exit Cause Value → Prop

/-- How the call of what a target stands for may end, if it stands for anything. -/
def Exits.Ends (exits : Exits) (args : List Value) (exit : Exit Cause Value) :
    Except Cause Function → Prop
  | .ok f => exits f args exit
  | .error c => exit = .error c

namespace Relay

/-- What code does that stops somewhere, or for no reason. It takes workers, and gives them back,
outside of what is nested only if it may; `calls` says what calls of functions do, and `exits` how
they end in jobs. -/
inductive Course (loose : Prop) (calls : Relay → Option Halt → Relay → Prop) (exits : Exits) :
    Relay → Option Halt → Relay → Prop where
  | stay (s : Relay) : Course loose calls exits s none s
  /-- Calls nest too deep. -/
  | spent (s : Relay) : Course loose calls exits s (some .outOfFuel) s
  /-- The thread waits for a worker of its own. -/
  | waits {s : Relay} {home : EngineId} {number : Nat} :
      s.Waits home number → Course loose calls exits s (some (.selfLock home number)) s
  /-- The thread waits for jobs that never end. -/
  | endless {s : Relay} {reason : Halt} :
      s.endless? = some reason → Course loose calls exits s (some reason) s
  | called {s s' : Relay} {halted : Option Halt} :
      calls s halted s' → Course loose calls exits s halted s'
  | andThen {s s' s'' : Relay} {halted : Option Halt} :
      Course loose calls exits s none s' → Course loose calls exits s' halted s'' →
      Course loose calls exits s halted s''
  | change {s s' : Relay} : Change s [] s' → Steady s s' → Course loose calls exits s none s'
  /-- A worker is taken or given back. -/
  | moved {s s' : Relay} {u : List PoolMove} :
      loose → Change s u s' → Steady s s' → Course loose calls exits s none s'
  /-- A worker is taken and, in the end, given back. -/
  | leased {s s' : Relay} (e : EngineId) :
      Course loose calls exits (s.take e).2 none s' →
      Course loose calls exits s none (s'.giveBack e (s.take e).1.number)
  | leaseStuck {s s' : Relay} {reason : Halt} (e : EngineId) :
      Course loose calls exits (s.take e).2 (some reason) s' →
      Course loose calls exits s (some reason) s'
  /-- A worker is entered and left. -/
  | inside {s s' : Relay} (m : Marker) :
      s.stack.head?.map Marker.number ≠ some m.number → ¬ s.Waits m.home m.number →
      Course loose calls exits { s with stack := m :: s.stack } none s' →
      Course loose calls exits s none { s' with stack := s.stack }
  | insideStuck {s s' : Relay} {reason : Halt} (m : Marker) :
      s.stack.head?.map Marker.number ≠ some m.number → ¬ s.Waits m.home m.number →
      Course loose calls exits { s with stack := m :: s.stack } (some reason) s' →
      Course loose calls exits s (some reason) s'
  | submitted {s : Relay} {p : PooledEngine} (job : Job) :
      (s.engine job.home).kind = .pooled p → p.isOpen = true →
      Course loose calls exits s none { s with queue := s.queue ++ [job] }
  /-- While the thread is inside no worker, another one runs the oldest job of a worker to its
  end. -/
  | job {s s' : Relay} {before after : List Job} (job : Job) (held : Bool)
      (exit : Exit Cause Value) :
      s.stack = [] → s.queue = before ++ job :: after →
      (∀ other ∈ before, other.runsOn job.home job.number = false) → exit.halt? = none →
      exits.Ends job.args exit (s.callee job.home job.target) →
      Course loose calls exits { s with
        queue := before ++ after, stack := ⟨job.home, job.number, held⟩ :: s.stack } none s' →
      Course loose calls exits s none
        (conclude { s' with stack := s.stack } job
          (complaint? { s' with stack := s.stack } job exit))
  /-- A job that would never end is not begun. -/
  | stalled {s s' : Relay} {before after : List Job} {reason : Halt} (job : Job) (held : Bool) :
      s.stack = [] → s.queue = before ++ job :: after →
      Course loose calls exits { s with
        queue := before ++ after, stack := ⟨job.home, job.number, held⟩ :: s.stack }
        (some reason) s' →
      Course loose calls exits s none { s with stalled := some reason }
  /-- Jobs queue others without an end. -/
  | exhausted (s : Relay) : Course loose calls exits s none { s with stalled := some .outOfFuel }

end Relay

/-- Code of some course, whatever its way out. -/
abbrev CourseOf {ε α : Type} (loose : Prop) (calls : Relay → Option Halt → Relay → Prop)
    (exits : Exits) (s : Relay) (out : Exit ε α × Relay) : Prop :=
  Relay.Course loose calls exits s out.1.halt? out.2

theorem CourseOf.of_leaves {ε α : Type} {loose : Prop} {calls : Relay → Option Halt → Relay → Prop}
    {exits : Exits} {s s' : Relay} {exit : Exit ε α}
    (h : CourseOf loose calls exits s (exit, s')) (hleft : exit.Leaves) :
    Relay.Course loose calls exits s none s' := by
  rw [CourseOf, Exit.halt?_of_leaves hleft] at h
  exact h

/-- Every call of a function has some course, and one of its ways out. -/
structure Caller.Courses (loose : Prop) (calls : Relay → Option Halt → Relay → Prop)
    (exits : Exits) (call : Caller) : Prop where
  course : ∀ f args s, CourseOf loose calls exits s (call f args s)
  exits : ∀ f args s, exits f args (call f args s).1

/-- So have the calls of a thread, and other threads have a course. -/
structure Runner.Courses (loose : Prop) (calls : Relay → Option Halt → Relay → Prop)
    (exits : Exits) (x : Runner) : Prop where
  call : x.call.Courses loose calls exits
  others : ∀ keeps s, Relay.Course loose calls exits s none (x.others keeps s)

theorem Runner.Courses.keeping {loose : Prop} {calls : Relay → Option Halt → Relay → Prop}
    {exits : Exits} {x : Runner} (hx : x.Courses loose calls exits) (held : Keeps) :
    (x.keeping held).Courses loose calls exits :=
  ⟨hx.call, hx.others⟩

namespace Relay

/-! ## Paths -/

theorem change_entered {s : Relay} {m : Marker}
    (htop : s.stack.head?.map Marker.number ≠ some m.number) (hfree : ¬ s.Waits m.home m.number) :
    Change s [] { s with stack := m :: s.stack } :=
  .entered m htop fun held hmem hhome hnumber => hfree ⟨htop, held, hmem, hhome, hnumber⟩

theorem change_entered_first {s : Relay} (hs : s.stack = []) (m : Marker) :
    Change s [] { s with stack := m :: s.stack } :=
  change_entered (by simp [hs]) (by simp [Waits, hs])

theorem conclude_runs (s : Relay) (job : Job) (complaint : Option Warning) :
    s.Runs none (s.conclude job complaint) := by
  cases complaint with
  | none => exact finish_runs s job false
  | some w => exact (warn_runs s w).trans (finish_runs _ job true)

/-- Jobs that never end are known to be stuck, or nobody runs them. -/
theorem endless?_eq_some {s : Relay} {reason : Halt} (h : s.endless? = some reason) :
    s.stack = [] ∧ s.queue ≠ [] ∧ reason = s.stalled.getD .outOfFuel := by
  unfold endless? at h
  split at h
  · rename_i hwaiting
    simp only [Bool.and_eq_true, List.isEmpty_iff, Bool.not_eq_true', List.isEmpty_eq_false_iff]
      at hwaiting
    exact ⟨hwaiting.1, hwaiting.2, (Option.some.inj h).symm⟩
  · cases h

section

variable {loose : Prop} {calls : Relay → Option Halt → Relay → Prop} {exits : Exits}
  {s s' : Relay} {halted : Option Halt}

theorem Runs.inside {m : Marker} {reason : Halt} (hs : Change s [] { s with stack := m :: s.stack })
    (h : Runs { s with stack := m :: s.stack } (some reason) s') : s.Runs (some reason) s' where
  path := by
    obtain ⟨t, ht⟩ := h.path
    exact ⟨[] ++ t, (Path.single hs).trans ht⟩
  stack := nofun
  waits := h.waits
  stalls home number hstalled := by
    refine (h.stalls home number hstalled).imp id ?_
    rintro ⟨t, s₁, ht, hwaits⟩
    exact ⟨[] ++ t, s₁, (Path.single hs).trans ht, hwaits⟩

theorem Runs.left {m : Marker} (hs : Change s [] { s with stack := m :: s.stack })
    (h : Runs { s with stack := m :: s.stack } none s') :
    s.Runs none { s' with stack := s.stack } where
  path := by
    obtain ⟨t, ht⟩ := h.path
    exact ⟨_, ((Path.single hs).trans ht).step (.left m s.stack (h.stack rfl))⟩
  stack _ := rfl
  waits := nofun
  stalls home number hstalled := by
    refine (h.stalls home number hstalled).imp id ?_
    rintro ⟨t, s₁, ht, hwaits⟩
    exact ⟨[] ++ t, s₁, (Path.single hs).trans ht, hwaits⟩

/-- A job that comes to wait for a worker of its own has come to hold it. -/
theorem Runs.stalled {s₁ : Relay} {reason : Halt} (hs : s.Runs none s₁)
    (h : s₁.Runs (some reason) s') : s.Runs none { s with stalled := some reason } where
  path := ⟨[], .single (.record s.names s.calls s.gates s.log s.inner s.reported _)⟩
  stack _ := rfl
  waits := nofun
  stalls home number hstalled := by
    obtain ⟨t, ht⟩ := (hs.trans h).path
    rcases h.waits home number hstalled with hwaits | hstalled'
    · exact .inr ⟨t, s', ht, hwaits⟩
    · exact (hs.trans h).stalls home number hstalled'

theorem Course.runs (hcalls : ∀ s halted s', calls s halted s' → s.Runs halted s')
    (h : Course loose calls exits s halted s') : s.Runs halted s' := by
  have hbegin {s : Relay} {before after : List Job} {job : Job}
      (hq : s.queue = before ++ job :: after) : s.Runs none { s with queue := before ++ after } :=
    .of_change (.unqueued job before after hq) rfl rfl
  induction h with
  | stay s => exact .refl s
  | spent s => exact .outOfFuel s
  | waits hwaits =>
    refine ⟨⟨[], .refl⟩, nofun, fun home number h => ?_, fun _ _ => .inl⟩
    cases h
    exact .inl hwaits
  | endless hreason =>
    refine ⟨⟨[], .refl⟩, nofun, fun home number h => .inr ?_, fun _ _ => .inl⟩
    obtain ⟨-, -, rfl⟩ := endless?_eq_some hreason
    generalize hstalled : Relay.stalled _ = stalled at h
    cases stalled with
    | none => cases h
    | some reason => exact h
  | called h => exact hcalls _ _ _ h
  | andThen _ _ ih ih' => exact ih.trans ih'
  | change hc hs => exact .of_change hc hs.stack hs.stalled
  | moved _ hc hs => exact .of_change hc hs.stack hs.stalled
  | leased e _ ih => exact ((take_runs _ e).trans ih).trans (giveBack_runs _ e _)
  | leaseStuck e _ ih => exact (take_runs _ e).trans ih
  | inside m htop hfree _ ih => exact ih.left (change_entered htop hfree)
  | insideStuck m htop hfree _ ih => exact ih.inside (change_entered htop hfree)
  | submitted job _ _ => exact .of_change (.queued job) rfl rfl
  | @job s s' before after job held exit hs hq _ _ _ _ ih =>
    have hbody :=
      Runs.left (change_entered_first (s := { s with queue := before ++ after }) hs _) ih
    exact ((hbegin hq).trans hbody).trans (conclude_runs _ job _)
  | @stalled s s' before after reason job held hs hq _ ih =>
    exact .stalled (hbegin hq)
      (.inside (change_entered_first (s := { s with queue := before ++ after }) hs _) ih)
  | exhausted s => exact .stalled (.refl s) (.outOfFuel s)

/-- Every call is part of the course that makes it. -/
abbrev NoCalls : Relay → Option Halt → Relay → Prop := fun _ _ _ => False

theorem Course.runs_alone (h : Course loose NoCalls exits s halted s') : s.Runs halted s' :=
  h.runs fun _ _ _ => False.elim

/-- Code that comes back has left the workers that it entered. -/
theorem Course.stack_eq (h : Course loose NoCalls exits s none s') : s'.stack = s.stack :=
  h.runs_alone.stack rfl

/-! ## Code inside a worker -/

variable {ε α : Type} {x : Runner} {call : Caller}

theorem note_course (s : Relay) (i : Interaction) : Course loose calls exits s none (s.note i) :=
  .change (.note i) (.note i)

theorem warn_course (s : Relay) {w : Warning} (hw : w.ofJob = false) :
    Course loose calls exits s none (s.warn w) :=
  .change (.warn w) (.warn hw)

theorem runTarget_course (hcall : call.Courses loose calls exits) (e : EngineId) (t : Target)
    (args : List Value) (s : Relay) :
    CourseOf loose calls exits s (runTarget call e t args s) := by
  unfold runTarget
  split
  · exact hcall.course _ args s
  · exact .stay s

/-- A target ends like the function that it stands for. -/
theorem runTarget_ends (hcall : call.Courses loose calls exits) (e : EngineId) (t : Target)
    (args : List Value) (s : Relay) :
    exits.Ends args (runTarget call e t args s).1 (s.callee e t) := by
  unfold runTarget
  split
  · rename_i f hf
    rw [hf]
    exact hcall.exits f args s
  · rename_i c hc
    rw [hc]
    exact rfl

theorem acquire_course (hloose : loose) (s : Relay) (e : EngineId) :
    Course loose calls exits s none (s.acquire e).2 := by
  unfold acquire
  split
  · exact note_course s (.refused e)
  · exact .andThen (.moved hloose (.take e) (.take e)) (note_course _ _)

theorem release_course (hloose : loose) (s : Relay) (e : EngineId) (w : Worker) :
    Course loose calls exits s none (s.release e w) :=
  .andThen (note_course s (.released e w))
    (.moved hloose (.giveBack e w.number) (.giveBack e w.number))

/-! ## Where a worker is on the stack -/

theorem within_of_top {m : Marker} {body : Relay → Exit ε α × Relay}
    (h : s.stack.head?.map Marker.number = some m.number) : within m body s = body s := by
  unfold within
  rw [if_pos h]

theorem waits_iff {home : EngineId} {number : Nat} :
    s.Waits home number ↔ s.stack.head?.map Marker.number ≠ some number ∧
      (s.stack.any fun held => held.home == home && held.number == number) = true := by
  simp [Waits]

theorem within_of_waits {m : Marker} {body : Relay → Exit ε α × Relay}
    (h : s.Waits m.home m.number) :
    within m body s = (.halt (.selfLock m.home m.number), s) := by
  obtain ⟨htop, hheld⟩ := waits_iff.mp h
  unfold within
  rw [if_neg htop, if_pos hheld]

/-- Otherwise the worker is on top of the stack while the body runs, and the stack is as before
once it was left. -/
theorem within_of_new {m : Marker} {body : Relay → Exit ε α × Relay}
    (htop : s.stack.head?.map Marker.number ≠ some m.number) (hfree : ¬ s.Waits m.home m.number) :
    within m body s = match body { s with stack := m :: s.stack } with
      | (.halt h, s') => (.halt h, s')
      | (exit, s') => (exit, { s' with stack := s.stack }) := by
  have hnone : ¬ (s.stack.any fun held => held.home == m.home && held.number == m.number) = true :=
    fun hheld => hfree (waits_iff.mpr ⟨htop, hheld⟩)
  unfold within
  refine (if_neg htop).trans ((if_neg hnone).trans ?_)
  generalize body { s with stack := m :: s.stack } = out
  obtain ⟨exit, s'⟩ := out
  cases exit <;> rfl

theorem within_course {body : Relay → Exit ε α × Relay} (m : Marker) (s : Relay)
    (hbody : ∀ s', CourseOf loose calls exits s' (body s')) :
    CourseOf loose calls exits s (within m body s) := by
  by_cases htop : s.stack.head?.map Marker.number = some m.number
  · rw [within_of_top htop]
    exact hbody s
  by_cases hwaits : s.Waits m.home m.number
  · rw [within_of_waits hwaits]
    exact .waits hwaits
  · have hb := hbody { s with stack := m :: s.stack }
    rw [within_of_new htop hwaits]
    generalize body { s with stack := m :: s.stack } = out at hb
    obtain ⟨exit, s'⟩ := out
    cases exit with
    | halt h => exact .insideStuck m htop hwaits hb
    | ok | error | panic => exact .inside m htop hwaits hb

theorem enter_course (hx : x.Courses loose calls exits) {body : Relay → Exit ε α × Relay}
    (m : Marker) (s : Relay) (hbody : ∀ s', CourseOf loose calls exits s' (body s')) :
    CourseOf loose calls exits s (enter x m body s) := by
  have hw := within_course m s hbody
  unfold enter
  generalize within m body s = out at hw
  obtain ⟨exit, s'⟩ := out
  cases exit with
  | halt h => exact hw
  | ok | error | panic => exact .andThen hw (hx.others x.keeps s')

/-! ## Jobs of pooled engines -/

/-- A job that ends has run to its end, and one that does not has not begun. -/
theorem runJob_course (hcall : call.Courses loose calls exits) (keeps : Keeps) {job : Job}
    {before after : List Job} (hs : s.stack = []) (hq : s.queue = before ++ job :: after)
    (hfirst : ∀ other ∈ before, other.runsOn job.home job.number = false) :
    let ran := runJob call keeps job { s with queue := before ++ after }
    (ran.1 = none → Course loose calls exits s none ran.2 ∧ ran.2.stack = []) ∧
      ∀ reason, ran.1 = some reason →
        Course loose calls exits s none { s with stalled := some reason } := by
  dsimp only
  rw [runJob_eq]
  dsimp only
  generalize (_ || _ : Bool) = held
  obtain ⟨s₁, hs₁⟩ : ∃ s₁ : Relay, s₁ = { s with
      queue := before ++ after, stack := ⟨job.home, job.number, held⟩ :: s.stack } := ⟨_, rfl⟩
  have hb := runTarget_course hcall job.home job.target job.args s₁
  have hends := runTarget_ends hcall job.home job.target job.args s₁
  rw [within_of_new (by simp [hs]) (by simp [Waits, hs])]
  dsimp only
  rw [← hs₁]
  generalize runTarget call job.home job.target job.args s₁ = out at hb hends
  subst hs₁
  obtain ⟨exit, s'⟩ := out
  cases exit with
  | halt reason =>
    refine ⟨nofun, fun reason' hreason => ?_⟩
    cases hreason
    exact .stalled job held hs hq hb
  | ok | error | panic =>
    refine ⟨fun _ => ⟨.job job held _ hs hq hfirst rfl hends hb, ?_⟩, nofun⟩
    simpa using hs

theorem drain_course (hcall : call.Courses loose calls exits) (keeps : Keeps) (bound : Nat)
    (s : Relay) (hs : s.stack = []) :
    Course loose calls exits s none (drain call keeps bound s) := by
  induction bound generalizing s with
  | zero =>
    unfold drain
    split
    · exact .stay s
    · exact .exhausted s
  | succ bound ih =>
    unfold drain
    split
    · exact .stay s
    rename_i job rest hq
    have hfirst : s.queue = [] ++ job :: rest := hq
    obtain ⟨hended, hstuck⟩ := runJob_course hcall keeps hs hfirst nofun
    rw [List.nil_append] at hended hstuck
    generalize runJob call keeps job { s with queue := rest } = ran at hended hstuck ⊢
    obtain ⟨_ | reason, s'⟩ := ran
    · obtain ⟨hjob, hs'⟩ := hended rfl
      exact .andThen hjob (ih s' hs')
    · exact hstuck reason rfl

theorem settle_course (hcall : call.Courses loose calls exits) (bound : Nat) (keeps : Keeps)
    (s : Relay) : Course loose calls exits s none (settle call bound keeps s) := by
  unfold settle
  split
  · rename_i hempty
    exact drain_course hcall keeps bound s (List.isEmpty_iff.mp (Bool.and_eq_true_iff.mp hempty).1)
  · exact .stay s

/-! ## Targets -/

theorem invoke_course (hx : x.Courses loose calls exits) (w : Worker) (t : Target)
    (args : List Value) (s : Relay) : CourseOf loose calls exits s (invoke x w t args s) := by
  have hn : Course loose calls exits s none (s.note (.invoked w t args)) := note_course s _
  unfold invoke
  dsimp only
  split
  · exact .andThen hn (runTarget_course hx.call w.home t args _)
  · exact .andThen hn (enter_course (hx.keeping _) _ _ fun s' =>
      runTarget_course hx.call w.home t args s')

theorem submit_course (w : Worker) (t : Target) (args : List Value) (s : Relay) :
    Course loose calls exits s none (submit w t args s).2 := by
  unfold submit
  split
  · exact note_course s _
  split
  · rename_i i hk
    exact .andThen (note_course s (.submitted w t args true))
      (.change (.queuedInline w.home _ _ hk) (.putKind hk rfl))
  rename_i p hk
  split
  · rename_i hopen
    exact .andThen (note_course s (.submitted w t args true))
      (.submitted ⟨w.home, w.number, t, args⟩ hk hopen)
  · exact note_course s _

theorem handOver_course (hx : x.Courses loose calls exits) (w : Worker) (t : Target)
    (args : List Value) (s : Relay) :
    Course loose calls exits s none (handOver x w t args s).2 := by
  have h : Course loose calls exits s none (submit w t args s).2 := submit_course w t args s
  unfold handOver
  generalize submit w t args s = submitted at h
  obtain ⟨_ | _, s'⟩ := submitted
  · exact h
  · exact .andThen h (hx.others _ s')

theorem lease_course {refused : Cause → Relay → Exit ε α × Relay}
    {body : Worker → Relay → Exit ε α × Relay} (e : EngineId) (s : Relay)
    (hrefused : ∀ c s', CourseOf loose calls exits s' (refused c s'))
    (hbody : ∀ w s', CourseOf loose calls exits s' (body w s')) :
    CourseOf loose calls exits s ((host x e).lease refused body s) := by
  unfold Host.lease
  simp only [host, acquire]
  cases (s.engine e).refuseAcquire s.trace with
  | some text => exact .andThen (note_course s (.refused e)) (hrefused _ _)
  | none =>
    have hn : Course loose calls exits (s.take e).2 none
        ((s.take e).2.note (.acquired e (s.take e).1)) := note_course _ _
    have hb := hbody (s.take e).1 ((s.take e).2.note (.acquired e (s.take e).1))
    dsimp only
    generalize body (s.take e).1 _ = out at hb
    obtain ⟨exit, s'⟩ := out
    cases exit with
    | halt h => exact .leaseStuck e (.andThen hn hb)
    | ok | error | panic =>
      have hr : Course loose calls exits s' none (s'.note (.released e (s.take e).1)) :=
        note_course s' _
      exact .leased e (.andThen hn (.andThen hb hr))

/-! ## Inline engines and `inWorker` -/

theorem withWorker_course {body : Relay → Exit ε α × Relay} (e : EngineId) (s : Relay)
    (hbody : ∀ s', CourseOf loose calls exits s' (body s')) :
    CourseOf loose calls exits s (withWorker e body s).2 := by
  have hcurrent (s : Relay) (c : Option Nat) : Course loose calls exits s none (s.setCurrent e c) :=
    .change (.setCurrent e c) (.setCurrent e c)
  have hn : Course loose calls exits s none (s.newWorker e).2 :=
    .change (.newWorker e) (.newWorker e)
  unfold withWorker
  dsimp only
  have hb := Course.andThen (.andThen hn (hcurrent _ (some (s.newWorker e).1))) (hbody _)
  generalize body _ = out at hb
  obtain ⟨exit, s'⟩ := out
  cases exit with
  | halt | panic => exact hb
  | ok | error => exact .andThen hb (hcurrent s' _)

theorem inPooled_course (hx : x.Courses loose calls exits) {body : Relay → Exit ε α × Relay}
    (e : EngineId) (s : Relay) (hbody : ∀ s', CourseOf loose calls exits s' (body s')) :
    CourseOf loose calls exits s (inPooled x e body s).2 := by
  unfold inPooled
  have hb := enter_course hx ⟨(s.take e).1.home, (s.take e).1.number, true⟩ (s.take e).2 hbody
  dsimp only
  generalize enter x _ body (s.take e).2 = out at hb
  obtain ⟨exit, s'⟩ := out
  cases exit with
  | halt h => exact .leaseStuck e hb
  | ok | error | panic => exact .leased e hb

theorem inWorker_course (hx : x.Courses loose calls exits) {body : Relay → Exit ε α × Relay}
    (e : EngineId) (s : Relay) (hbody : ∀ s', CourseOf loose calls exits s' (body s')) :
    CourseOf loose calls exits s (inWorker x e body s).2 := by
  unfold inWorker
  split
  · exact withWorker_course e s hbody
  · exact inPooled_course hx e s hbody

theorem runPending_course (hx : x.Courses loose calls exits) (e : EngineId) (bound ran : Nat)
    (s : Relay) : CourseOf loose calls exits s (runPending x e bound ran s) := by
  induction bound generalizing ran s with
  | zero =>
    unfold runPending
    split
    · exact .stay s
    · exact .spent s
  | succ bound ih =>
    unfold runPending
    cases hn : s.nextJob? e with
    | none => exact .stay s
    | some next =>
      obtain ⟨job, s'⟩ := next
      have hs : Course loose calls exits s none s' := .change (.begun e job s' hn) (.nextJob? hn)
      have h := Course.andThen hs (runTarget_course hx.call e job.target job.args s')
      dsimp only
      generalize runTarget x.call e job.target job.args s' = out at h
      obtain ⟨exit, s''⟩ := out
      cases exit with
      | halt | panic => exact h
      | ok | error => exact .andThen h (ih _ s'')

end

end Relay
end EventRelay
