import EventRelay.Proofs.Host.Current

/-!
# EventRelay.Proofs.Engines.Twin

One relay on an inline engine and one on a pooled engine, side by side.

* `EnginePair`: the name of the engine, and what its modules export on either side.
* `EnginePair.Twin`: the two relays are equal but for the engine, the entered workers and the
  numbers of workers in the trace.
* `EnginePair.Alike`: the two sides of the same code, which end the same way and in twins again.
* `dispatch_alike`, `emit_alike`, `call_alike` and their like: emissions and calls do, if calls of
  functions do.
-/

namespace EventRelay

/-- An interaction with a worker that is not told apart from others. -/
def Interaction.anonymous : Interaction → Interaction
  | acquired e _ => acquired e ⟨0, 0, 0⟩
  | refused e => refused e
  | released e _ => released e ⟨0, 0, 0⟩
  | invoked _ t args => invoked ⟨0, 0, 0⟩ t args
  | submitted _ t args taken => submitted ⟨0, 0, 0⟩ t args taken

/-- A relay with the engines, the entered workers and the trace of another one. -/
def Relay.on (s host : Relay) : Relay :=
  { s with engines := host.engines, stack := host.stack, trace := host.trace }

/-- The name of an engine, and its exports if it is an inline and if it is a pooled one. -/
structure EnginePair where
  name : String
  exports : Modules
  modules : Modules

namespace EnginePair

open Relay

/-! ## Twins -/

/-- Whether a module reference resolves to one function on both engines. -/
def agrees (o : EnginePair) (module name : String) : Bool :=
  match o.exports.find? module name with
  | some f => o.modules.find? module name == some f
  | none => false

/-- A target that is the same function on both engines. -/
def Reaches (o : EnginePair) : Target → Prop
  | .function _ => True
  | .export module name => o.agrees module name = true

/-- A listener that is waited for and bound to no worker. -/
structure Plain (o : EnginePair) (l : Listener) : Prop where
  mode : l.mode = .sync
  binding : l.binding = .lazy
  target : o.Reaches l.target

/-- What either relay keeps beside its engine. -/
structure Known (o : EnginePair) (s : Relay) : Prop where
  named : Names.look o.name s.names.engines = some 0
  queue : s.queue = []
  engines : ∀ a, (s.adapter a).engine = 0
  tidy : ∀ a, (s.adapter a).listeners.Tidy
  plain : ∀ a event, ∀ l ∈ (s.adapter a).listeners.find event, o.Plain l

/-- The engines, after the same requests. -/
structure Hosts (o : EnginePair) (i : InlineEngine) (p : PooledEngine) (s s' : Relay) : Prop where
  inline : (s.engine 0).kind = .inline i
  pooled : (s'.engine 0).kind = .pooled p
  sizes : s.engines.size = 1 ∧ s'.engines.size = 1
  grants : ∀ t, (s.engine 0).refuseAcquire t = none ∧ (s'.engine 0).refuseAcquire t = none
  exports : i.exports = o.exports ∧ p.modules = o.modules
  current : i.current = none
  acquired : i.acquired = p.pool.acquired
  released : i.released = p.pool.released
  run : ∃ ms, Pool.Run p.config.maxIdle ms p.pool
  /-- The thread is inside leased workers. -/
  inside : ∀ m ∈ s'.stack, m.number ∈ p.pool.leased
  trace : s'.trace.map Interaction.anonymous = s.trace.map Interaction.anonymous

structure Twin (o : EnginePair) (s s' : Relay) : Prop where
  same : s' = s.on s'
  known : o.Known s
  hosts : ∃ i p, o.Hosts i p s s'

/-- The two sides of the same code, entered in twins: they end the same way and, if control leaves,
in twins. By then the thread has left the workers that it entered, and the leases are as before. -/
structure Alike {ε α : Type} (o : EnginePair) (s' : Relay) (out out' : Exit ε α × Relay) :
    Prop where
  exit : out'.1 = out.1
  twin : out.1.halt? = none → o.Twin out.2 out'.2
  stack : out.1.halt? = none → out'.2.stack = s'.stack
  leases : out.1.halt? = none → out'.2.leasedOf 0 = s'.leasedOf 0

/-- Two runners that call functions alike. Beside the pooled engine, other threads have nothing to
do where no job waits. -/
structure Callers (o : EnginePair) (x x' : Runner) : Prop where
  call : ∀ f args s s', o.Twin s s' → o.Alike s' (x.call f args s) (x'.call f args s')
  quiet : ∀ keeps s, s.queue = [] → x'.others keeps s = s

section

variable {o : EnginePair} {s s' s₁ s₁' : Relay}

theorem Twin.adapter (h : o.Twin s s') (a : AdapterId) : s'.adapter a = s.adapter a := by
  rw [h.same]
  rfl

theorem Twin.names (h : o.Twin s s') : s'.names = s.names := by
  rw [h.same]
  rfl

theorem Twin.handles (h : o.Twin s s') : s'.handles = s.handles := by
  rw [h.same]
  rfl

theorem Twin.queue (h : o.Twin s s') : s'.queue = [] := by
  rw [h.same]
  exact h.known.queue

theorem Alike.refl {ε α : Type} (h : o.Twin s s') (exit : Exit ε α) :
    o.Alike s' (exit, s) (exit, s') :=
  ⟨rfl, fun _ => h, fun _ => rfl, fun _ => rfl⟩

theorem Alike.after {ε ε' α α' : Type} {out₁ out₁' : Exit ε α × Relay}
    {out out' : Exit ε' α' × Relay} (h₁ : o.Alike s' out₁ out₁') (hleft : out₁.1.halt? = none)
    (h : o.Alike out₁'.2 out out') : o.Alike s' out out' :=
  ⟨h.exit, h.twin, fun hl => (h.stack hl).trans (h₁.stack hleft),
    fun hl => (h.leases hl).trans (h₁.leases hleft)⟩

theorem Alike.exits {ε ε' α α' : Type} {out out' : Exit ε α × Relay} (h : o.Alike s' out out')
    {exit : Exit ε' α'} (hexit : exit.halt? = none → out.1.halt? = none) :
    o.Alike s' (exit, out.2) (exit, out'.2) :=
  ⟨rfl, fun hl => h.twin (hexit hl), fun hl => h.stack (hexit hl), fun hl => h.leases (hexit hl)⟩

theorem Alike.dest {ε α : Type} {out out' : Exit ε α × Relay} (h : o.Alike s' out out') :
    ∃ exit s₁ s₁', out = (exit, s₁) ∧ out' = (exit, s₁') ∧
      o.Alike s' (exit, s₁) (exit, s₁') := by
  obtain ⟨exit, s₁⟩ := out
  obtain ⟨exit', s₁'⟩ := out'
  obtain rfl : exit' = exit := h.exit
  exact ⟨exit', s₁, s₁', rfl, rfl, h⟩

theorem Alike.halt {ε α : Type} (reason : Halt) (s₁ s₁' : Relay) :
    o.Alike s' ((.halt reason : Exit ε α), s₁) (.halt reason, s₁') :=
  ⟨rfl, nofun, nofun, nofun⟩

theorem Known.of_eq (h : o.Known s) (hnames : s₁.names.engines = s.names.engines)
    (hqueue : s₁.queue = s.queue) (hadapters : s₁.adapters = s.adapters) : o.Known s₁ := by
  have hadapter (a : AdapterId) : s₁.adapter a = s.adapter a := by
    unfold adapter
    rw [hadapters]
  exact {
    named := hnames ▸ h.named
    queue := hqueue ▸ h.queue
    engines := fun a => hadapter a ▸ h.engines a
    tidy := fun a => hadapter a ▸ h.tidy a
    plain := fun a => hadapter a ▸ h.plain a }

theorem Twin.known' (h : o.Twin s s') : o.Known s' := by
  rw [h.same]
  exact h.known.of_eq rfl rfl rfl

/-- One state, with the engines, entered workers and traces of twins. -/
theorem Twin.on (h : o.Twin s s') (hs : s₁ = s₁.on s) (hknown : o.Known s₁) :
    o.Twin s₁ (s₁.on s') where
  same := rfl
  known := hknown
  hosts := by
    have hengine : s₁.engine 0 = s.engine 0 := by
      rw [hs]
      rfl
    have hsize : s₁.engines.size = s.engines.size := by
      rw [hs]
      rfl
    have htrace : s₁.trace = s.trace := by
      rw [hs]
      rfl
    obtain ⟨i, p, hosts⟩ := h.hosts
    exact ⟨i, p, {
      inline := hengine ▸ hosts.inline
      pooled := hosts.pooled
      sizes := ⟨hsize.trans hosts.sizes.1, hosts.sizes.2⟩
      grants := fun t => hengine ▸ hosts.grants t
      exports := hosts.exports
      current := hosts.current
      acquired := hosts.acquired
      released := hosts.released
      run := hosts.run
      inside := hosts.inside
      trace := htrace ▸ hosts.trace }⟩

/-- Updates that leave the engines, the entered workers and the trace alone are the same on both
sides. -/
theorem Twin.update {ε α : Type} {exit : Exit ε α} (h : o.Twin s s') (f : Relay → Relay)
    (hf : ∀ host, f (s.on host) = (f s).on host) (hknown : o.Known (f s)) :
    o.Alike s' (exit, f s) (exit, f s') := by
  have hs' : f s' = (f s).on s' := (congrArg f h.same).trans (hf s')
  rw [hs']
  exact ⟨rfl, fun _ => h.on (hf s) hknown, fun _ => rfl, fun _ => rfl⟩

theorem Twin.query {ε α : Type} (h : o.Twin s s') (f : Relay → Exit ε α)
    (hf : ∀ host, f (s.on host) = f s) : o.Alike s' (f s, s) (f s', s') := by
  have heq : f s' = f s := (congrArg f h.same).trans (hf s')
  rw [heq]
  exact .refl h (f s)

/-! ## Workers -/

theorem Twin.note (h : o.Twin s s') {i i' : Interaction} (hi : i'.anonymous = i.anonymous) :
    o.Twin (s.note i) (s'.note i') where
  same := by
    rw [h.same]
    rfl
  known := h.known.of_eq rfl rfl rfl
  hosts := by
    obtain ⟨i, p, hosts⟩ := h.hosts
    exact ⟨i, p, { hosts with trace := by simp [Relay.note, hosts.trace, hi] }⟩

theorem Twin.putStack (h : o.Twin s s') {stack : List Marker}
    (hin : ∀ m ∈ stack, m.number ∈ s'.leasedOf 0) : o.Twin s { s' with stack := stack } where
  same := by
    rw [h.same]
    rfl
  known := h.known
  hosts := by
    obtain ⟨i, p, hosts⟩ := h.hosts
    rw [leasedOf_pooled hosts.pooled] at hin
    exact ⟨i, p, { hosts with inside := hin }⟩

theorem Twin.inside (h : o.Twin s s') : ∀ m ∈ s'.stack, m.number ∈ s'.leasedOf 0 := by
  obtain ⟨i, p, hosts⟩ := h.hosts
  rw [leasedOf_pooled hosts.pooled]
  exact hosts.inside

theorem size_putKind (h : s.engines.size = 1) (kind : EngineKind) :
    (s.putKind 0 kind).engines.size = 1 := by
  obtain ⟨engine, hrows⟩ := List.length_eq_one_iff.mp h
  simp [Relay.putKind, putEngine, Table.put, Table.size, hrows, Table.putRow]

theorem Twin.putKind (h : o.Twin s s') {i i₁ : InlineEngine} {p p₁ : PooledEngine}
    (hosts : o.Hosts i p s s') (hexports : i₁.exports = i.exports)
    (hcurrent : i₁.current = i.current) (hmodules : p₁.modules = p.modules)
    (hacquired : i₁.acquired = p₁.pool.acquired) (hreleased : i₁.released = p₁.pool.released)
    (hrun : ∃ ms, Pool.Run p₁.config.maxIdle ms p₁.pool)
    (hin : ∀ m ∈ s'.stack, m.number ∈ p₁.pool.leased) :
    o.Twin (s.putKind 0 (.inline i₁)) (s'.putKind 0 (.pooled p₁)) where
  same := by
    rw [h.same]
    rfl
  known := h.known.of_eq rfl rfl rfl
  hosts := by
    refine ⟨i₁, p₁, ?_⟩
    exact {
      inline := kind_putKind s 0 _
      pooled := kind_putKind s' 0 _
      sizes := ⟨size_putKind hosts.sizes.1 _, size_putKind hosts.sizes.2 _⟩
      grants := by
        simp only [Relay.putKind, engine_putEngine, if_pos]
        exact hosts.grants
      exports := ⟨hexports.trans hosts.exports.1, hmodules.trans hosts.exports.2⟩
      current := hcurrent.trans hosts.current
      acquired := hacquired
      released := hreleased
      run := hrun
      inside := hin
      trace := hosts.trace }

/-- Workers that both sides hold on a lease, and are not inside of. -/
structure Handed (s' : Relay) (w w' : Worker) : Prop where
  home : w.home = 0 ∧ w'.home = 0
  leased : w'.number ∈ s'.leasedOf 0
  free : ∀ m ∈ s'.stack, m.number ≠ w'.number

theorem Twin.take (h : o.Twin s s') : o.Twin (s.take 0).2 (s'.take 0).2 := by
  obtain ⟨i, p, hosts⟩ := h.hosts
  obtain ⟨ms, hrun⟩ := hosts.run
  obtain ⟨hacquired, hreleased⟩ := p.pool.acquire_counts
  rw [take_pooled hosts.pooled]
  simp only [Relay.take, hosts.inline]
  refine h.putKind hosts rfl rfl rfl ?_ ?_ ⟨_, hrun.step .acquire⟩ fun m hm => ?_
  · rw [hacquired, hosts.acquired]
  · rw [hreleased, hosts.released]
  · dsimp only
    rw [p.pool.acquire_leased]
    exact List.mem_cons_of_mem _ (hosts.inside m hm)

/-- Both engines grant a worker, and the pool one that is not leased. -/
theorem Twin.acquire (h : o.Twin s s') : ∃ w w' s₁ s₁', s.acquire 0 = (.ok w, s₁) ∧
    s'.acquire 0 = (.ok w', s₁') ∧ o.Twin s₁ s₁' ∧ Handed s₁' w w' ∧ s₁'.stack = s'.stack ∧
    s₁'.leasedOf 0 = w'.number :: s'.leasedOf 0 := by
  obtain ⟨i, p, hosts⟩ := h.hosts
  obtain ⟨ms, hrun⟩ := hosts.run
  have hfree : p.pool.acquire.1 ∉ p.pool.leased := hrun.exclusive.grants_free
  have hw : (s.take 0).1.home = 0 := by simp only [Relay.take, hosts.inline]
  have hw' : (s'.take 0).1 = ⟨0, p.pool.acquire.1, 0⟩ := by rw [take_pooled hosts.pooled]
  have hleased : (s'.take 0).2.leasedOf 0 = (s'.take 0).1.number :: s'.leasedOf 0 := by
    rw [take_leasedOf, if_pos ⟨rfl, isSome_poolOf.mpr ⟨p, hosts.pooled⟩⟩]
  refine ⟨(s.take 0).1, (s'.take 0).1, (s.take 0).2.note (.acquired 0 (s.take 0).1),
    (s'.take 0).2.note (.acquired 0 (s'.take 0).1), ?_, ?_, h.take.note rfl,
    ⟨⟨hw, by rw [hw']⟩, ?_, ?_⟩, take_stack s' 0, hleased⟩
  · simp only [Relay.acquire, (hosts.grants _).1]
  · simp only [Relay.acquire, (hosts.grants _).2]
  · exact hleased ▸ List.mem_cons_self
  · intro m hm heq
    have hm' : m ∈ s'.stack := take_stack s' 0 ▸ hm
    have hm'' := hosts.inside m hm'
    rw [heq, hw'] at hm''
    exact hfree hm''

theorem Twin.release (h : o.Twin s s') {w w' : Worker} (hw : Handed s' w w') :
    o.Twin (s.release 0 w) (s'.release 0 w') ∧ (s'.release 0 w').stack = s'.stack ∧
      (s'.release 0 w').leasedOf 0 = (s'.leasedOf 0).erase w'.number := by
  have hn : o.Twin (s.note (.released 0 w)) (s'.note (.released 0 w')) := h.note rfl
  obtain ⟨i, p, hosts⟩ := hn.hosts
  obtain ⟨ms, hrun⟩ := hosts.run
  have hmem : w'.number ∈ p.pool.leased := by
    rw [← leasedOf_pooled hosts.pooled]
    exact hw.leased
  obtain ⟨pool, hpool, hleased, hacquired, hreleased⟩ := Pool.release_of_leased hmem
  have hstep := Pool.Step.release (p := p.pool) w'.number
  rw [hpool] at hstep
  refine ⟨?_, giveBack_stack _ 0 _, giveBack_leasedOf _ 0 0 _⟩
  simp only [Relay.release, giveBack, hosts.inline, hosts.pooled, hpool]
  refine hn.putKind hosts rfl rfl rfl ?_ ?_ ⟨_, hrun.step hstep⟩ fun m hm => ?_
  · rw [hacquired, hosts.acquired]
  · rw [hreleased, hosts.released]
  · have hne : m.number ≠ w'.number := hw.free m hm
    rw [hleased]
    exact (List.mem_erase_of_ne hne).mpr (hosts.inside m hm)

/-- What runs with a leased worker is alike if it is for all workers. -/
theorem lease_alike {ε α : Type} {x x' : Runner}
    {refused refused' : Cause → Relay → Exit ε α × Relay}
    {body body' : Worker → Relay → Exit ε α × Relay} (h : o.Twin s s')
    (hbody : ∀ w w' s₁ s₁', o.Twin s₁ s₁' → Handed s₁' w w' →
      o.Alike s₁' (body w s₁) (body' w' s₁')) :
    o.Alike s' ((host x 0).lease refused body s) ((host x' 0).lease refused' body' s') := by
  obtain ⟨w, w', s₁, s₁', hacquire, hacquire', htwin, hw, hstack, hleased⟩ := h.acquire
  obtain ⟨exit, s₂, s₂', hout, hout', hb⟩ := (hbody w w' s₁ s₁' htwin hw).dest
  simp only [Host.lease, host, hacquire, hacquire', hout, hout']
  cases exit with
  | halt reason => exact .halt reason s₂ s₂'
  | ok | error | panic =>
    have hstack₂ : s₂'.stack = s₁'.stack := hb.stack rfl
    have hleased₂ : s₂'.leasedOf 0 = s₁'.leasedOf 0 := hb.leases rfl
    have hw₂ : Handed s₂' w w' := ⟨hw.home, hleased₂ ▸ hw.leased, hstack₂ ▸ hw.free⟩
    obtain ⟨htwin₃, hstack₃, hleased₃⟩ := (hb.twin rfl).release hw₂
    refine ⟨rfl, fun _ => htwin₃, fun _ => ?_, fun _ => ?_⟩
    · exact hstack₃.trans (hstack₂.trans hstack)
    · dsimp only
      rw [hleased₃, hleased₂, hleased, List.erase_cons_head]

/-! ## Targets -/

variable {x x' : Runner}

/-- On both sides a target stands for one function. -/
theorem callee_alike (h : o.Twin s s') {t : Target} (ht : o.Reaches t) :
    ∃ f, s.callee 0 t = .ok f ∧ s'.callee 0 t = .ok f := by
  obtain ⟨i, p, hosts⟩ := h.hosts
  cases t with
  | function f => exact ⟨f, rfl, rfl⟩
  | «export» module name =>
    have hagrees : o.agrees module name = true := ht
    unfold agrees at hagrees
    split at hagrees
    · rename_i f hf
      have hf' : o.modules.find? module name = some f := by simpa using hagrees
      refine ⟨f, ?_, ?_⟩
      · simp only [callee, hosts.inline, hosts.exports, hf]
      · simp only [callee, hosts.pooled, hosts.exports, Modules.resolve, hf']
    · cases hagrees

theorem runTarget_alike (hx : o.Callers x x') (h : o.Twin s s') {t : Target} (ht : o.Reaches t)
    (args : List Value) :
    o.Alike s' (runTarget x.call 0 t args s) (runTarget x'.call 0 t args s') := by
  obtain ⟨f, hf, hf'⟩ := callee_alike h ht
  simp only [runTarget, hf, hf']
  exact hx.call f args s s' h

theorem Callers.keeping (hx : o.Callers x x') (held held' : Keeps) :
    o.Callers (x.keeping held) (x'.keeping held') :=
  ⟨hx.call, hx.quiet⟩

/-- A leased worker that the thread is not inside of can be entered and left. -/
theorem enter_alike {ε α : Type} (hx : o.Callers x x') {body body' : Relay → Exit ε α × Relay}
    (h : o.Twin s s') {number : Nat} (hleased : number ∈ s'.leasedOf 0)
    (hfree : ∀ m ∈ s'.stack, m.number ≠ number)
    (hbody : ∀ s₁', o.Twin s s₁' → o.Alike s₁' (body s) (body' s₁')) :
    o.Alike s' (body s) (enter x' ⟨0, number, true⟩ body' s') := by
  have htop : s'.stack.head?.map Marker.number ≠ some number := by
    intro hhead
    obtain ⟨m, hm, hnumber⟩ := Option.map_eq_some_iff.mp hhead
    exact hfree m (List.mem_of_mem_head? hm) hnumber
  have hopen : ¬ s'.Waits 0 number := by
    rintro ⟨-, m, hm, -, hnumber⟩
    exact hfree m hm hnumber
  have hin : ∀ m ∈ (⟨0, number, true⟩ : Marker) :: s'.stack, m.number ∈ s'.leasedOf 0 := by
    rw [List.forall_mem_cons]
    exact ⟨hleased, h.inside⟩
  obtain ⟨exit, s₁, s₁', hout, hout', hb⟩ := (hbody _ (h.putStack hin)).dest
  unfold enter
  rw [within_of_new htop hopen, hout, hout']
  cases exit with
  | halt reason => exact .halt reason s₁ s₁'
  | ok | error | panic =>
    have hleases : s₁'.leasedOf 0 = s'.leasedOf 0 := hb.leases rfl
    have htwin : o.Twin s₁ { s₁' with stack := s'.stack } :=
      (hb.twin rfl).putStack (hleases ▸ h.inside)
    dsimp only
    rw [Runner.meanwhile, hx.quiet _ _ htwin.queue]
    exact ⟨rfl, fun _ => htwin, fun _ => rfl, fun _ => hleases⟩

theorem invoke_alike (hx : o.Callers x x') (h : o.Twin s s') {w w' : Worker} (hw : Handed s' w w')
    {t : Target} (ht : o.Reaches t) (args : List Value) :
    o.Alike s' (invoke x w t args s) (invoke x' w' t args s') := by
  obtain ⟨home, number, via⟩ := w
  obtain ⟨home', number', via'⟩ := w'
  obtain ⟨rfl, rfl⟩ : home = 0 ∧ home' = 0 := hw.home
  have hn : o.Twin (s.note (.invoked ⟨0, number, via⟩ t args))
      (s'.note (.invoked ⟨0, number', via'⟩ t args)) := h.note rfl
  obtain ⟨i, p, hosts⟩ := hn.hosts
  have hx' : o.Callers (x.keepingWorker ⟨0, number, via⟩) (x'.keepingWorker ⟨0, number', via'⟩) :=
    hx.keeping _ _
  have he := enter_alike hx' hn hw.leased hw.free fun s₁' h₁ => runTarget_alike hx h₁ ht args
  simp only [invoke, hosts.inline, hosts.pooled]
  exact ⟨he.exit, he.twin, he.stack, he.leases⟩

/-! ## Emissions -/

theorem runOn_alike (hx : o.Callers x x') (h : o.Twin s s') {w w' : Worker} (hw : Handed s' w w')
    (event : String) {l : Listener} (hl : o.Plain l) (args : List Value) :
    o.Alike s' ((host x 0).runOn event l args w s) ((host x' 0).runOn event l args w' s') := by
  obtain ⟨exit, s₁, s₁', hout, hout', hi⟩ := (invoke_alike hx h hw hl.target args).dest
  simp only [Host.runOn, host, hl.mode, hout, hout']
  cases exit <;> exact hi.exits id

theorem dispatch_alike (hx : o.Callers x x') (h : o.Twin s s') (event : String) {l : Listener}
    (hl : o.Plain l) (args : List Value) :
    o.Alike s' ((host x 0).dispatch event l args s) ((host x' 0).dispatch event l args s') := by
  simp only [Host.dispatch, hl.binding]
  exact lease_alike h fun w w' s₁ s₁' h₁ hw => runOn_alike hx h₁ hw event hl args

theorem emitTo_alike (hx : o.Callers x x') (event : String) (args : List Value)
    {ls : List Listener} (hls : ∀ l ∈ ls, o.Plain l) (h : o.Twin s s') :
    o.Alike s' ((host x 0).emitTo event args ls s) ((host x' 0).emitTo event args ls s') := by
  induction ls generalizing s s' with
  | nil => exact .refl h _
  | cons l rest ih =>
    obtain ⟨hl, hrest⟩ := List.forall_mem_cons.mp hls
    obtain ⟨exit, s₁, s₁', hout, hout', hd⟩ := (dispatch_alike hx h event hl args).dest
    simp only [Host.emitTo, hout, hout']
    cases exit with
    | ok => exact hd.after rfl (ih hrest (hd.twin rfl))
    | error | panic | halt => exact hd

/-- Both sides emit to the same listeners. -/
theorem emit_alike (hx : o.Callers x x') (h : o.Twin s s') (a : AdapterId) (event : String)
    (args : List Value) : o.Alike s' (emit x a event args s) (emit x' a event args s') := by
  have hx' : o.Callers (emitting x a event ((s.adapter a).listeners.find event))
      (emitting x' a event ((s.adapter a).listeners.find event)) := hx.keeping _ _
  simp only [emit, Host.emit, h.adapter, h.known.engines]
  exact emitTo_alike hx' event args (h.known.plain a event) h

/-! ## Calls -/

theorem forward_alike (hx : o.Callers x x') (h : o.Twin s s') (a : AdapterId) (slot : Slot)
    (args : List Value) : o.Alike s' (forward x a slot args s) (forward x' a slot args s') := by
  unfold forward
  split
  · exact .refl h _
  obtain ⟨exit, s₁, s₁', hout, hout', he⟩ := (emit_alike hx h a slot.name args).dest
  rw [hout, hout']
  cases exit <;> exact he.exits id

theorem call_alike (hx : o.Callers x x') (h : o.Twin s s') (a : AdapterId) (method : String)
    (args : List Value) : o.Alike s' (call x a method args s) (call x' a method args s') := by
  unfold call
  rw [h.adapter]
  split
  · exact forward_alike hx h a _ args
  · exact .refl h _

theorem callSlot_alike (hx : o.Callers x x') (h : o.Twin s s') (a : AdapterId) (index : Nat)
    (args : List Value) : o.Alike s' (callSlot x a index args s) (callSlot x' a index args s') := by
  unfold callSlot
  rw [h.adapter]
  split
  · exact forward_alike hx h a _ args
  · exact .refl h _

theorem callDeclared_alike (hx : o.Callers x x') (h : o.Twin s s') (a : AdapterId) (index : Nat)
    (m : Interface.DeclaredMethod) (args : List Value) :
    o.Alike s' (callDeclared x a index m args s) (callDeclared x' a index m args s') := by
  obtain ⟨exit, s₁, s₁', hout, hout', hc⟩ :=
    (callSlot_alike hx h a index (List.zipWith convertArgument m.params args)).dest
  simp only [callDeclared, hout, hout']
  cases exit with
  | ok v =>
    dsimp only
    split <;> exact hc.exits fun _ => rfl
  | error | panic | halt => exact hc.exits id

end

end EnginePair
end EventRelay
