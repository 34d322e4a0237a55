import EventRelay.Proofs.Engines.Portable

/-!
# EventRelay.Proofs.Engines.Independence

Sessions that are the same on an inline engine and on a pooled one.

* `ReportOf.anonymous`: the report on a step without the identities of workers.
* `runSteps_alike`: listed steps have the same reports, if calls of functions are alike.
* `callAt_alike`: the functions of a portable program are, by induction on how deep calls nest.
* `sync_dispatch_independent`: whole sessions are the same.
-/

namespace EventRelay

/-- The report on a step without the identities of workers. -/
def ReportOf.anonymous {ρ : Type} (r : ReportOf ρ) : ReportOf ρ :=
  { r with trace := r.trace.map Interaction.anonymous }

namespace EnginePair

open Relay Script

section

variable {o : EnginePair} {s s' : Relay} {x x' : Runner}

/-! ## Sessions -/

/-- Listed steps on both sides: they have the same answers and, if they end, leave twins. -/
structure Reports (o : EnginePair) (out out' : Except Halt (List Report) × Relay) : Prop where
  reports : out'.1.map (List.map ReportOf.anonymous) = out.1.map (List.map ReportOf.anonymous)
  twin : ∀ reports, out.1 = .ok reports → o.Twin out.2 out'.2

theorem report_alike (h : o.Twin s s') (result : Except Panic Reply) :
    (report result s').1.anonymous = (report result s).1.anonymous ∧
      o.Twin (report result s).2 (report result s').2 := by
  obtain ⟨i, p, hosts⟩ := h.hosts
  -- The reports count what is new in the traces, which differ in nothing but workers.
  have hlength : s'.trace.length = s.trace.length := by
    simpa using congrArg List.length hosts.trace
  have hrest : s'.log = s.log ∧ s'.inner = s.inner ∧ s'.warnings = s.warnings ∧
      s'.reported = s.reported := by
    rw [h.same]
    exact ⟨rfl, rfl, rfl, rfl⟩
  obtain ⟨hlog, hinner, hwarnings, hreported⟩ := hrest
  refine ⟨?_, ?_⟩
  · simp only [report, ReportOf.anonymous, hlog, hinner, hwarnings, hreported, List.map_drop,
      hosts.trace]
  · have hlengths : (⟨s'.log.length, s'.inner.length, s'.trace.length, s'.warnings.length⟩ :
        Reported) = ⟨s.log.length, s.inner.length, s.trace.length, s.warnings.length⟩ := by
      rw [hlog, hinner, hlength, hwarnings]
    have hu : o.Alike s' ((.ok () : Exit Unit Unit), _) (_, _) := h.update (fun r => { r with
      reported := ⟨s.log.length, s.inner.length, s.trace.length, s.warnings.length⟩ })
      (fun _ => rfl) (h.known.of_eq rfl rfl rfl)
    simp only [report]
    rw [hlengths]
    exact hu.twin rfl

theorem Reports.following {first first' : Report} {out out' : Except Halt (List Report) × Relay}
    (h : o.Reports out out') (hfirst : first'.anonymous = first.anonymous) :
    o.Reports (following first out) (following first' out') := by
  obtain ⟨reports, s⟩ := out
  obtain ⟨reports', s'⟩ := out'
  have hreports := h.reports
  cases reports with
  | error reason =>
    cases reports' with
    | error reason' => exact ⟨hreports, nofun⟩
    | ok reports' => cases hreports
  | ok reports =>
    cases reports' with
    | error reason' => cases hreports
    | ok reports' =>
      have htail : reports'.map ReportOf.anonymous = reports.map ReportOf.anonymous :=
        Except.ok.inj hreports
      refine ⟨?_, fun _ _ => h.twin reports rfl⟩
      simp only [Script.following, Except.map, List.map_cons, hfirst, htail]

/-- Where nothing waits, nothing is waited for. -/
theorem Known.endless (h : o.Known s) : s.endless? = none := by
  simp [endless?, h.queue]

theorem runSteps_alike (hx : o.Callers x x') {steps : List Step}
    (hsteps : steps.all (Step.portable o false) = true) (h : o.Twin s s') (hout : s'.stack = []) :
    o.Reports (runSteps x steps s) (runSteps x' steps s') := by
  -- Induction on the steps. Each starts outside of all workers, as the whole session does.
  induction steps generalizing s s' with
  | nil =>
    unfold runSteps
    exact ⟨rfl, fun _ _ => h⟩
  | cons step rest ih =>
    obtain ⟨hstep, hrest⟩ := Bool.and_eq_true_iff.mp hsteps
    obtain ⟨exit, s₁, s₁', hran, hran', hs⟩ := (runStep_alike hx h (fun _ => hout) step hstep).dest
    cases hresult : resultOf exit with
    | none =>
      obtain ⟨reason, rfl⟩ := halt_of_resultOf hresult
      rw [runSteps_of_halt hran, runSteps_of_halt hran']
      refine ⟨rfl, ?_⟩
      intro _ hok
      cases hok
    | some result =>
      have hleft : exit.halt? = none := Exit.halt?_of_leaves (leaves_of_resultOf hresult)
      have htwin : o.Twin s₁ s₁' := hs.twin hleft
      rw [runSteps_of_result hran hresult htwin.known.endless,
        runSteps_of_result hran' hresult htwin.known'.endless]
      have hreport := report_alike htwin result
      exact (ih hrest hreport.2 ((hs.stack hleft).trans hout)).following hreport.1

/-! ## Functions -/

/-- Where no job waits, threads that run jobs do nothing. -/
theorem settle_of_quiet (call : Caller) (bound : Nat) (keeps : Keeps) (s : Relay)
    (h : s.queue = []) : settle call bound keeps s = s := by
  unfold settle
  split
  · cases bound <;> simp [drain, h]
  · rfl

theorem runActions_alike (hx : o.Callers x x') (f : Function) (args : List Value)
    {actions : List Action} (hactions : actions.all (Action.portable o) = true)
    (h : o.Twin s s') :
    o.Alike s' (runActions x f args actions s) (runActions x' f args actions s') := by
  -- Induction on the actions, which may run inside a worker of the pooled engine.
  induction actions generalizing s s' with
  | nil =>
    unfold runActions
    exact .refl h _
  | cons action rest ih =>
    obtain ⟨haction, hrest⟩ := Bool.and_eq_true_iff.mp hactions
    have hinner (reply : Reply) {r r' : Relay} (hr : o.Twin r r') (exit : Exit Cause Value) :
        o.Alike r' (exit, noteInner reply r) (exit, noteInner reply r') :=
      hr.update (noteInner reply) (fun _ => rfl) (hr.known.of_eq rfl rfl rfl)
    have hinside : true = false → s'.stack = [] := by simp
    cases action with
    | record =>
      have hr : o.Alike s' ((.ok () : Exit Unit Unit), _) (_, _) :=
        h.update (fun r => r.record (.str f.id :: args)) (fun _ => rfl) (h.known.of_eq rfl rfl rfl)
      simp only [runActions]
      exact hr.after rfl (ih hrest (hr.twin rfl))
    | recordWorker engine => cases haction
    | fail | panic | ret =>
      simp only [runActions]
      exact .refl h _
    | retArg index =>
      simp only [runActions]
      split <;> exact .refl h _
    | retInt index =>
      simp only [runActions]
      split <;> exact .refl h _
    | step step =>
      obtain ⟨exit, s₁, s₁', hout, hout', hs⟩ :=
        (runStep_alike hx h hinside step haction).dest
      simp only [runActions, hout, hout']
      have hrun (hleft : exit.halt? = none) (reply : Reply) :
          o.Alike s' (runActions x f args rest (noteInner reply s₁))
            (runActions x' f args rest (noteInner reply s₁')) := by
        have hn := hinner reply (hs.twin hleft) (.ok .null)
        exact hs.after hleft (hn.after rfl (ih hrest (hn.twin rfl)))
      cases exit with
      | ok reply => exact hrun rfl reply
      | error fault => exact hrun rfl (.fault fault)
      | panic | halt => exact hs.exits id
    | attempt step =>
      obtain ⟨exit, s₁, s₁', hout, hout', hs⟩ :=
        (runStep_alike hx h hinside step haction).dest
      simp only [runActions, hout, hout']
      cases exit with
      | ok reply =>
        have hn := hinner reply (hs.twin rfl) (.ok .null)
        exact hs.after rfl (hn.after rfl (ih hrest (hn.twin rfl)))
      | error fault => exact hs.after rfl (hinner (.fault fault) (hs.twin rfl) _)
      | panic | halt => exact hs.exits id

theorem behave_alike (hx : o.Callers x x') {b : Behaviour} (hb : b.portable o = true)
    (f : Function) (args : List Value) (h : o.Twin s s') :
    o.Alike s' (behave x b f args s) (behave x' b f args s') := by
  cases b with
  | returning v =>
    exact h.update (fun r => r.record args) (fun _ => rfl) (h.known.of_eq rfl rfl rfl)
  | tagged tag =>
    exact h.update (fun r => r.record (tag :: args)) (fun _ => rfl) (h.known.of_eq rfl rfl rfl)
  | opener gate =>
    exact h.update (fun r => { r with gates := gate :: r.gates }) (fun _ => rfl)
      (h.known.of_eq rfl rfl rfl)
  | blocker gate =>
    have hgates : s'.gates = s.gates := by
      rw [h.same]
      rfl
    simp only [behave, hgates]
    split <;> exact .refl h _
  | body actions limit =>
    have hcalls : s'.calls = s.calls := by
      rw [h.same]
      rfl
    have hc : o.Alike s' ((.ok () : Exit Unit Unit), _) (_, _) :=
      h.update (fun r => { r with calls := f.id :: s.calls }) (fun _ => rfl)
        (h.known.of_eq rfl rfl rfl)
    have hran := hc.after rfl (runActions_alike hx f args hb (hc.twin rfl))
    simp only [behave, hcalls]
    cases limit with
    | none => exact hran
    | some n =>
      dsimp only
      split
      · exact .refl h _
      · exact hran

theorem behaviour_portable {program : Program} (hp : program.portable o = true) (f : Function) :
    (program.behaviour f).portable o = true := by
  unfold Program.behaviour
  split
  · rename_i entry hfind
    exact List.all_eq_true.mp hp entry (List.mem_of_find?_eq_some hfind)
  · rfl

theorem callAt_alike {program : Program} (hp : program.portable o = true) (depth : Nat)
    (f : Function) (args : List Value) (s s' : Relay) (h : o.Twin s s') :
    o.Alike s' (callAt program depth f args s) (callAt program depth f args s') := by
  induction depth generalizing f args s s' with
  | zero => exact .refl h _
  | succ depth ih =>
    have hx : o.Callers (runnerOf (callAt program depth) depth)
        (runnerOf (callAt program depth) depth) := ⟨ih, settle_of_quiet _ depth⟩
    exact behave_alike hx (behaviour_portable hp f) f args h

/-! ## Whole sessions -/

/-- The start of a session with an inline engine. -/
def onInline (o : EnginePair) : Relay :=
  addEngine o.name (.inline (InlineEngine.fresh o.exports)) Relay.initial

/-- And one with a pooled engine. -/
def onPooled (o : EnginePair) (c : Config) (ownsRuntime : Bool) : Relay :=
  putExports 0 o.modules
    (addEngine o.name (.pooled (PooledEngine.fresh c ownsRuntime)) Relay.initial)

theorem twin_start (o : EnginePair) (c : Config) (ownsRuntime : Bool) :
    o.Twin o.onInline (o.onPooled c ownsRuntime) ∧ (o.onPooled c ownsRuntime).stack = [] := by
  have hknown : o.Known { Relay.initial with names := { Names.empty with
      engines := Names.bind o.name 0 [] } } := by
    refine ⟨?_, rfl, fun a => rfl, fun a => .empty, nofun⟩
    simp [Names.look, Names.bind]
  have hstart (kind : EngineKind) : addEngine o.name kind Relay.initial =
      { Relay.initial.putEngine 0 (Engine.ofKind kind) with names := { Names.empty with
        engines := Names.bind o.name 0 [] } } :=
    closeAllUnused_of_known (o := o) (hknown.of_eq rfl rfl rfl) rfl
  unfold onInline onPooled
  rw [hstart, hstart]
  refine ⟨⟨rfl, hknown.of_eq rfl rfl rfl, InlineEngine.fresh o.exports,
    { PooledEngine.fresh c ownsRuntime with modules := o.modules }, ?_⟩, rfl⟩
  exact {
    inline := rfl
    pooled := rfl
    sizes := ⟨rfl, rfl⟩
    grants := fun _ => ⟨rfl, rfl⟩
    exports := ⟨rfl, rfl⟩
    current := rfl
    acquired := rfl
    released := rfl
    run := ⟨[], .start⟩
    inside := nofun
    trace := rfl }

/-- Workers taken from an engine so far. -/
def acquiredFrom (s : Relay) (e : EngineId) : Nat :=
  match (s.engine e).kind with
  | .inline i => i.acquired
  | .pooled p => p.pool.acquired

/-- And workers given back to it. -/
def releasedTo (s : Relay) (e : EngineId) : Nat :=
  match (s.engine e).kind with
  | .inline i => i.released
  | .pooled p => p.pool.released

/-- Two ends of a session that cannot be told apart without the identities of workers. -/
structure SameEnd (s s' : Relay) : Prop where
  /-- The same listeners, so as many of them and for the same events. -/
  listeners : ∀ a, (s'.adapter a).listeners = (s.adapter a).listeners
  log : s'.log = s.log
  calls : s'.calls = s.calls
  /-- The same requests of engines and workers, with the same arguments. -/
  trace : s'.trace.map Interaction.anonymous = s.trace.map Interaction.anonymous
  acquired : acquiredFrom s' 0 = acquiredFrom s 0
  released : releasedTo s' 0 = releasedTo s 0

theorem Twin.sameEnd (h : o.Twin s s') : SameEnd s s' := by
  obtain ⟨i, p, hosts⟩ := h.hosts
  refine ⟨fun a => by rw [h.adapter], ?_, ?_, hosts.trace, ?_, ?_⟩
  · rw [h.same]
    rfl
  · rw [h.same]
    rfl
  · simp only [acquiredFrom, hosts.inline, hosts.pooled, hosts.acquired]
  · simp only [releasedTo, hosts.inline, hosts.pooled, hosts.released]

/-- Two sessions, step by step and at their ends. -/
structure SameSession (out out' : Except Halt (List Report) × Relay) : Prop where
  reports : out'.1.map (List.map ReportOf.anonymous) = out.1.map (List.map ReportOf.anonymous)
  ends : ∀ reports, out.1 = .ok reports → SameEnd out.2 out'.2

end

/-- A session whose listeners are all waited for, and are registered outside of all workers or are
module references, is the same on an inline engine and on a pooled one, however few idle workers
that keeps. Every step has the same answer, the same calls are made with the same arguments, the
same listeners are left, and as many workers were taken and given back; so it is after every step,
since a beginning of a session is one, too. This holds for any functions that do not tell the
engines apart, and those of portable programs do not. -/
theorem sync_dispatch_independent (o : EnginePair) (c : Config) (ownsRuntime : Bool) :
    (∀ program depth steps, program.portable o = true →
      steps.all (Step.portable o false) = true →
      SameSession (runSteps (runner program depth) steps o.onInline)
        (runSteps (runner program depth) steps (o.onPooled c ownsRuntime))) ∧
    (∀ x x' steps, o.Callers x x' → steps.all (Step.portable o false) = true →
      SameSession (runSteps x steps o.onInline)
        (runSteps x' steps (o.onPooled c ownsRuntime))) ∧
    ∀ program depth, program.portable o = true →
      o.Callers (runner program depth) (runner program depth) := by
  obtain ⟨hstart, hout⟩ := twin_start o c ownsRuntime
  have hsessions (x x' : Runner) (steps : List Step) (hx : o.Callers x x')
      (hsteps : steps.all (Step.portable o false) = true) :
      SameSession (runSteps x steps o.onInline) (runSteps x' steps (o.onPooled c ownsRuntime)) := by
    have hs := runSteps_alike hx hsteps hstart hout
    exact ⟨hs.reports, fun reports h => (hs.twin reports h).sameEnd⟩
  have hcallers (program : Program) (depth : Nat) (hp : program.portable o = true) :
      o.Callers (runner program depth) (runner program depth) :=
    ⟨callAt_alike hp depth, settle_of_quiet _ depth⟩
  refine ⟨fun program depth steps hp hsteps => ?_, hsessions, hcallers⟩
  exact hsessions _ _ steps (hcallers program depth hp) hsteps

/-- A listener that emits, registers an export, removes itself and fails. -/
def restless : Program :=
  [("f", .body [.step (.emit "a" "u" []), .attempt (.unlistenAll "a" "t"),
    .attempt (.listen "a" "u" .sync (.object [("module", .str "m"), ("name", .str "g")]) none),
    .fail "enough"] none)]

/-- Two workers are leased at once, and the pool keeps none of them. -/
theorem sync_dispatch_independent_restless :
    let o : EnginePair := ⟨"e", ⟨[(("m", "g"), Function.anonymous "g")]⟩,
      ⟨[(("m", "g"), Function.anonymous "g")]⟩⟩
    let steps : List Step := [.newAdapter "a" "e" ⟨.interface, "L", []⟩,
      .listen "a" "t" .sync (.function (Function.anonymous "f")) none,
      .listen "a" "u" .sync (.function (Function.anonymous "h")) none, .emit "a" "t" [],
      .emit "a" "u" [.int 1], .emit "a" "t" []]
    let ran := runSteps (runner restless 3) steps o.onInline
    let ran' := runSteps (runner restless 3) steps (o.onPooled ⟨0, "w", none⟩ true)
    SameSession ran ran' ∧ haltOf ran.1 = none ∧ acquiredFrom ran.2 0 = 4 ∧
      acquiredFrom ran'.2 0 = 4 := by
  intro o steps ran ran'
  have hsame : SameSession ran ran' :=
    (sync_dispatch_independent o ⟨0, "w", none⟩ true).1 restless 3 steps (by decide) (by decide)
  have hleft : haltOf ran.1 = none := by decide +kernel
  have hacquired : acquiredFrom ran.2 0 = 4 := by decide +kernel
  obtain ⟨reports, hreports⟩ : ∃ reports, ran.1 = .ok reports := by
    cases hr : ran.1 with
    | ok reports => exact ⟨reports, rfl⟩
    | error reason =>
      rw [hr] at hleft
      cases hleft
  exact ⟨hsame, hleft, hacquired, (hsame.ends reports hreports).acquired.trans hacquired⟩

end EnginePair
end EventRelay
