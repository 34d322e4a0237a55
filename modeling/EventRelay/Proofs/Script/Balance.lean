import EventRelay.Proofs.Emission.Lease
import EventRelay.Proofs.Script.Steps

/-!
# EventRelay.Proofs.Script.Balance

Listeners that are programs balance the trace.

* `Program.takesWorkers`: whether a function of a program asks an engine for a worker, or gives
  one back, other than by a lease.
* `Program.Loose`: the interactions that such a function causes outside of every bracket.
* `runStep_balances`, `runSteps_adds`: every step that a function can run adds brackets to the
  trace, by induction on steps and lists of steps.
* `callAt_balances`: so does every call of a function, by induction on how deep calls nest.
* `lease_discipline`: every emission is a sequence of segments, and so every worker that it
  acquires is released within it, at any depth of nesting and on every way out.
-/

namespace EventRelay
namespace Script

open Relay

/-! ## Programs that take workers by themselves -/

mutual

/-- Whether a step asks an engine for a worker, or gives one back, other than by a lease. -/
def Step.takesWorkers : Step → Bool
  | .acquire _ _ => true
  | .release _ _ => true
  | .leaseDuring _ steps => stepsTakeWorkers steps
  | .inWorker _ steps => stepsTakeWorkers steps
  | _ => false

/-- Whether one of some steps takes workers. -/
def stepsTakeWorkers : List Step → Bool
  | [] => false
  | step :: rest => step.takesWorkers || stepsTakeWorkers rest

end

/-- Whether an action takes workers. -/
def Action.takesWorkers : Action → Bool
  | .step s => s.takesWorkers
  | .attempt s => s.takesWorkers
  | _ => false

/-- Whether a function takes workers when it is called. -/
def Behaviour.takesWorkers : Behaviour → Bool
  | .body actions _ => actions.any Action.takesWorkers
  | _ => false

/-- Whether a function of a program takes workers. -/
def Program.takesWorkers (p : Program) : Bool := p.any fun e => e.2.takesWorkers

/-- The interactions that functions of a program cause outside of every bracket. -/
def Program.Loose (p : Program) (i : Interaction) : Prop :=
  p.takesWorkers = true ∧ i.movesWorker = true

theorem Program.takesWorkers_of_behaviour {p : Program} {f : Function}
    (h : (p.behaviour f).takesWorkers = true) : p.takesWorkers = true := by
  unfold Program.behaviour at h
  split at h
  · rename_i e he
    exact List.any_eq_true.mpr ⟨e, List.mem_of_find?_eq_some he, h⟩
  · cases h

/-! ## Parts of steps -/

@[simp] theorem engineNamed_trace (name : String) (s : Relay) :
    (engineNamed name s).2.trace = s.trace := by
  unfold engineNamed
  split <;> rfl

@[simp] theorem nameAdapter_trace (name : String) (a : AdapterId) (s : Relay) :
    (nameAdapter name a s).trace = s.trace := by
  simp [nameAdapter]

@[simp] theorem nameHandle_trace (name : Option String) (n : Nat) (s : Relay) :
    (nameHandle name n s).trace = s.trace := by
  unfold nameHandle
  split <;> rfl

@[simp] theorem addEngine_trace (name : String) (kind : EngineKind) (s : Relay) :
    (addEngine name kind s).trace = s.trace := by
  simp [addEngine]

@[simp] theorem startEngine_trace (name : String) (spec : EngineSpec) (s : Relay) :
    (startEngine name spec s).2.trace = s.trace := by
  unfold startEngine
  split
  · simp
  · split <;> simp

@[simp] theorem dropEngine_trace (name : String) (s : Relay) :
    (dropEngine name s).trace = s.trace := by
  simp [dropEngine]

@[simp] theorem putExports_trace (e : EngineId) (m : Modules) (s : Relay) :
    (putExports e m s).trace = s.trace := by
  unfold putExports
  split <;> rfl

@[simp] theorem finishAdapter_trace (name : String)
    (made : Except AdapterError AdapterId × Relay) :
    (finishAdapter name made).2.trace = made.2.trace := by
  obtain ⟨_ | a, s⟩ := made
  · rfl
  · exact nameAdapter_trace name a s

@[simp] theorem register_trace (r : Nat) (e : EngineId) (event : String) (mode : Mode) (v : Value)
    (name : Option String) (s : Relay) : (register r e event mode v name s).2.trace = s.trace := by
  unfold register
  have h := newListener_trace s e v mode
  generalize s.newListener e v mode = made at h
  obtain ⟨_ | l, s'⟩ := made
  · exact h
  · simpa using h

@[simp] theorem snapshotOf_trace (r : Nat) (event name : String) (s : Relay) :
    (snapshotOf r event name s).2.trace = s.trace := by
  unfold snapshotOf
  split <;> rfl

@[simp] theorem removed_trace (r : Nat) (result : Bool × Registry) (s : Relay) :
    (removed r result s).2.trace = s.trace := rfl

@[simp] theorem report_trace (result : Except Panic Reply) (s : Relay) :
    (report result s).2.trace = s.trace := rfl

@[simp] theorem noteInner_trace (reply : Reply) (s : Relay) :
    (noteInner reply s).trace = s.trace := rfl

theorem declare_trace (name engine trait : String) (s : Relay) :
    (declare name engine trait s).2.trace = s.trace := by
  unfold declare
  split
  · rfl
  · rename_i d _
    have h := newAdapter_trace (engineNamed engine s).2 (engineNamed engine s).1 d.descriptor
    rw [engineNamed_trace] at h
    dsimp only
    generalize (engineNamed engine s).2.newAdapter (engineNamed engine s).1 d.descriptor = made at h
    obtain ⟨_ | a, s'⟩ := made
    · exact h
    · exact (nameAdapter_trace name a s').trans h

section

variable {loose : Interaction → Prop} {x : Runner} {t : List Interaction}

theorem withAdapter_balances {body : AdapterId → Exit Fault Reply × Relay} (name : String)
    (s : Relay) (h : ∀ a, Balances loose s.trace (body a)) :
    Balances loose s.trace (withAdapter name s body) := by
  unfold withAdapter
  split
  · exact h _
  · exact .of_trace_eq rfl

theorem withWorkerNamed_balances {body : Worker → Exit Fault Reply × Relay} (name : String)
    (s : Relay) (h : ∀ w, Balances loose t (body w)) (ht : s.trace = t) :
    Balances loose t (withWorkerNamed name s body) := by
  unfold withWorkerNamed
  split
  · exact h _
  · exact .of_trace_eq ht

theorem withRegistry_balances {body : Nat → Exit Fault Reply × Relay} (name : String)
    (s : Relay) (h : ∀ r, Balances loose s.trace (body r)) :
    Balances loose s.trace (withRegistry name s body) := by
  unfold withRegistry
  split
  · exact h _
  · exact .of_trace_eq rfl

theorem answer_balances {α : Type} {reply : α → Reply} {out : Exit InvocationError α × Relay}
    (h : Balances loose t out) : Balances loose t (answer reply out) :=
  fun hl => h (by simpa [answer] using hl)

theorem workerAnswer_balances {α : Type} {reply : α → Reply} {out : Exit Cause α × Relay}
    (h : Balances loose t out) : Balances loose t (workerAnswer reply out) :=
  fun hl => h (by simpa [workerAnswer] using hl)

theorem submitUntilClosed_balances (w : Worker) (s : Relay) :
    Balances loose s.trace (submitUntilClosed w s) := by
  unfold submitUntilClosed
  split
  · split
    · exact .of_halt _ s
    · exact .of_trace_eq rfl
  · exact .of_halt _ s

theorem callDeclaredNamed_balances (hx : x.Balances loose) (name method : String)
    (args : List Value) (s : Relay) :
    Balances loose s.trace (callDeclaredNamed x name method args s) := by
  unfold callDeclaredNamed
  split
  · exact .of_trace_eq rfl
  · split
    · exact .of_trace_eq rfl
    · rename_i a _ _ _ index m _
      have h := callDeclared_balances hx a index m args s
      generalize callDeclared x a index m args s = out at h
      obtain ⟨exit, s'⟩ := out
      cases exit with
      | halt h' => exact .of_halt h' s'
      | ok | error | panic => exact fun _ => h (by simp)

/-! ## Steps -/

mutual

/-- Every step balances the trace, and workers that it takes by itself are loose. -/
theorem runStep_balances (hx : x.Balances loose) (step : Step)
    (hstep : step.takesWorkers = true → ∀ i, i.movesWorker = true → loose i) (s : Relay) :
    Balances loose s.trace (runStep x step s) := by
  match step with
  | .startEngine .. | .dropEngine .. | .refuse .. | .current .. | .pending .. | .stats ..
  | .describeEngine .. | .define .. | .undefine .. | .lookup .. | .installed | .openGate ..
  | .gate .. | .recorded .. | .newRegistry .. | .newAdapter .. | .construct .. =>
    exact .of_trace_eq (by simp [runStep])
  | .typeInfo .. | .describe .. | .clone .. | .withType .. | .sameEngine .. | .unlistenValue ..
  | .unlistenAll .. | .count .. | .events .. =>
    exact withAdapter_balances _ s fun a => .of_trace_eq (by simp)
  | .unregisterValue .. | .unregisterMode .. | .clearEvent .. | .registryState .. | .register ..
  | .snapshot .. =>
    exact withRegistry_balances _ s fun r => .of_trace_eq (by simp)
  | .submitUntilClosed _ =>
    exact withWorkerNamed_balances _ s (fun w => submitUntilClosed_balances w s) rfl
  | .acquire engine name =>
    rw [← engineNamed_trace engine s]
    simp only [runStep]
    generalize engineNamed engine s = named
    obtain ⟨e, s₁⟩ := named
    cases ha : s₁.acquire e with
    | mk granted s₂ =>
      cases granted with
      | error c => exact fun _ => ⟨_, acquire_trace_error ha, .refused e⟩
      | ok w =>
        have ht := acquire_trace_ok ha
        exact fun _ => ⟨[.acquired e w], ht, .loose (hstep rfl _ rfl)⟩
  | .release engine worker =>
    rw [← engineNamed_trace engine s]
    exact withWorkerNamed_balances _ _
      (fun w _ => ⟨_, release_trace .., .loose (hstep rfl _ rfl)⟩) rfl
  | .invoke worker target args =>
    exact withWorkerNamed_balances _ s
      (fun w => workerAnswer_balances (invoke_balances hx w target args s)) rfl
  | .submit worker target args =>
    exact withWorkerNamed_balances _ s
      (fun w => workerAnswer_balances fun _ => handOver_balances hx w target args s) rfl
  | .leaseDuring engine steps =>
    rw [← engineNamed_trace engine s]
    refine lease_balances _ _ (fun c s' => .of_trace_eq rfl) fun w s' => ?_
    have h := runSteps_adds hx steps hstep s'
    generalize runSteps x steps s' = out at h
    obtain ⟨_ | reports, s''⟩ := out
    · exact .of_halt _ s''
    · exact fun _ => h reports rfl
  | .leaseFor engine target args =>
    rw [← engineNamed_trace engine s]
    exact lease_balances _ _ (fun c s' => .of_trace_eq rfl)
      fun w s' => workerAnswer_balances (invoke_balances hx w target args s')
  | .inWorker engine steps =>
    rw [← engineNamed_trace engine s]
    simp only [runStep]
    generalize engineNamed engine s = named
    obtain ⟨e, s₁⟩ := named
    dsimp only
    generalize hbody : (fun s' => _ : Relay → Exit Fault (List Report) × Relay) = body
    have h : Balances loose s₁.trace (inWorker x e body s₁).2 := by
      refine inWorker_extends hx e s₁ fun s' => ?_
      rw [← hbody]
      have h := runSteps_adds hx steps hstep s'
      dsimp only
      generalize runSteps x steps s' = out at h
      obtain ⟨_ | reports, s''⟩ := out
      · exact .of_halt _ s''
      · exact fun _ => h reports rfl
    exact fun hl => h (by simpa using hl)
  | .panicInWorker engine =>
    rw [← engineNamed_trace engine s]
    simp only [runStep]
    split
    · exact .of_trace_eq rfl
    · exact inPooled_extends hx _ _ fun s' => .of_trace_eq rfl
  | .runPending engine =>
    rw [← engineNamed_trace engine s]
    exact workerAnswer_balances (runPending_extends hx _ _ _ _)
  | .resolveModule engine module name =>
    rw [← engineNamed_trace engine s]
    simp only [runStep]
    split <;> exact .of_trace_eq rfl
  | .synthesize d =>
    have h := synthesize_trace s d
    simp only [runStep]
    generalize s.synthesize d = made at h
    obtain ⟨_ | type, s'⟩ := made
    · exact .of_trace_eq h
    · exact .of_trace_eq h
  | .sameType adapter other =>
    exact withAdapter_balances _ s fun a => withAdapter_balances _ s fun b => .of_trace_eq rfl
  | .resolve .. =>
    refine withAdapter_balances _ s fun a => ?_
    split <;> exact .of_trace_eq rfl
  | .slotAt .. =>
    refine withAdapter_balances _ s fun a => ?_
    split <;> exact .of_trace_eq rfl
  | .listen adapter event mode v name =>
    refine withAdapter_balances _ s fun a => ?_
    have h := listen_trace s a event v mode
    generalize s.listen a event v mode = made at h
    obtain ⟨_ | n, s'⟩ := made
    · exact .of_trace_eq h
    · exact .of_trace_eq ((nameHandle_trace name n s').trans h)
  | .unlisten .. =>
    refine withAdapter_balances _ s fun a => ?_
    split <;> exact .of_trace_eq rfl
  | .emit .. =>
    exact withAdapter_balances _ s fun a => answer_balances (emit_balances hx a _ _ s)
  | .call .. =>
    exact withAdapter_balances _ s fun a => answer_balances (call_balances hx a _ _ s)
  | .callSlot .. =>
    exact withAdapter_balances _ s fun a => answer_balances (callSlot_balances hx a _ _ s)
  | .unregister .. =>
    refine withRegistry_balances _ s fun r => ?_
    split <;> exact .of_trace_eq rfl
  | .dispatch snapshot index engine event args =>
    simp only [runStep]
    split
    · exact .of_trace_eq rfl
    · rw [← engineNamed_trace engine s]
      exact answer_balances (dispatch_balances hx _ _ _ _ _)
  | .declared name engine trait => exact .of_trace_eq (declare_trace name engine trait s)
  | .callDeclared adapter method args =>
    exact callDeclaredNamed_balances hx adapter method args s

/-- Listed steps balance the trace if all of them run. -/
theorem runSteps_adds (hx : x.Balances loose) (steps : List Step)
    (hsteps : stepsTakeWorkers steps = true → ∀ i, i.movesWorker = true → loose i) (s : Relay)
    (reports : List Report) (h : (runSteps x steps s).1 = .ok reports) :
    Adds (Bracketed loose) s.trace (runSteps x steps s).2.trace := by
  match steps with
  | [] => exact .refl _
  | step :: rest =>
    have hfirst : step.takesWorkers = true → ∀ i, i.movesWorker = true → loose i :=
      fun hw => hsteps (by simp [stepsTakeWorkers, hw])
    have hrest : stepsTakeWorkers rest = true → ∀ i, i.movesWorker = true → loose i :=
      fun hw => hsteps (by simp [stepsTakeWorkers, hw])
    have hran := runStep_balances hx step hfirst s
    have hcons := runSteps_cons x step rest s
    generalize runSteps x (step :: rest) s = out at h hcons ⊢
    cases hcons with
    | halted | endless => cases h
    | reported result hstep hleft _ =>
      rw [hstep] at hran
      -- A report leaves the trace alone, so the rest goes on from where the step stopped.
      obtain ⟨later, hlater⟩ := reports_of_following h
      exact (hran hleft).trans (runSteps_adds hx rest hrest _ later hlater)

end

/-! ## Functions -/

theorem runActions_balances (hx : x.Balances loose) (f : Function) (args : List Value)
    (actions : List Action)
    (hactions : actions.any Action.takesWorkers = true → ∀ i, i.movesWorker = true → loose i)
    (s : Relay) : Balances loose s.trace (runActions x f args actions s) := by
  induction actions generalizing s with
  | nil => exact .of_trace_eq rfl
  | cons action rest ih =>
    have hrest : ∀ s, Balances loose s.trace (runActions x f args rest s) :=
      ih fun hw => hactions (by simp [hw])
    have hfirst (step : Step) (hstep : action.takesWorkers = step.takesWorkers) (s : Relay) :
        Balances loose s.trace (runStep x step s) :=
      runStep_balances hx step (fun hw => hactions (by simp [hstep, hw])) s
    match action with
    | .record => exact hrest (s.record _)
    | .recordWorker engine =>
      rw [← engineNamed_trace engine s]
      exact hrest _
    | .fail _ | .panic _ | .ret _ => exact .of_trace_eq rfl
    | .retArg index | .retInt index =>
      simp only [runActions]
      split <;> exact .of_trace_eq rfl
    | .step step =>
      have h := hfirst step rfl s
      simp only [runActions]
      generalize runStep x step s = out at h
      obtain ⟨exit, s'⟩ := out
      cases exit with
      | halt h' => exact .of_halt h' s'
      | panic p => exact fun _ => h (by simp)
      | ok | error => exact .of_adds (h (by simp)) (hrest (noteInner _ s'))
    | .attempt step =>
      have h := hfirst step rfl s
      simp only [runActions]
      generalize runStep x step s = out at h
      obtain ⟨exit, s'⟩ := out
      cases exit with
      | halt h' => exact .of_halt h' s'
      | panic p => exact fun _ => h (by simp)
      | ok => exact .of_adds (h (by simp)) (hrest (noteInner _ s'))
      | error => exact fun _ => h (by simp)

theorem behave_balances (hx : x.Balances loose) (b : Behaviour)
    (hb : b.takesWorkers = true → ∀ i, i.movesWorker = true → loose i) (f : Function)
    (args : List Value) (s : Relay) : Balances loose s.trace (behave x b f args s) := by
  cases b with
  | returning | tagged | opener => exact .of_trace_eq rfl
  | blocker gate =>
    simp only [behave]
    split <;> exact .of_trace_eq rfl
  | body actions limit =>
    cases limit with
    | none => exact runActions_balances hx f args actions hb _
    | some n =>
      simp only [behave]
      split
      · exact .of_trace_eq rfl
      · exact runActions_balances hx f args actions hb _

end

/-- By induction on how deep calls may nest: the functions of a program balance the trace. -/
theorem callAt_balances (program : Program) (depth : Nat) :
    (callAt program depth).Extends (Bracketed program.Loose) := by
  induction depth with
  | zero => exact fun _ _ s => .of_halt _ s
  | succ depth ih =>
    have hx : (runnerOf (callAt program depth) depth).Balances program.Loose :=
      ⟨ih, settle_adds ih depth⟩
    exact fun f args s => behave_balances hx (program.behaviour f)
      (fun hb i hi => ⟨Program.takesWorkers_of_behaviour hb, hi⟩) f args s

/-! ## Leases -/

/-- An emission dispatches listeners one after the other. For a bound listener, it asks the worker
of the listener once. For any other it asks its engine for a worker once and, where one is granted,
asks this worker once and gives it back. All else in the trace was caused by calls of functions,
before the worker is given back and before the next listener is dispatched. Where these calls
balance the trace, every bracket inside is closed there, and if they take no workers by themselves,
each worker is released as often as it is acquired. This holds for every engine that notes what it
is asked for, whenever it refuses and whatever its workers run, and so for emissions of adapters.
The functions of every program balance the trace. -/
theorem lease_discipline :
    (∀ (σ : Type) (h : Host σ) (trace : σ → List Interaction) e P, h.Notes trace e P →
      ∀ (listeners : σ → List Listener) event args s,
        let out := h.emit listeners event args s
        out.1.Leaves →
          ∃ ls segments, ls <+: listeners s ∧ (out.1 = .ok () → ls = listeners s) ∧
            trace out.2 = trace s ++ segments.flatten ∧
            List.Forall₂ (Segment P e args) ls segments ∧
            ∀ loose, (∀ u, P u → Bracketed loose u) →
              Bracketed loose segments.flatten ∧
              ((∀ i, loose i → i.movesWorker = false) → ∀ e' w,
                segments.flatten.countP (Interaction.grants e' w) =
                  segments.flatten.countP (Interaction.returns e' w))) ∧
    (∀ (x : Runner) (a : AdapterId) (event : String) (args : List Value) (s : Relay),
      let snapshot := (s.adapter a).listeners.find event
      let e := (s.adapter a).engine
      let out := emit x a event args s
      x.Grows → out.1.Leaves →
        ∃ ls segments, ls <+: snapshot ∧ (out.1 = .ok () → ls = snapshot) ∧
          out.2.trace = s.trace ++ segments.flatten ∧
          List.Forall₂ (Segment (Called x) e args) ls segments ∧
          ∀ loose, x.Balances loose →
            List.Forall₂ (Segment (Bracketed loose) e args) ls segments ∧
            Bracketed loose segments.flatten ∧
            ((∀ i, loose i → i.movesWorker = false) → ∀ e' w,
              segments.flatten.countP (Interaction.grants e' w) =
                segments.flatten.countP (Interaction.returns e' w))) ∧
    ∀ (program : Program) (depth bound : Nat) (x : Runner), x.call = callAt program depth →
      x.others = settle x.call bound → x.Balances program.Loose := by
  refine ⟨fun σ h trace e P hh listeners event args s hl => ?_, fun x a event args s hx hl => ?_,
    fun program depth bound x hcall hothers => ?_⟩
  · obtain ⟨ls, us, hpre, hus, ht, hall⟩ := h.emit_segments hh listeners event args s hl
    refine ⟨ls, us, hpre, hall, ht, hus, fun loose hloose => ?_⟩
    have hb := segments_bracketed (hus.imp fun l u hu => hu.mono hloose)
    exact ⟨hb, fun hnone e' w => hb.count_eq hnone e' w⟩
  · obtain ⟨ls, us, hpre, hus, ht, hall⟩ := emit_segments hx.called a event args s hl
    refine ⟨ls, us, hpre, hall, ht, hus, fun loose hloose => ?_⟩
    have hus' : List.Forall₂ (Segment (Bracketed loose) (s.adapter a).engine args) ls us :=
      hus.imp fun l u hu => hu.mono fun v hv => hv.of_extends hloose
    have hb := segments_bracketed hus'
    exact ⟨hus', hb, fun hnone e' w => hb.count_eq hnone e' w⟩
  · have hcalls : x.call.Extends (Bracketed program.Loose) := hcall ▸ callAt_balances program depth
    exact ⟨hcalls, hothers ▸ settle_adds hcalls bound⟩

/-- A function that emits `inner` each time it is called. -/
def echoing : Program := [("echo", .body [.step (.emit "a" "inner" [])] none)]

/-- An adapter whose listener for `outer` emits `inner`, which has a listener as well. -/
def echoed : Relay :=
  let inner : Listener := ⟨1, .function (Function.anonymous "log"), .async, .lazy⟩
  let outer : Listener := ⟨2, .function (Function.anonymous "echo"), .sync, .lazy⟩
  { Relay.initial with
    adapters := ⟨[{ Adapter.blank with listeners := ⟨[("inner", [inner]), ("outer", [outer])]⟩ }]⟩
    names := { Names.empty with adapters := [("a", 0)] } }

theorem lease_discipline_nested :
    let x := runner echoing 2
    let snapshot := (echoed.adapter 0).listeners.find "outer"
    let out := emit x 0 "outer" [] echoed
    x.Grows ∧ out.1 = .ok () ∧ x.Balances echoing.Loose ∧
      (host (emitting x 0 "outer" snapshot) 0).Notes Relay.trace 0 (Bracketed echoing.Loose) ∧
      (∃ segments, out.2.trace = segments.flatten ∧
        List.Forall₂ (Segment (Called x) 0 []) snapshot segments) ∧
      (∀ e w, out.2.trace.countP (Interaction.grants e w) =
        out.2.trace.countP (Interaction.returns e w)) ∧
      out.2.trace.map Interaction.text =
        ["acquire worker-1", "invoke worker-1 global:<anonymous>", "acquire worker-2",
          "submit worker-2 global:<anonymous>", "release worker-2", "release worker-1"] := by
  intro x snapshot out
  obtain ⟨hhosts, hemissions, hprograms⟩ := lease_discipline
  have hb : x.Balances echoing.Loose := hprograms echoing 2 2 x rfl rfl
  have hx : x.Grows := hb.grows
  have hok : out.1 = .ok () := rfl
  have hleft : out.1.Leaves := hok ▸ Exit.leaves_ok ()
  have hnotes : (host (emitting x 0 "outer" snapshot) 0).Notes Relay.trace 0
      (Bracketed echoing.Loose) := host_notes (hb.keeping _) 0
  obtain ⟨ls, segments, -, hall, ht, hseg, -⟩ := hemissions x 0 "outer" [] echoed hx hleft
  obtain ⟨-, segments', -, -, ht', -, hbal⟩ :=
    hhosts Relay _ Relay.trace 0 _ hnotes (fun s => (s.adapter 0).listeners.find "outer") "outer" []
      echoed hleft
  obtain ⟨-, hcount⟩ := hbal echoing.Loose fun _ hu => hu
  obtain rfl : ls = snapshot := hall hok
  refine ⟨hx, hok, hb, hnotes, ⟨segments, ht, hseg⟩, fun e w => ?_, by decide⟩
  have htrace : out.2.trace = segments'.flatten := ht'
  exact htrace ▸ hcount (fun i hi => absurd hi.1 (by decide)) e w

end Script
end EventRelay
