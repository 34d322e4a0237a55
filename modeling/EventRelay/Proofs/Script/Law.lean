import EventRelay.Proofs.Law
import EventRelay.Proofs.Script.Steps

/-!
# EventRelay.Proofs.Script.Law

Scripts obey laws.

* `Step.edits`, `Program.edits`: the edits of exports that are written in steps and programs.
* `dispatch_obeys`, `emit_obeys`, `callDeclared_obeys` and their like: emissions and calls of
  methods obey a law, if calls of functions do.
* `runStep_obeys`, `runSteps_obeys`: so do steps, by induction on steps and lists of steps, if the
  law allows their edits.
* `runner_obeys`: and so do calls of functions, by induction on how deep they nest.
-/

namespace EventRelay

namespace Script

/-! ## Edits that are written down -/

mutual

def Step.edits : Step → List Edit
  | .define _ module name f => [.define module name f]
  | .undefine _ module name => [.undefine module name]
  | .leaseDuring _ steps => editsOf steps
  | .inWorker _ steps => editsOf steps
  | _ => []

def editsOf : List Step → List Edit
  | [] => []
  | step :: rest => step.edits ++ editsOf rest

end

def Action.edits : Action → List Edit
  | .step s => s.edits
  | .attempt s => s.edits
  | _ => []

def Behaviour.edits : Behaviour → List Edit
  | .body actions _ => actions.flatMap Action.edits
  | _ => []

def Program.edits (p : Program) : List Edit := p.flatMap fun e => e.2.edits

theorem Program.mem_edits {p : Program} {f : Function} {d : Edit}
    (h : d ∈ (p.behaviour f).edits) : d ∈ p.edits := by
  unfold behaviour at h
  split at h
  · rename_i e he
    exact List.mem_flatMap.mpr ⟨e, List.mem_of_find?_eq_some he, h⟩
  · simp [Behaviour.edits] at h

end Script

namespace Relay

section

variable {allowed : Edit → Prop} {R : Relay → Relay → Prop} {x : Runner} (law : Law allowed R)

include law

/-! ## Emission -/

theorem runOn_obeys (hx : x.Obeys R) (e : EngineId) (event : String) (l : Listener)
    (args : List Value) (w : Worker) (s : Relay) : R s ((host x e).runOn event l args w s).2 := by
  unfold Host.runOn
  simp only [host]
  split
  · have h := invoke_obeys law hx w l.target args s
    generalize invoke x w l.target args s = out at h
    obtain ⟨exit, s'⟩ := out
    cases exit <;> exact h
  · have h : R s (handOver x w l.target args s).2 := handOver_obeys law hx w l.target args s
    generalize handOver x w l.target args s = out at h
    obtain ⟨c | _, s'⟩ := out
    · exact law.keep h rfl rfl
    · exact h

theorem dispatch_obeys (hx : x.Obeys R) (e : EngineId) (event : String) (l : Listener)
    (args : List Value) (s : Relay) : R s ((host x e).dispatch event l args s).2 := by
  unfold Host.dispatch
  split
  · exact runOn_obeys law hx e event l args _ s
  · refine lease_obeys law e s (fun c s' => ?_) (runOn_obeys law hx e event l args)
    unfold Host.withoutWorker
    split
    · exact law.refl s'
    · exact law.of_eq rfl rfl

theorem emitTo_obeys (hx : x.Obeys R) (e : EngineId) (event : String) (args : List Value)
    (ls : List Listener) (s : Relay) : R s ((host x e).emitTo event args ls s).2 := by
  induction ls generalizing s with
  | nil => exact law.refl s
  | cons l rest ih =>
    have h := dispatch_obeys law hx e event l args s
    unfold Host.emitTo
    generalize (host x e).dispatch event l args s = out at h
    obtain ⟨exit, s'⟩ := out
    cases exit with
    | ok => exact law.trans h (ih s')
    | error | panic | halt => exact h

theorem emit_obeys (hx : x.Obeys R) (a : AdapterId) (event : String) (args : List Value)
    (s : Relay) : R s (emit x a event args s).2 :=
  emitTo_obeys law (hx.keeping _) _ _ _ _ s

/-! ## Calls of methods -/

theorem forward_obeys (hx : x.Obeys R) (a : AdapterId) (slot : Slot) (args : List Value)
    (s : Relay) : R s (forward x a slot args s).2 := by
  unfold forward
  split
  · exact law.refl s
  · have h := emit_obeys law hx a slot.name args s
    generalize emit x a slot.name args s = out at h
    obtain ⟨exit, s'⟩ := out
    cases exit <;> exact h

theorem call_obeys (hx : x.Obeys R) (a : AdapterId) (method : String) (args : List Value)
    (s : Relay) : R s (call x a method args s).2 := by
  unfold call
  split
  · exact forward_obeys law hx a _ args s
  · exact law.refl s

theorem callSlot_obeys (hx : x.Obeys R) (a : AdapterId) (index : Nat) (args : List Value)
    (s : Relay) : R s (callSlot x a index args s).2 := by
  unfold callSlot
  split
  · exact forward_obeys law hx a _ args s
  · exact law.refl s

theorem callDeclared_obeys (hx : x.Obeys R) (a : AdapterId) (index : Nat)
    (m : Interface.DeclaredMethod) (args : List Value) (s : Relay) :
    R s (callDeclared x a index m args s).2 := by
  have h := callSlot_obeys law hx a index (List.zipWith convertArgument m.params args) s
  unfold callDeclared
  generalize callSlot x a index (List.zipWith convertArgument m.params args) s = out at h
  obtain ⟨exit, s'⟩ := out
  cases exit with
  | error | panic | halt => exact h
  | ok v =>
    dsimp only
    split <;> exact h

/-! ## Adapters and engines -/

theorem newAdapter_obeys (s : Relay) (e : EngineId) (d : Descriptor) :
    R s (s.newAdapter e d).2 := by
  have h : R s (s.synthesize d).2 := law.of_eq rfl rfl
  unfold newAdapter
  generalize s.synthesize d = made at h
  obtain ⟨_ | type, s'⟩ := made
  · exact h
  · exact law.keep h rfl rfl

theorem construct_obeys (s : Relay) (e : EngineId) (args : List Value) :
    R s (s.construct e args).2 := by
  unfold construct
  split
  · exact newAdapter_obeys law s e _
  · exact law.refl s
  · exact law.refl s

theorem newListener_obeys (s : Relay) (e : EngineId) (v : Value) (mode : Mode) :
    R s (s.newListener e v mode).2 := by
  unfold newListener
  split
  · exact law.refl s
  · exact law.of_eq rfl rfl

theorem listen_obeys (s : Relay) (a : AdapterId) (event : String) (v : Value) (mode : Mode) :
    R s (s.listen a event v mode).2 := by
  have h : R s (s.newListener (s.adapter a).engine v mode).2 := newListener_obeys law s _ v mode
  unfold Relay.listen
  generalize s.newListener (s.adapter a).engine v mode = made at h
  obtain ⟨_ | l, s'⟩ := made
  · exact law.keep h rfl rfl
  · exact law.keep h rfl rfl

theorem closeAllUnused_obeys (s : Relay) : R s s.closeAllUnused := by
  unfold closeAllUnused
  induction List.range s.engines.size generalizing s with
  | nil => exact law.refl s
  | cons e es ih => exact law.trans (law.plain (.closeUnused e)) (ih (s.closeUnused e))

end

end Relay

namespace Script

open Relay

section

variable {allowed : Edit → Prop} {R : Relay → Relay → Prop} {x : Runner} (law : Law allowed R)

include law

/-! ## Parts of steps -/

theorem engineNamed_obeys (name : String) (s : Relay) : R s (engineNamed name s).2 := by
  unfold engineNamed
  split
  · exact law.refl s
  · exact law.keep (law.addEngine (.inline Modules.empty)) rfl rfl

/-- What follows on naming an engine. -/
theorem named_obeys {name : String} {s s' : Relay} (h : R (engineNamed name s).2 s') : R s s' :=
  law.trans (engineNamed_obeys law name s) h

theorem addEngine_obeys (name : String) {kind : EngineKind} (hkind : FreshKind kind) (s : Relay) :
    R s (addEngine name kind s) :=
  law.andThen (law.addEngine hkind) (closeAllUnused_obeys law _) rfl rfl

theorem startEngine_obeys (name : String) (spec : EngineSpec) (s : Relay) :
    R s (startEngine name spec s).2 := by
  unfold startEngine
  split
  · exact addEngine_obeys law name (.inline _) s
  · split
    · exact law.refl s
    · exact addEngine_obeys law name (.pooled _ _) s

theorem nameAdapter_obeys (name : String) (a : AdapterId) (s : Relay) :
    R s (nameAdapter name a s) :=
  law.since (closeAllUnused_obeys law _) rfl rfl

theorem nameHandle_obeys (name : Option String) (n : Nat) (s : Relay) :
    R s (nameHandle name n s) := by
  unfold nameHandle
  split
  · exact law.of_eq rfl rfl
  · exact law.refl s

theorem finishAdapter_obeys (name : String) (made : Except AdapterError AdapterId × Relay) :
    R made.2 (finishAdapter name made).2 := by
  obtain ⟨_ | a, s⟩ := made
  · exact law.refl s
  · exact nameAdapter_obeys law name a s

theorem register_obeys (r : Nat) (e : EngineId) (event : String) (mode : Mode) (v : Value)
    (name : Option String) (s : Relay) : R s (register r e event mode v name s).2 := by
  have h : R s (s.newListener e v mode).2 := newListener_obeys law s e v mode
  unfold register
  generalize s.newListener e v mode = made at h
  obtain ⟨_ | l, s'⟩ := made
  · exact h
  · exact law.andThen h (nameHandle_obeys law name l.handle _) rfl rfl

theorem snapshotOf_obeys (r : Nat) (event name : String) (s : Relay) :
    R s (snapshotOf r event name s).2 := by
  unfold snapshotOf
  split
  · exact law.refl s
  · exact law.of_eq rfl rfl

theorem declare_obeys (name engine trait : String) (s : Relay) :
    R s (declare name engine trait s).2 := by
  unfold declare
  split
  · exact law.refl s
  · rename_i d _
    have h : R s
        ((engineNamed engine s).2.newAdapter (engineNamed engine s).1 d.descriptor).2 :=
      law.trans (engineNamed_obeys law engine s) (newAdapter_obeys law _ _ d.descriptor)
    dsimp only
    generalize (engineNamed engine s).2.newAdapter (engineNamed engine s).1 d.descriptor = made at h
    obtain ⟨_ | a, s'⟩ := made
    · exact h
    · exact law.keep (law.trans h (nameAdapter_obeys law name a s')) rfl rfl

theorem submitUntilClosed_obeys (w : Worker) (s : Relay) :
    R s (submitUntilClosed w s).2 := by
  unfold submitUntilClosed
  split
  · split <;> exact law.refl s
  · exact law.refl s

theorem withAdapter_obeys {body : AdapterId → Exit Fault Reply × Relay} (name : String)
    (s : Relay) (h : ∀ a, R s (body a).2) : R s (withAdapter name s body).2 := by
  unfold withAdapter
  split
  · exact h _
  · exact law.refl s

theorem withWorkerNamed_obeys {body : Worker → Exit Fault Reply × Relay} (name : String)
    (s : Relay) (h : ∀ w, R s (body w).2) : R s (withWorkerNamed name s body).2 := by
  unfold withWorkerNamed
  split
  · exact h _
  · exact law.refl s

theorem withRegistry_obeys {body : Nat → Exit Fault Reply × Relay} (name : String)
    (s : Relay) (h : ∀ r, R s (body r).2) : R s (withRegistry name s body).2 := by
  unfold withRegistry
  split
  · exact h _
  · exact law.refl s

theorem callDeclaredNamed_obeys (hx : x.Obeys R) (name method : String) (args : List Value)
    (s : Relay) : R s (callDeclaredNamed x name method args s).2 := by
  unfold callDeclaredNamed
  split
  · exact law.refl s
  · split
    · exact law.refl s
    · rename_i a _ _ _ index m _
      have h := callDeclared_obeys law hx a index m args s
      generalize callDeclared x a index m args s = out at h
      obtain ⟨exit, s'⟩ := out
      cases exit <;> exact h

/-! ## Steps -/

omit law in
/-- Listed steps as the body of an operation. -/
theorem nested_obeys {α : Type} {steps : List Step} {s : Relay} (wrap : List Report → α)
    (h : R s (runSteps x steps s).2) :
    let out : Exit Fault α × Relay :=
      match runSteps x steps s with
      | (.ok reports, s) => (.ok (wrap reports), s)
      | (.error h, s) => (.halt h, s)
    R s out.2 := by
  dsimp only
  generalize runSteps x steps s = out at h
  obtain ⟨_ | reports, s'⟩ := out
  · exact h
  · exact h

mutual

theorem runStep_obeys (hx : x.Obeys R) (step : Step) (hstep : ∀ d ∈ step.edits, allowed d)
    (s : Relay) : R s (runStep x step s).2 := by
  match step with
  | .lookup .. | .installed | .gate .. | .recorded .. => exact law.refl s
  | .openGate .. => exact law.of_eq rfl rfl
  | .startEngine name spec => exact startEngine_obeys law name spec s
  | .dropEngine engine => exact law.since (closeAllUnused_obeys law _) rfl rfl
  | .current .. | .pending .. | .stats .. | .describeEngine .. => exact engineNamed_obeys law _ s
  | .refuse engine acquire submit =>
    exact named_obeys law (law.plain (.putEngine (.refl _)))
  | .define engine module name f =>
    exact named_obeys law (law.edited _ (hstep (.define module name f) (by simp [Step.edits])))
  | .undefine engine module name =>
    exact named_obeys law (law.edited _ (hstep (.undefine module name) (by simp [Step.edits])))
  | .resolveModule engine module name =>
    refine law.trans (engineNamed_obeys law engine s) ?_
    simp only [runStep]
    split <;> exact law.refl _
  | .submitUntilClosed _ =>
    exact withWorkerNamed_obeys law _ s fun w => submitUntilClosed_obeys law w s
  | .acquire engine name =>
    have h : R s ((engineNamed engine s).2.acquire (engineNamed engine s).1).2 :=
      named_obeys law (law.acquire _ _)
    simp only [runStep]
    generalize (engineNamed engine s).2.acquire (engineNamed engine s).1 = granted at h
    obtain ⟨c | w, s'⟩ := granted
    · exact h
    · exact law.keep h rfl rfl
  | .release engine worker =>
    exact named_obeys law (withWorkerNamed_obeys law _ _ fun w => law.release _ _ w)
  | .invoke worker target args =>
    exact withWorkerNamed_obeys law _ s fun w => invoke_obeys law hx w target args s
  | .submit worker target args =>
    exact withWorkerNamed_obeys law _ s fun w => handOver_obeys law hx w target args s
  | .leaseDuring engine steps =>
    exact named_obeys law (lease_obeys law _ _ (fun c s' => law.refl s')
      fun w s' => nested_obeys (Reply.leasedDuring w) (runSteps_obeys hx steps hstep s'))
  | .leaseFor engine target args =>
    exact named_obeys law (lease_obeys law _ _ (fun c s' => law.refl s')
      fun w s' => invoke_obeys law hx w target args s')
  | .inWorker engine steps =>
    exact named_obeys law (inWorker_obeys law hx _ _ fun s' =>
      nested_obeys id (runSteps_obeys hx steps hstep s'))
  | .panicInWorker engine =>
    simp only [runStep]
    split
    · exact engineNamed_obeys law engine s
    · exact named_obeys law (inPooled_obeys law hx _ _ fun s' => law.refl s')
  | .runPending engine => exact named_obeys law (runPending_obeys law hx _ _ _ _)
  | .synthesize d =>
    have h : R s (s.synthesize d).2 := law.of_eq rfl rfl
    simp only [runStep]
    generalize s.synthesize d = made at h
    obtain ⟨_ | type, s'⟩ := made
    · exact h
    · exact h
  | .newAdapter name engine d =>
    exact named_obeys law (law.trans (newAdapter_obeys law _ _ d) (finishAdapter_obeys law name _))
  | .construct name engine args =>
    exact named_obeys law
      (law.trans (construct_obeys law _ _ args) (finishAdapter_obeys law name _))
  | .withType name engine adapter =>
    refine withAdapter_obeys law _ s fun a => ?_
    exact law.andThen (engineNamed_obeys law engine s) (finishAdapter_obeys law name (.ok _, _))
      rfl rfl
  | .clone name adapter =>
    exact withAdapter_obeys law _ s fun a => finishAdapter_obeys law name (.ok a, s)
  | .typeInfo .. | .describe .. | .count .. | .events .. =>
    exact withAdapter_obeys law _ s fun a => law.refl s
  | .sameType adapter other =>
    exact withAdapter_obeys law _ s fun a => withAdapter_obeys law _ s fun b => law.refl s
  | .sameEngine adapter engine =>
    exact withAdapter_obeys law _ s fun a => engineNamed_obeys law engine s
  | .resolve .. | .slotAt .. =>
    refine withAdapter_obeys law _ s fun a => ?_
    split <;> exact law.refl s
  | .listen adapter event mode v name =>
    refine withAdapter_obeys law _ s fun a => ?_
    have h : R s (s.listen a event v mode).2 := listen_obeys law s a event v mode
    generalize s.listen a event v mode = made at h
    obtain ⟨_ | n, s'⟩ := made
    · exact h
    · exact law.trans h (nameHandle_obeys law name n s')
  | .unlisten adapter event handle =>
    refine withAdapter_obeys law _ s fun a => ?_
    split
    · exact law.refl s
    · exact law.of_eq rfl rfl
  | .unlistenValue .. | .unlistenAll .. =>
    exact withAdapter_obeys law _ s fun a => law.of_eq rfl rfl
  | .emit .. => exact withAdapter_obeys law _ s fun a => emit_obeys law hx a _ _ s
  | .call .. => exact withAdapter_obeys law _ s fun a => call_obeys law hx a _ _ s
  | .callSlot .. => exact withAdapter_obeys law _ s fun a => callSlot_obeys law hx a _ _ s
  | .newRegistry name => exact law.of_eq rfl rfl
  | .register registry engine event mode v name =>
    exact withRegistry_obeys law _ s fun r =>
      named_obeys law (register_obeys law r _ event mode v name _)
  | .unregister registry event handle =>
    refine withRegistry_obeys law _ s fun r => ?_
    split
    · exact law.refl s
    · exact law.of_eq rfl rfl
  | .unregisterValue .. | .unregisterMode .. | .clearEvent .. =>
    exact withRegistry_obeys law _ s fun r => law.of_eq rfl rfl
  | .registryState registry => exact withRegistry_obeys law _ s fun r => law.refl s
  | .snapshot registry event name =>
    exact withRegistry_obeys law _ s fun r => snapshotOf_obeys law r event name s
  | .dispatch snapshot index engine event args =>
    simp only [runStep]
    split
    · exact law.refl s
    · exact named_obeys law (dispatch_obeys law hx _ _ _ _ _)
  | .declared name engine trait => exact declare_obeys law name engine trait s
  | .callDeclared adapter method args => exact callDeclaredNamed_obeys law hx adapter method args s

theorem runSteps_obeys (hx : x.Obeys R) (steps : List Step)
    (hsteps : ∀ d ∈ editsOf steps, allowed d) (s : Relay) : R s (runSteps x steps s).2 := by
  match steps with
  | [] => exact law.refl s
  | step :: rest =>
    have hfirst : ∀ d ∈ step.edits, allowed d := fun d hd =>
      hsteps d (List.mem_append_left _ hd)
    have hrest : ∀ d ∈ editsOf rest, allowed d := fun d hd =>
      hsteps d (List.mem_append_right _ hd)
    have hran := runStep_obeys hx step hfirst s
    have hcons := runSteps_cons x step rest s
    generalize runSteps x (step :: rest) s = out at hcons ⊢
    cases hcons with
    | halted hstep | endless hstep =>
      rw [hstep] at hran
      exact hran
    | @reported exit s' result hstep =>
      rw [hstep] at hran
      have hreport : R s (report result s').2 := law.keep hran rfl rfl
      exact law.trans hreport (runSteps_obeys hx rest hrest _)

end

/-! ## Functions -/

theorem runActions_obeys (hx : x.Obeys R) (f : Function) (args : List Value)
    (actions : List Action) (hactions : ∀ d ∈ actions.flatMap Action.edits, allowed d)
    (s : Relay) : R s (runActions x f args actions s).2 := by
  induction actions generalizing s with
  | nil => exact law.refl s
  | cons action rest ih =>
    have hfirst : ∀ d ∈ action.edits, allowed d := fun d hd =>
      hactions d (List.mem_append_left _ hd)
    have hrest : ∀ d ∈ rest.flatMap Action.edits, allowed d := fun d hd =>
      hactions d (List.mem_append_right _ hd)
    match action with
    | .record => exact law.since (ih hrest (s.record (.str f.id :: args))) rfl rfl
    | .recordWorker engine =>
      exact law.andThen (engineNamed_obeys law engine s) (ih hrest _) rfl rfl
    | .fail _ | .panic _ | .ret _ => exact law.refl s
    | .retArg index | .retInt index =>
      simp only [runActions]
      split <;> exact law.refl s
    | .step step =>
      have h := runStep_obeys law hx step hfirst s
      simp only [runActions]
      generalize runStep x step s = out at h
      obtain ⟨exit, s'⟩ := out
      cases exit with
      | halt | panic => exact h
      | ok | error => exact law.andThen h (ih hrest _) rfl rfl
    | .attempt step =>
      have h := runStep_obeys law hx step hfirst s
      simp only [runActions]
      generalize runStep x step s = out at h
      obtain ⟨exit, s'⟩ := out
      cases exit with
      | halt | panic => exact h
      | ok => exact law.andThen h (ih hrest _) rfl rfl
      | error => exact law.keep h rfl rfl

theorem behave_obeys (hx : x.Obeys R) (b : Behaviour) (hb : ∀ d ∈ b.edits, allowed d)
    (f : Function) (args : List Value) (s : Relay) : R s (behave x b f args s).2 := by
  cases b with
  | returning | tagged | opener => exact law.of_eq rfl rfl
  | blocker gate =>
    simp only [behave]
    split <;> exact law.refl s
  | body actions limit =>
    have hrun := law.since (s := s)
      (runActions_obeys law hx f args actions hb { s with calls := f.id :: s.calls }) rfl rfl
    cases limit with
    | none => exact hrun
    | some n =>
      simp only [behave]
      split
      · exact law.refl s
      · exact hrun

end

theorem callAt_obeys {allowed : Edit → Prop} {R : Relay → Relay → Prop} (law : Law allowed R)
    {program : Program} (hprogram : ∀ d ∈ program.edits, allowed d) (depth : Nat) :
    (callAt program depth).Obeys R := by
  induction depth with
  | zero => exact fun _ _ s => law.refl s
  | succ depth ih =>
    have hx : (runnerOf (callAt program depth) depth).Obeys R :=
      ⟨ih, settle_obeys law.frame ih depth⟩
    exact fun f args s => behave_obeys law hx (program.behaviour f)
      (fun d hd => hprogram d (Program.mem_edits hd)) f args s

theorem runner_obeys {allowed : Edit → Prop} {R : Relay → Relay → Prop} (law : Law allowed R)
    {program : Program} (hprogram : ∀ d ∈ program.edits, allowed d) (depth : Nat) :
    (runner program depth).Obeys R :=
  have hcall := callAt_obeys law hprogram depth
  ⟨hcall, settle_obeys law.frame hcall depth⟩

end Script
end EventRelay
