import EventRelay.Proofs.Course
import EventRelay.Proofs.Script.Balance

/-!
# EventRelay.Proofs.Script.Course

Scripts have courses.

* `dispatch_course`, `emit_course`, `callDeclared_course` and their like: so do emissions and calls
  of methods, if calls of functions do.
* `runStep_course`, `runSteps_course`: so do steps, by induction on steps and lists of steps. Only
  steps that take workers by themselves move workers outside of what is nested.
* `callAt_course`, `runner_course`: and so do calls of functions, by induction on how deep they
  nest.
-/

namespace EventRelay

namespace Relay

section

variable {x : Runner} {loose : Prop} {calls : Relay → Option Halt → Relay → Prop}
  {exits : Exits}

/-- What scripts keep may change after anything. -/
theorem Course.record {s s' : Relay} (h : Course loose calls exits s none s') (names : Names)
    (called gates : List String) (log : List (List Value)) (inner : List Reply)
    (reported : Reported) :
    Course loose calls exits s none { s' with
      names := names, calls := called, gates := gates, log := log, inner := inner
      reported := reported } :=
  h.andThen (.change (.record names called gates log inner reported s'.stalled)
    (.of_eq rfl rfl rfl rfl rfl))

/-! ## Emission -/

theorem runOn_course (hx : x.Courses loose calls exits) (e : EngineId) (event : String)
    (l : Listener) (args : List Value) (w : Worker) (s : Relay) :
    CourseOf loose calls exits s ((host x e).runOn event l args w s) := by
  unfold Host.runOn
  simp only [host]
  split
  · have h := invoke_course hx w l.target args s
    generalize invoke x w l.target args s = out at h
    obtain ⟨exit, s'⟩ := out
    cases exit <;> exact h
  · have h : Course loose calls exits s none (handOver x w l.target args s).2 :=
      handOver_course hx w l.target args s
    generalize handOver x w l.target args s = out at h
    obtain ⟨c | _, s'⟩ := out
    · exact h.andThen (warn_course s' rfl)
    · exact h

theorem dispatch_course (hx : x.Courses loose calls exits) (e : EngineId) (event : String)
    (l : Listener) (args : List Value) (s : Relay) :
    CourseOf loose calls exits s ((host x e).dispatch event l args s) := by
  unfold Host.dispatch
  split
  · exact runOn_course hx e event l args _ s
  · refine lease_course e s (fun c s' => ?_) (runOn_course hx e event l args)
    unfold Host.withoutWorker
    split
    · exact .stay s'
    · exact warn_course s' rfl

theorem emitTo_course (hx : x.Courses loose calls exits) (e : EngineId) (event : String)
    (args : List Value) (ls : List Listener) (s : Relay) :
    CourseOf loose calls exits s ((host x e).emitTo event args ls s) := by
  induction ls generalizing s with
  | nil => exact .stay s
  | cons l rest ih =>
    have h := dispatch_course hx e event l args s
    unfold Host.emitTo
    generalize (host x e).dispatch event l args s = out at h
    obtain ⟨exit, s'⟩ := out
    cases exit with
    | ok => exact h.andThen (ih s')
    | error | panic | halt => exact h

theorem emit_course (hx : x.Courses loose calls exits) (a : AdapterId) (event : String)
    (args : List Value) (s : Relay) : CourseOf loose calls exits s (emit x a event args s) :=
  emitTo_course (hx.keeping _) _ _ _ _ s

/-! ## Calls of methods -/

theorem forward_course (hx : x.Courses loose calls exits) (a : AdapterId) (slot : Slot)
    (args : List Value) (s : Relay) : CourseOf loose calls exits s (forward x a slot args s) := by
  unfold forward
  split
  · exact .stay s
  · have h := emit_course hx a slot.name args s
    generalize emit x a slot.name args s = out at h
    obtain ⟨exit, s'⟩ := out
    cases exit <;> exact h

theorem call_course (hx : x.Courses loose calls exits) (a : AdapterId) (method : String)
    (args : List Value) (s : Relay) : CourseOf loose calls exits s (call x a method args s) := by
  unfold call
  split
  · exact forward_course hx a _ args s
  · exact .stay s

theorem callSlot_course (hx : x.Courses loose calls exits) (a : AdapterId) (index : Nat)
    (args : List Value) (s : Relay) : CourseOf loose calls exits s (callSlot x a index args s) := by
  unfold callSlot
  split
  · exact forward_course hx a _ args s
  · exact .stay s

theorem callDeclared_course (hx : x.Courses loose calls exits) (a : AdapterId) (index : Nat)
    (m : Interface.DeclaredMethod) (args : List Value) (s : Relay) :
    CourseOf loose calls exits s (callDeclared x a index m args s) := by
  have h := callSlot_course hx a index (List.zipWith convertArgument m.params args) s
  unfold callDeclared
  generalize callSlot x a index (List.zipWith convertArgument m.params args) s = out at h
  obtain ⟨exit, s'⟩ := out
  cases exit with
  | error | panic | halt => exact h
  | ok v =>
    dsimp only
    split <;> exact h

/-! ## Adapters -/

theorem synthesize_course (s : Relay) (d : Descriptor) :
    Course loose calls exits s none (s.synthesize d).2 :=
  .change (.types _) (.of_eq rfl rfl rfl rfl rfl)

theorem addAdapter_course (s : Relay) (e : EngineId) (type : AdapterType) :
    Course loose calls exits s none (s.addAdapter e type).2 :=
  .change (.addAdapter e type) (.of_eq rfl rfl rfl rfl rfl)

theorem newAdapter_course (s : Relay) (e : EngineId) (d : Descriptor) :
    Course loose calls exits s none (s.newAdapter e d).2 := by
  have h : Course loose calls exits s none (s.synthesize d).2 := synthesize_course s d
  unfold newAdapter
  generalize s.synthesize d = made at h
  obtain ⟨_ | type, s'⟩ := made
  · exact h
  · exact h.andThen (addAdapter_course s' e type)

theorem construct_course (s : Relay) (e : EngineId) (args : List Value) :
    Course loose calls exits s none (s.construct e args).2 := by
  unfold construct
  split
  · exact newAdapter_course s e _
  · exact .stay s
  · exact .stay s

theorem closeAllUnused_course (s : Relay) : Course loose calls exits s none s.closeAllUnused := by
  unfold closeAllUnused
  induction List.range s.engines.size generalizing s with
  | nil => exact .stay s
  | cons e es ih =>
    have hc : Course loose calls exits s none (s.closeUnused e) :=
      .change (.closeUnused e) (.closeUnused e)
    exact hc.andThen (ih (s.closeUnused e))

end

end Relay

namespace Script

open Relay

section

variable {x : Runner} {loose : Prop} {calls : Relay → Option Halt → Relay → Prop}
  {exits : Exits} {s₀ : Relay}

/-! ## Parts of steps -/

theorem engineNamed_course (name : String) (s : Relay) :
    Course loose calls exits s none (engineNamed name s).2 := by
  unfold engineNamed
  split
  · exact .stay s
  · have hadd : Course loose calls exits s none (s.putEngine s.engines.size Engine.blank) :=
      .change (.addEngine _ (.inline Modules.empty)) (.addEngine (.inline Modules.empty))
    exact hadd.record _ _ _ _ _ _

theorem addEngine_course (name : String) (kind : EngineKind) (hkind : FreshKind kind) (s : Relay) :
    Course loose calls exits s none (addEngine name kind s) := by
  have hadd : Course loose calls exits s none (s.putEngine s.engines.size (Engine.ofKind kind)) :=
    .change (.addEngine kind hkind) (.addEngine hkind)
  exact (hadd.record _ _ _ _ _ _).andThen (closeAllUnused_course _)

theorem startEngine_course (name : String) (spec : EngineSpec) (s : Relay) :
    CourseOf loose calls exits s (startEngine name spec s) := by
  unfold startEngine
  split
  · exact addEngine_course name _ (.inline _) s
  · split
    · exact .stay s
    · exact addEngine_course name _ (.pooled _ _) s

theorem nameAdapter_course (name : String) (a : AdapterId) (s : Relay) :
    Course loose calls exits s none (nameAdapter name a s) :=
  ((Course.stay s).record _ _ _ _ _ _).andThen (closeAllUnused_course _)

theorem nameHandle_course (name : Option String) (n : Nat) (s : Relay) :
    Course loose calls exits s none (nameHandle name n s) := by
  unfold nameHandle
  split
  · exact (Course.stay s).record _ _ _ _ _ _
  · exact .stay s

theorem putExports_course (e : EngineId) (m : Modules) (s : Relay) :
    Course loose calls exits s none (putExports e m s) :=
  .change (.putExports e m) (.putExports e m)

theorem finishAdapter_course (name : String) (made : Except AdapterError AdapterId × Relay) :
    CourseOf loose calls exits made.2 (finishAdapter name made) := by
  obtain ⟨_ | a, s⟩ := made
  · exact .stay s
  · exact nameAdapter_course name a s

theorem register_course (r : Nat) (e : EngineId) (event : String) (mode : Mode) (v : Value)
    (name : Option String) (s : Relay) :
    CourseOf loose calls exits s (register r e event mode v name s) := by
  have hnew := Steady.newListener (s := s) e v mode
  unfold register
  cases hm : s.newListener e v mode with
  | mk made s' =>
    rw [hm] at hnew
    cases made with
    | error error =>
      unfold newListener at hm
      split at hm
      · cases hm
        exact .stay s
      · cases hm
    | ok l =>
      have hput : Steady s (s'.putRegistry r ((s'.registry r).add event l)) :=
        hnew.trans (.of_eq rfl rfl rfl rfl rfl)
      exact .andThen (.change (.register r e event v mode l s' hm) hput)
        (nameHandle_course name l.handle _)

theorem snapshotOf_course (r : Nat) (event name : String) (s : Relay) :
    CourseOf loose calls exits s (snapshotOf r event name s) := by
  unfold snapshotOf
  split
  · exact .stay s
  · exact (Course.stay s).record _ _ _ _ _ _

theorem declare_course (name engine trait : String) (s : Relay) :
    CourseOf loose calls exits s (declare name engine trait s) := by
  unfold declare
  split
  · exact .stay s
  · rename_i d _
    have h : Course loose calls exits s none
        ((engineNamed engine s).2.newAdapter (engineNamed engine s).1 d.descriptor).2 :=
      (engineNamed_course engine s).andThen (newAdapter_course _ _ d.descriptor)
    dsimp only
    generalize (engineNamed engine s).2.newAdapter (engineNamed engine s).1 d.descriptor = made at h
    obtain ⟨_ | a, s'⟩ := made
    · exact h
    · exact (h.andThen (nameAdapter_course name a s')).record _ _ _ _ _ _

theorem report_course (result : Except Panic Reply) (s : Relay) :
    Course loose calls exits s none (report result s).2 :=
  (Course.stay s).record _ _ _ _ _ _

theorem noteInner_course (reply : Reply) (s : Relay) :
    Course loose calls exits s none (noteInner reply s) :=
  (Course.stay s).record _ _ _ _ _ _

theorem submitUntilClosed_course (w : Worker) (s : Relay) :
    CourseOf loose calls exits s (submitUntilClosed w s) := by
  unfold submitUntilClosed
  split
  · split
    · exact .spent s
    · exact .stay s
  · exact .spent s

theorem withAdapter_course {body : AdapterId → Exit Fault Reply × Relay} (name : String)
    (s : Relay) (h : ∀ a, CourseOf loose calls exits s (body a)) :
    CourseOf loose calls exits s (withAdapter name s body) := by
  unfold withAdapter
  split
  · exact h _
  · exact .stay s

theorem withWorkerNamed_course {body : Worker → Exit Fault Reply × Relay} (name : String)
    (s : Relay) (h : ∀ w, CourseOf loose calls exits s (body w)) :
    CourseOf loose calls exits s (withWorkerNamed name s body) := by
  unfold withWorkerNamed
  split
  · exact h _
  · exact .stay s

theorem withRegistry_course {body : Nat → Exit Fault Reply × Relay} (name : String)
    (s : Relay) (h : ∀ r, CourseOf loose calls exits s (body r)) :
    CourseOf loose calls exits s (withRegistry name s body) := by
  unfold withRegistry
  split
  · exact h _
  · exact .stay s

theorem answer_course {α : Type} {reply : α → Reply} {out : Exit InvocationError α × Relay}
    (h : CourseOf loose calls exits s₀ out) : CourseOf loose calls exits s₀ (answer reply out) := by
  simpa [answer, CourseOf] using h

theorem workerAnswer_course {α : Type} {reply : α → Reply} {out : Exit Cause α × Relay}
    (h : CourseOf loose calls exits s₀ out) :
    CourseOf loose calls exits s₀ (workerAnswer reply out) := by
  simpa [workerAnswer, CourseOf] using h

theorem ofExcept_course {s s' : Relay} {ε α : Type} (result : Except ε α)
    (h : Course loose calls exits s none s') :
    CourseOf loose calls exits s (Exit.ofExcept result, s') := by
  cases result <;> exact h

theorem callDeclaredNamed_course (hx : x.Courses loose calls exits) (name method : String)
    (args : List Value) (s : Relay) :
    CourseOf loose calls exits s (callDeclaredNamed x name method args s) := by
  unfold callDeclaredNamed
  split
  · exact .stay s
  · split
    · exact .stay s
    · rename_i a _ _ _ index m _
      have h := callDeclared_course hx a index m args s
      generalize callDeclared x a index m args s = out at h
      obtain ⟨exit, s'⟩ := out
      cases exit <;> exact h

/-! ## Steps -/

/-- Why listed steps do not end, if they do not. -/
def haltOf {β : Type} : Except Halt β → Option Halt
  | .ok _ => none
  | .error h => some h

@[simp] theorem haltOf_following (first : Report) (out : Except Halt (List Report) × Relay) :
    haltOf (following first out).1 = haltOf out.1 := by
  obtain ⟨_ | _, s⟩ := out <;> rfl

/-- Listed steps as the body of an operation. -/
theorem nested_course {α : Type} {steps : List Step} {s : Relay} (wrap : List Report → α)
    (h : Course loose calls exits s (haltOf (runSteps x steps s).1) (runSteps x steps s).2) :
    let out : Exit Fault α × Relay :=
      match runSteps x steps s with
      | (.ok reports, s) => (.ok (wrap reports), s)
      | (.error h, s) => (.halt h, s)
    CourseOf loose calls exits s out := by
  dsimp only
  generalize runSteps x steps s = out at h
  obtain ⟨_ | reports, s'⟩ := out
  · exact h
  · exact h

mutual

theorem runStep_course (hx : x.Courses loose calls exits) (step : Step)
    (hstep : step.takesWorkers = true → loose) (s : Relay) :
    CourseOf loose calls exits s (runStep x step s) := by
  match step with
  | .lookup .. | .installed | .gate .. | .recorded .. => exact .stay s
  | .openGate .. => exact (Course.stay s).record _ _ _ _ _ _
  | .startEngine name spec => exact startEngine_course name spec s
  | .dropEngine engine =>
    exact ((Course.stay s).record _ _ _ _ _ _).andThen (closeAllUnused_course _)
  | .current .. | .pending .. | .stats .. | .describeEngine .. => exact engineNamed_course _ s
  | .refuse engine acquire submit =>
    exact (engineNamed_course engine s).andThen (.change (.refuse _ _ _) (.putEngine rfl))
  | .define .. | .undefine .. => exact (engineNamed_course _ s).andThen (putExports_course _ _ _)
  | .resolveModule engine module name =>
    refine (engineNamed_course engine s).andThen ?_
    simp only [runStep]
    split <;> exact .stay _
  | .submitUntilClosed _ =>
    exact withWorkerNamed_course _ s fun w => submitUntilClosed_course w s
  | .acquire engine name =>
    have hloose : loose := hstep (by simp [Step.takesWorkers])
    have h : Course loose calls exits s none
        ((engineNamed engine s).2.acquire (engineNamed engine s).1).2 :=
      (engineNamed_course engine s).andThen (acquire_course hloose _ _)
    simp only [runStep]
    generalize (engineNamed engine s).2.acquire (engineNamed engine s).1 = granted at h
    obtain ⟨c | w, s'⟩ := granted
    · exact h
    · exact h.record _ _ _ _ _ _
  | .release engine worker =>
    have hloose : loose := hstep (by simp [Step.takesWorkers])
    exact (engineNamed_course engine s).andThen
      (withWorkerNamed_course _ _ fun w => release_course hloose _ _ w)
  | .invoke worker target args =>
    exact withWorkerNamed_course _ s fun w => workerAnswer_course (invoke_course hx w target args s)
  | .submit worker target args =>
    exact withWorkerNamed_course _ s fun w =>
      workerAnswer_course (ofExcept_course _ (handOver_course hx w target args s))
  | .leaseDuring engine steps =>
    have hsteps : stepsTakeWorkers steps = true → loose := fun h => hstep h
    exact (engineNamed_course engine s).andThen (lease_course _ _ (fun c s' => .stay s')
      fun w s' => nested_course (Reply.leasedDuring w) (runSteps_course hx steps hsteps s'))
  | .leaseFor engine target args =>
    exact (engineNamed_course engine s).andThen (lease_course _ _ (fun c s' => .stay s')
      fun w s' => workerAnswer_course (invoke_course hx w target args s'))
  | .inWorker engine steps =>
    have hsteps : stepsTakeWorkers steps = true → loose := fun h => hstep h
    simp only [runStep]
    generalize hbody : (fun s' => _ : Relay → Exit Fault (List Report) × Relay) = body
    have h : CourseOf loose calls exits (engineNamed engine s).2
        (inWorker x (engineNamed engine s).1 body (engineNamed engine s).2).2 := by
      refine inWorker_course hx _ _ fun s' => ?_
      rw [← hbody]
      exact nested_course id (runSteps_course hx steps hsteps s')
    exact (engineNamed_course engine s).andThen (by simpa [CourseOf] using h)
  | .panicInWorker engine =>
    refine (engineNamed_course engine s).andThen ?_
    simp only [runStep]
    split
    · exact .stay _
    · exact inPooled_course hx _ _ fun s' => .stay s'
  | .runPending engine =>
    exact (engineNamed_course engine s).andThen (workerAnswer_course (runPending_course hx _ _ _ _))
  | .synthesize d =>
    have h : Course loose calls exits s none (s.synthesize d).2 := synthesize_course s d
    simp only [runStep]
    generalize s.synthesize d = made at h
    obtain ⟨_ | type, s'⟩ := made
    · exact h
    · exact h
  | .newAdapter name engine d =>
    exact ((engineNamed_course engine s).andThen (newAdapter_course _ _ d)).andThen
      (finishAdapter_course name _)
  | .construct name engine args =>
    exact ((engineNamed_course engine s).andThen (construct_course _ _ args)).andThen
      (finishAdapter_course name _)
  | .withType name engine adapter =>
    refine withAdapter_course _ s fun a => ?_
    exact ((engineNamed_course engine s).andThen (addAdapter_course _ _ _)).andThen
      (finishAdapter_course name (.ok _, _))
  | .clone name adapter =>
    exact withAdapter_course _ s fun a => finishAdapter_course name (.ok a, s)
  | .typeInfo .. | .describe .. | .count .. | .events .. =>
    exact withAdapter_course _ s fun a => .stay s
  | .sameType adapter other =>
    exact withAdapter_course _ s fun a => withAdapter_course _ s fun b => .stay s
  | .sameEngine adapter engine =>
    exact withAdapter_course _ s fun a => engineNamed_course engine s
  | .resolve .. | .slotAt .. =>
    refine withAdapter_course _ s fun a => ?_
    split <;> exact .stay s
  | .listen adapter event mode v name =>
    refine withAdapter_course _ s fun a => ?_
    have h : Course loose calls exits s none (s.listen a event v mode).2 :=
      .change (.request (.listen a event v mode)) (.request (.listen a event v mode))
    generalize s.listen a event v mode = made at h
    obtain ⟨_ | n, s'⟩ := made
    · exact h
    · exact h.andThen (nameHandle_course name n s')
  | .unlisten adapter event handle =>
    refine withAdapter_course _ s fun a => ?_
    split
    · exact .stay s
    · exact .change (.request (.unlisten a event _)) (.request (.unlisten a event _))
  | .unlistenValue adapter event v =>
    exact withAdapter_course _ s fun a =>
      .change (.request (.unlistenValue a event v)) (.request (.unlistenValue a event v))
  | .unlistenAll adapter event =>
    exact withAdapter_course _ s fun a =>
      .change (.request (.unlistenAll a event)) (.request (.unlistenAll a event))
  | .emit .. => exact withAdapter_course _ s fun a => answer_course (emit_course hx a _ _ s)
  | .call .. => exact withAdapter_course _ s fun a => answer_course (call_course hx a _ _ s)
  | .callSlot .. => exact withAdapter_course _ s fun a => answer_course (callSlot_course hx a _ _ s)
  | .newRegistry name =>
    have h : Course loose calls exits s none (s.putRegistry s.registries.size Registry.empty) :=
      .change .newRegistry (.of_eq rfl rfl rfl rfl rfl)
    exact h.record _ _ _ _ _ _
  | .register registry engine event mode v name =>
    exact withRegistry_course _ s fun r =>
      (engineNamed_course engine s).andThen (register_course r _ event mode v name _)
  | .unregister registry event handle =>
    refine withRegistry_course _ s fun r => ?_
    split
    · exact .stay s
    · exact .change (.unregister r event _) (.of_eq rfl rfl rfl rfl rfl)
  | .unregisterValue registry event v =>
    exact withRegistry_course _ s fun r =>
      .change (.unregister r event _) (.of_eq rfl rfl rfl rfl rfl)
  | .unregisterMode registry event mode =>
    exact withRegistry_course _ s fun r =>
      .change (.unregister r event _) (.of_eq rfl rfl rfl rfl rfl)
  | .clearEvent registry event =>
    exact withRegistry_course _ s fun r =>
      .change (.clearEvent r event) (.of_eq rfl rfl rfl rfl rfl)
  | .registryState registry => exact withRegistry_course _ s fun r => .stay s
  | .snapshot registry event name =>
    exact withRegistry_course _ s fun r => snapshotOf_course r event name s
  | .dispatch snapshot index engine event args =>
    simp only [runStep]
    split
    · exact .stay s
    · exact (engineNamed_course engine s).andThen (answer_course (dispatch_course hx _ _ _ _ _))
  | .declared name engine trait => exact declare_course name engine trait s
  | .callDeclared adapter method args => exact callDeclaredNamed_course hx adapter method args s

theorem runSteps_course (hx : x.Courses loose calls exits) (steps : List Step)
    (hsteps : stepsTakeWorkers steps = true → loose) (s : Relay) :
    Course loose calls exits s (haltOf (runSteps x steps s).1) (runSteps x steps s).2 := by
  match steps with
  | [] => exact .stay s
  | step :: rest =>
    have hfirst : step.takesWorkers = true → loose :=
      fun h => hsteps (by simp [stepsTakeWorkers, h])
    have hrest : stepsTakeWorkers rest = true → loose :=
      fun h => hsteps (by simp [stepsTakeWorkers, h])
    have hran := runStep_course hx step hfirst s
    have hcons := runSteps_cons x step rest s
    generalize runSteps x (step :: rest) s = out at hcons ⊢
    cases hcons with
    | halted hstep =>
      rw [hstep] at hran
      exact hran
    | endless hstep hleft hend =>
      rw [hstep] at hran
      exact (hran.of_leaves hleft).andThen (.endless hend)
    | reported result hstep hleft _ =>
      rw [hstep] at hran
      have hran := hran.of_leaves hleft
      rw [haltOf_following]
      exact (hran.andThen (report_course result _)).andThen (runSteps_course hx rest hrest _)

end

/-- Listed steps that all ran have waited for the jobs that they queued. -/
theorem runSteps_settled (hx : x.Courses loose NoCalls exits) {steps : List Step} {s : Relay}
    (hloose : loose) (hs : s.stack = []) (hqueue : steps = [] → s.queue = [])
    (hran : haltOf (runSteps x steps s).1 = none) : (runSteps x steps s).2.queue = [] := by
  induction steps generalizing s with
  | nil => exact hqueue rfl
  | cons step rest ih =>
    have hcourse := runStep_course hx step (fun _ => hloose) s
    have hcons := runSteps_cons x step rest s
    generalize runSteps x (step :: rest) s = out at hran hcons ⊢
    cases hcons with
    | halted | endless => cases hran
    | @reported exit s' result hstep hleft hend =>
      rw [hstep] at hcourse
      have hleft : s'.stack = [] := (hcourse.of_leaves hleft).stack_eq.trans hs
      have hwaiting : s'.queue = [] := by simpa [endless?, hleft] using hend
      rw [haltOf_following] at hran
      exact ih (s := (report result s').2) hleft (fun _ => hwaiting) hran

/-! ## Functions -/

theorem runActions_course (hx : x.Courses loose calls exits) (f : Function) (args : List Value)
    (actions : List Action) (hactions : actions.any Action.takesWorkers = true → loose)
    (s : Relay) : CourseOf loose calls exits s (runActions x f args actions s) := by
  induction actions generalizing s with
  | nil => exact .stay s
  | cons action rest ih =>
    have hfirst : action.takesWorkers = true → loose := fun h => hactions (by simp [h])
    have hrest : rest.any Action.takesWorkers = true → loose := fun h => hactions (by simp [h])
    match action with
    | .record => exact ((Course.stay s).record _ _ _ _ _ _).andThen (ih hrest _)
    | .recordWorker engine =>
      exact ((engineNamed_course engine s).record _ _ _ _ _ _).andThen (ih hrest _)
    | .fail _ | .panic _ | .ret _ => exact .stay s
    | .retArg index | .retInt index =>
      simp only [runActions]
      split <;> exact .stay s
    | .step step =>
      have h := runStep_course hx step hfirst s
      simp only [runActions]
      generalize runStep x step s = out at h
      obtain ⟨exit, s'⟩ := out
      cases exit with
      | halt | panic => exact h
      | ok | error => exact (h.andThen (noteInner_course _ s')).andThen (ih hrest _)
    | .attempt step =>
      have h := runStep_course hx step hfirst s
      simp only [runActions]
      generalize runStep x step s = out at h
      obtain ⟨exit, s'⟩ := out
      cases exit with
      | halt | panic => exact h
      | ok => exact (h.andThen (noteInner_course _ s')).andThen (ih hrest _)
      | error => exact h.andThen (noteInner_course _ s')

theorem behave_course (hx : x.Courses loose calls exits) (b : Behaviour)
    (hb : b.takesWorkers = true → loose) (f : Function) (args : List Value) (s : Relay) :
    CourseOf loose calls exits s (behave x b f args s) := by
  cases b with
  | returning | tagged | opener => exact (Course.stay s).record _ _ _ _ _ _
  | blocker gate =>
    simp only [behave]
    split <;> exact .stay s
  | body actions limit =>
    have hrun := ((Course.stay s).record s.names (f.id :: s.calls) s.gates s.log s.inner
      s.reported).andThen (runActions_course hx f args actions hb _)
    cases limit with
    | none => exact hrun
    | some n =>
      simp only [behave]
      split
      · exact .stay s
      · exact hrun

end

/-- The ways out of the calls of a program, from any state and however deep calls may nest. -/
def Program.Exits (program : Program) : Exits :=
  fun f args exit => ∃ depth s, (callAt program depth f args s).1 = exit

theorem callAt_course {loose : Prop} {program : Program}
    (hprogram : program.takesWorkers = true → loose) (depth : Nat) :
    (callAt program depth).Courses loose NoCalls program.Exits where
  course := by
    induction depth with
    | zero => exact fun _ _ s => .spent s
    | succ depth ih =>
      have hcall : (callAt program depth).Courses loose NoCalls program.Exits :=
        ⟨ih, fun f args s => ⟨depth, s, rfl⟩⟩
      have hx : (runnerOf (callAt program depth) depth).Courses loose NoCalls program.Exits :=
        ⟨hcall, settle_course hcall depth⟩
      exact fun f args s => behave_course hx (program.behaviour f)
        (fun h => hprogram (Program.takesWorkers_of_behaviour h)) f args s
  exits f args s := ⟨depth, s, rfl⟩

theorem runner_course {loose : Prop} {program : Program}
    (hprogram : program.takesWorkers = true → loose) (depth : Nat) :
    (runner program depth).Courses loose NoCalls program.Exits :=
  have hcall := callAt_course hprogram depth
  ⟨hcall, settle_course hcall depth⟩

end Script
end EventRelay
