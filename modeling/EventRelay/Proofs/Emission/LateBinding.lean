import EventRelay.Proofs.Emission.Binding
import EventRelay.Proofs.Host.Entry
import EventRelay.Proofs.Host.Flow
import EventRelay.Proofs.Script.Law

/-!
# EventRelay.Proofs.Emission.LateBinding

Exports are looked up when they run.

* `Relay.Edited`: what any code does to the modules of a pooled engine, some of the edits that are
  written down. `Edited.law`: every change of the state is such.
* `Relay.callExport`: the call of what is exported under a pair right now. `invoke_export`,
  `runJob_export`: this is what a worker does that is asked to run a module reference.
* `deliveries_obeys`, `Begins.obeys`: laws hold of what comes before a dispatch in an emission, and
  before a job in a drain.
* `Relay.Exporting`: the exports of an engine after a history of edits. `Relay.LateBound`: how a
  session uses them.
* `exports_late_bound`: so each reference is looked up in the exports as they are when it runs.
-/

namespace EventRelay
namespace Relay

/-! ## Edits of modules -/

/-- The modules of a pooled engine have gone through some allowed edits. -/
def Edited (allowed : Edit → Prop) (e : EngineId) (s s' : Relay) : Prop :=
  ∀ p, (s.engine e).kind = .pooled p → ∃ p' h, (s'.engine e).kind = .pooled p' ∧
    p'.modules = p.modules.edited h ∧ ∀ d ∈ h, allowed d

section

variable {allowed : Edit → Prop} {e : EngineId} {s s' s'' : Relay}

namespace Edited

/-- The modules are as they were. -/
theorem of_kind (h : ∀ p, (s.engine e).kind = .pooled p → ∃ p', (s'.engine e).kind = .pooled p' ∧
    p'.modules = p.modules) : Edited allowed e s s' := by
  intro p hp
  obtain ⟨p', hp', hmodules⟩ := h p hp
  exact ⟨p', [], hp', hmodules, by simp⟩

theorem refl (allowed : Edit → Prop) (e : EngineId) (s : Relay) : Edited allowed e s s :=
  of_kind fun p hp => ⟨p, hp, rfl⟩

theorem trans (h : Edited allowed e s s') (h' : Edited allowed e s' s'') :
    Edited allowed e s s'' := by
  intro p hp
  obtain ⟨p', first, hp', hmodules, hfirst⟩ := h p hp
  obtain ⟨p'', second, hp'', hmodules', hsecond⟩ := h' p' hp'
  refine ⟨p'', first ++ second, hp'', ?_, fun d hd => ?_⟩
  · rw [hmodules', hmodules, Modules.edited_append]
  · rcases List.mem_append.mp hd with hd | hd
    · exact hfirst d hd
    · exact hsecond d hd

theorem of_plain (h : s.Plain s') : Edited allowed e s s' := by
  refine of_kind fun p hp => ?_
  have hkind := h.kinds e
  rw [hp] at hkind
  cases hk : (s'.engine e).kind with
  | inline i =>
    rw [hk] at hkind
    cases hkind
  | pooled p' =>
    rw [hk] at hkind
    cases hkind with
    | pooled hmodules => exact ⟨p', rfl, hmodules⟩

/-- An engine is replaced that is not pooled. -/
theorem putEngine {e' : EngineId} {engine : Engine} {i : InlineEngine}
    (hk : (s.engine e').kind = .inline i) : Edited allowed e s (s.putEngine e' engine) := by
  refine of_kind fun p hp => ⟨p, ?_, rfl⟩
  rw [engine_putEngine]
  split
  · rename_i he
    rw [he, hp] at hk
    cases hk
  · exact hp

theorem setCurrent (e' : EngineId) (current : Option Nat) :
    Edited allowed e s (s.setCurrent e' current) := by
  unfold Relay.setCurrent
  cases hk : (s.engine e').kind with
  | inline i => exact putEngine hk
  | pooled p => exact refl allowed e s

theorem opened {e' : EngineId} {i : InlineEngine} (hk : (s.engine e').kind = .inline i) :
    Edited allowed e s (s.opened e') := by
  refine of_kind fun p hp => ⟨p, ?_, rfl⟩
  rw [engine_opened hk]
  split
  · rename_i he
    rw [he, hp] at hk
    cases hk
  · exact hp

theorem begun {e' : EngineId} {job : Job} (h : s.nextJob? e' = some (job, s')) :
    Edited allowed e s s' := by
  obtain ⟨i, rest, hk, -, rfl⟩ := nextJob?_eq_some h
  exact putEngine hk

theorem edit (e' : EngineId) {d : Edit} (hd : allowed d) :
    Edited allowed e s (Script.putExports e' ((Script.exportsOf e' s).edit d) s) := by
  unfold Script.putExports
  cases hk : (s.engine e').kind with
  | inline i => exact putEngine hk
  | pooled p₀ =>
    intro p hp
    dsimp only
    rw [putKind, engine_putEngine]
    split
    · rename_i he
      subst he
      rw [hk] at hp
      cases hp
      refine ⟨_, [d], rfl, ?_, by simpa using hd⟩
      simp only [Script.exportsOf, hk, Modules.edited_singleton]
    · exact ⟨p, [], hp, rfl, by simp⟩

theorem law (allowed : Edit → Prop) (e : EngineId) : Law allowed (Edited allowed e) where
  refl := .refl allowed e
  trans := .trans
  plain := .of_plain
  addEngine {s _} _ := .putEngine (congrArg Engine.kind (engine_size s))
  accepted {s w _} t args hk := .putEngine (s := s.note (.submitted w t args true)) hk
  begun := .begun
  returned hk h := ((Edited.opened hk).trans h).trans (.setCurrent _ _)
  unwound hk h := (Edited.opened hk).trans h
  edited e' _ hd := .edit e' hd

end Edited

end

/-! ## What runs -/

/-- Calls the function that is exported under a pair, or fails with an error that names it. -/
def callExport (call : Caller) (m : Modules) (module name : String) (args : List Value)
    (s : Relay) : Exit Cause Value × Relay :=
  match m.resolve module name with
  | .ok f => call f args s
  | .error error => (.error (.host error), s)

/-- A job calls what some modules export under a pair, inside its worker. -/
def RunsExport (call : Caller) (keeps : Keeps) (m : Modules) (module name : String) (job : Job)
    (s : Relay) : Prop :=
  let held := keeps s job.home job.number || s.holds job.home job.number
  runJob call keeps job s =
    match within ⟨job.home, job.number, held⟩ (callExport call m module name job.args) s with
    | (.halt h, s') => (some h, s')
    | (exit, s') => (none, s'.conclude job (s'.complaint? job exit))

section

variable {ε α : Type} {x : Runner} {call : Caller} {keeps : Keeps} {e : EngineId} {s s' : Relay}
  {p : PooledEngine} {module name : String} {args : List Value}
  {body body' : Relay → Exit ε α × Relay} {m : Marker}

theorem callee_export (h : (s.engine e).kind = .pooled p) :
    s.callee e (.export module name) = (p.modules.resolve module name).mapError .host := by
  simp only [callee, h]
  cases p.modules.resolve module name <;> rfl

theorem runTarget_export (h : (s.engine e).kind = .pooled p) :
    runTarget call e (.export module name) args s =
      callExport call p.modules module name args s := by
  simp only [runTarget, callee_export h, callExport]
  cases p.modules.resolve module name <;> rfl

/-- Only what the body does where it starts counts. -/
theorem within_congr (h : body (s.entered m) = body' (s.entered m)) :
    within m body s = within m body' s := by
  -- On top of the stack already, the body starts in `s` itself.
  by_cases htop : s.stack.head?.map Marker.number = some m.number
  · rw [within_of_top htop, within_of_top htop, ← entered_of_top htop, h]
  · rw [entered_of_ne htop] at h
    unfold within
    rw [h]
    simp only [htop, if_false]

theorem enter_congr (h : body (s.entered m) = body' (s.entered m)) :
    enter x m body s = enter x m body' s := by
  unfold enter
  rw [within_congr h]

/-- A worker that is asked to run a module reference looks it up then. -/
theorem invoke_export (w : Worker) (h : (s.engine w.home).kind = .pooled p) :
    invoke x w (.export module name) args s =
      enter (x.keepingWorker w) ⟨w.home, w.number, true⟩
        (callExport x.call p.modules module name args)
        (s.note (.invoked w (.export module name) args)) := by
  have hnoted : ((s.note (.invoked w (.export module name) args)).engine w.home).kind =
      .pooled p := h
  simp only [invoke, hnoted]
  exact enter_congr (runTarget_export ((congrArg Engine.kind (entered_engine ..)).trans hnoted))

/-- A job looks its target up when it begins. -/
theorem runJob_export {job : Job} (ht : job.target = .export module name)
    (h : (s.engine job.home).kind = .pooled p) :
    RunsExport call keeps p.modules module name job s := by
  have hstart (m : Marker) : runTarget call job.home job.target job.args (s.entered m) =
      callExport call p.modules module name job.args (s.entered m) := by
    rw [ht]
    exact runTarget_export ((congrArg Engine.kind (entered_engine ..)).trans h)
  unfold RunsExport
  rw [runJob_eq]
  dsimp only
  rewrite [within_congr (hstart _)]
  generalize within _ _ s = out
  obtain ⟨exit, s'⟩ := out
  cases exit <;> rfl

/-! ## What comes before -/

variable {allowed : Edit → Prop} {R : Relay → Relay → Prop} {event : String} {l : Listener}
  {ending : Ending}

theorem servedBy_obeys (law : Law allowed R) (hx : x.Obeys R) {w : Worker}
    (h : (host x e).ServedBy event args l w s ending s') : R s s' := by
  have hsubmitted : R s (handOver x w l.target args s).2 :=
    handOver_obeys law hx w l.target args s
  cases h with
  | invoked out s' _ hi =>
    have hran := invoke_obeys law hx w l.target args s
    rwa [show Relay.invoke x w l.target args s = (out, s') from hi] at hran
  | queued s' _ hi => rwa [show handOver x w l.target args s = (.ok (), s') from hi] at hsubmitted
  | dropped c s₁ _ hi =>
    rw [show handOver x w l.target args s = (.error c, s₁) from hi] at hsubmitted
    exact law.keep hsubmitted rfl rfl

theorem delivered_obeys (law : Law allowed R) (hx : x.Obeys R)
    (h : (host x e).Delivered event args l s ending s') : R s s' := by
  have hacquired {granted : Except Cause Worker} {s₁ : Relay}
      (ha : (host x e).acquire s = (granted, s₁)) : R s s₁ := by
    have hacquired := law.acquire s e
    rwa [show s.acquire e = (granted, s₁) from ha] at hacquired
  cases h with
  | bound w _ _ _ hs => exact servedBy_obeys law hx hs
  | leased w s₁ _ s₂ _ ha hs _ =>
    exact law.trans (law.trans (hacquired ha) (servedBy_obeys law hx hs)) (law.release s₂ e w)
  | stuck w s₁ _ s₂ _ ha hs => exact law.trans (hacquired ha) (servedBy_obeys law hx hs)
  | refused c s₁ _ _ ha => exact hacquired ha
  | skipped c s₁ _ _ ha => exact law.keep (hacquired ha) rfl rfl

theorem deliveries_obeys (law : Law allowed R) (hx : x.Obeys R) {ds : List Delivery}
    (h : (host x e).Deliveries event args s ds s') : R s s' := by
  induction h with
  | none s => exact law.refl s
  | next s d s₁ ds s₂ hd _ ih => exact law.trans (delivered_obeys law hx hd) ih

/-- A drain begins a job in some state, after some other jobs. -/
inductive Begins (call : Caller) (keeps : Keeps) : Nat → Relay → Job → Relay → Prop where
  | first {s : Relay} {job : Job} {rest : List Job} :
      s.queue = job :: rest → Begins call keeps 0 s job { s with queue := rest }
  | later {n : Nat} {s s₁ s₂ : Relay} {before job : Job} {rest : List Job} :
      s.queue = before :: rest →
      runJob call keeps before { s with queue := rest } = (none, s₁) →
      Begins call keeps n s₁ job s₂ → Begins call keeps (n + 1) s job s₂

theorem Begins.obeys (law : Law allowed R) (hcall : call.Obeys R) {n : Nat} {job : Job}
    (h : Begins call keeps n s job s') : R s s' := by
  induction h with
  | first _ => exact law.of_eq rfl rfl
  | @later n s s₁ s₂ before job rest _ hrun _ ih =>
    have hran := runJob_obeys law.frame hcall keeps before { s with queue := rest }
    rw [hrun] at hran
    exact law.trans (law.since hran rfl rfl) ih

/-- The drain runs that job in that state, and goes on from there if the job ends. -/
theorem Begins.drain_eq {n : Nat} {job : Job} (h : Begins call keeps n s job s') (bound : Nat) :
    drain call keeps (n + 1 + bound) s = match runJob call keeps job s' with
      | (some reason, _) => { s' with queue := job :: s'.queue, stalled := some reason }
      | (none, s₁) => drain call keeps bound s₁ := by
  induction h with
  | @first s job rest hq =>
    rewrite [Nat.zero_add, Nat.add_comm, drain, hq]
    rcases hran : runJob call keeps job { s with queue := rest } with ⟨_ | reason, s₁⟩ <;>
      simp only [hran, ← hq]
  | @later n s s₁ s₂ before job rest hq hrun _ ih =>
    rw [Nat.add_right_comm, drain, hq]
    simp only [hrun]
    rw [ih]

end

/-! ## Sessions -/

/-- A pooled engine has the exports that a history of edits made. -/
def Exporting (e : EngineId) (h : List Edit) (s : Relay) : Prop :=
  ∃ p, (s.engine e).kind = .pooled p ∧ p.modules = Modules.empty.edited h

/-- How a module reference is dispatched that is waited for: by an acquired worker, which runs what
the history exports. -/
inductive Resolved (x : Runner) (e : EngineId) (args : List Value) (h : List Edit)
    (module name : String) (s : Relay) : Ending → Prop where
  | unhosted (c : Cause) (s' : Relay) :
      s.acquire e = (.error c, s') → Resolved x e args h module name s (.unhosted c)
  | called (w : Worker) (s' : Relay) (out : Exit Cause Value) (s'' : Relay) :
      s.acquire e = (.ok w, s') → w.home = e →
      enter (x.keepingWorker w) ⟨e, w.number, true⟩
        (callExport x.call (Modules.empty.edited h) module name args)
        (s'.note (.invoked w (.export module name) args)) = (out, s'') →
      Resolved x e args h module name s (.ofExit out)

/-- Exports are looked up when they are needed, whatever was exported before. -/
structure LateBound (allowed : Edit → Prop) (x : Runner) (e : EngineId) : Prop where
  started : ∀ name settings reply (s s' : Relay), s.engines.size = e →
    Script.runStep x (.startEngine name (.pooled settings)) s = (.ok reply, s') →
    Exporting e [] s'
  defined : ∀ engine module name f h (s : Relay),
    Names.look engine s.names.engines = some e → Exporting e h s →
    ∃ s', Script.runStep x (.define engine module name f) s = (.ok .null, s') ∧
      Exporting e (h ++ [.define module name f]) s'
  /-- The answer is what would have been looked up just before. -/
  undefined : ∀ engine module name h (s : Relay),
    Names.look engine s.names.engines = some e → Exporting e h s →
    ∃ s', Script.runStep x (.undefine engine module name) s =
        (.ok (Script.textOrNull
          (((Modules.empty.edited h).resolve module name).toOption.map Function.id)), s') ∧
      Exporting e (h ++ [.undefine module name]) s'
  /-- Steps make edits that are written in them or in functions. -/
  steps : ∀ steps h (s : Relay), (∀ d ∈ Script.editsOf steps, allowed d) → Exporting e h s →
    ∃ h', (∀ d ∈ h', allowed d) ∧ Exporting e (h ++ h') (Script.runSteps x steps s).2
  /-- A registration keeps the reference, and so does the queue. -/
  registered : ∀ (s : Relay) e' v mode module name, Target.ofValue v = .ok (.export module name) →
    (s.newListener e' v mode).1 = .ok ⟨s.handles + 1, .export module name, mode, .lazy⟩
  queued : ∀ w module name args h (s : Relay) p, w.home = e → Exporting e h s →
    (s.engine e).kind = .pooled p → p.isOpen = true →
    (s.engine w.via).refuseSubmit s.trace = none →
    ∃ s', submit w (.export module name) args s = (.ok (), s') ∧
      s'.queue = s.queue ++ [⟨e, w.number, .export module name, args⟩] ∧ Exporting e h s'
  dispatched : ∀ event l args h (s : Relay) module name, Exporting e h s → l.mode = .sync →
    l.binding = .lazy → l.target = .export module name →
    ∃ ending, (host x e).Delivered event args l s ending ((host x e).dispatch event l args s).2 ∧
      Resolved x e args h module name s ending
  /-- An emission looks up each reference when its turn has come. -/
  emitted : ∀ a event args h (s : Relay), (s.adapter a).engine = e → Exporting e h s →
    let snapshot := (s.adapter a).listeners.find event
    let x' := emitting x a event snapshot
    let out := emit x a event args s
    ∃ ds, (host x' e).Emitted event args snapshot s out ds ∧
      ∀ before d after, ds = before ++ d :: after →
        ∃ s₁ h', (host x' e).Deliveries event args s before s₁ ∧ (∀ d ∈ h', allowed d) ∧
          Exporting e (h ++ h') s₁ ∧ ∀ module name, d.listener.mode = .sync →
            d.listener.binding = .lazy → d.listener.target = .export module name →
            Resolved x' e args (h ++ h') module name s₁ d.ending
  /-- So does a drain with the references of its jobs, also those that were queued meanwhile. -/
  begun : ∀ keeps n job h (s s₁ : Relay) module name, Begins x.call keeps n s job s₁ →
    Exporting e h s → job.home = e → job.target = .export module name →
    ∃ h', (∀ d ∈ h', allowed d) ∧ Exporting e (h ++ h') s₁ ∧
      RunsExport x.call keeps (Modules.empty.edited (h ++ h')) module name job s₁ ∧
      ∀ bound, drain x.call keeps (n + 1 + bound) s = match runJob x.call keeps job s₁ with
        | (some reason, _) => { s₁ with queue := job :: s₁.queue, stalled := some reason }
        | (none, s₂) => drain x.call keeps bound s₂
  /-- So does a worker on a thread of its own, whatever else runs beside it. -/
  scheduled : ∀ exits (a b : Shop) job h module name, a.Step exits [.begun job] b →
    Exporting e h a.relay → job.home = e → job.target = .export module name →
    b.running = a.running ++
      [⟨job, ((Modules.empty.edited h).resolve module name).mapError .host⟩]

section

variable {allowed : Edit → Prop} {x : Runner} {e : EngineId} {s s' : Relay} {h : List Edit}
  {event : String} {args : List Value}

theorem Exporting.later (hs : Exporting e h s) (hlater : Edited allowed e s s') :
    ∃ h', (∀ d ∈ h', allowed d) ∧ Exporting e (h ++ h') s' := by
  obtain ⟨p, hp, hmodules⟩ := hs
  obtain ⟨p', h', hp', hmodules', hallowed⟩ := hlater p hp
  exact ⟨h', hallowed, p', hp', by rw [hmodules', hmodules, Modules.edited_append]⟩

/-- Without edits, the exports stay. -/
theorem Exporting.kept (hs : Exporting e h s) (hkept : Edited (fun _ => False) e s s') :
    Exporting e h s' := by
  obtain ⟨h', hnone, hs'⟩ := hs.later hkept
  obtain rfl := List.eq_nil_iff_forall_not_mem.mpr hnone
  rwa [List.append_nil] at hs'

theorem Exporting.exportsOf (hs : Exporting e h s) :
    Script.exportsOf e s = Modules.empty.edited h := by
  obtain ⟨p, hp, hmodules⟩ := hs
  simp only [Script.exportsOf, hp, hmodules]

theorem Exporting.edit (hs : Exporting e h s) (d : Edit) :
    Exporting e (h ++ [d]) (Script.putExports e ((Modules.empty.edited h).edit d) s) := by
  obtain ⟨p, hp, -⟩ := hs
  simp only [Script.putExports, hp]
  exact ⟨_, kind_putKind s e _, by rw [Modules.edited_append, Modules.edited_singleton]⟩

theorem engineNamed_of_look {engine : String}
    (h : Names.look engine s.names.engines = some e) : Script.engineNamed engine s = (e, s) := by
  simp only [Script.engineNamed, h]

theorem Exporting.started {name : String} {settings : Script.Settings} {reply : Reply}
    (hsize : s.engines.size = e)
    (hstart : Script.startEngine name (.pooled settings) s = (.ok reply, s')) :
    Exporting e [] s' := by
  simp only [Script.startEngine] at hstart
  cases hc : Script.settingsOf settings with
  | error fault =>
    rw [hc] at hstart
    cases hstart
  | ok c =>
    rw [hc] at hstart
    cases hstart
    subst hsize
    refine Exporting.kept ⟨PooledEngine.fresh c settings.start.ownsRuntime, ?_, rfl⟩
      (closeAllUnused_obeys (Edited.law _ _) _)
    exact congrArg Engine.kind ((engine_putEngine ..).trans (if_pos rfl))

theorem resolved_of_delivered {l : Listener} {ending : Ending} {module name : String}
    (hd : (host x e).Delivered event args l s ending s') (hs : Exporting e h s)
    (hmode : l.mode = .sync) (hbinding : l.binding = .lazy) (htarget : l.target = .export module name) :
    Resolved x e args h module name s ending := by
  have hserved {w : Worker} {s₁ s₂ : Relay} {ending : Ending} (ha : s.acquire e = (.ok w, s₁))
      (hw : (host x e).ServedBy event args l w s₁ ending s₂) :
      Resolved x e args h module name s ending := by
    obtain ⟨p, hp, hmodules⟩ := hs
    obtain ⟨rfl, -, hp'⟩ := acquire_pooled hp ha
    cases hw with
    | invoked out s₂ _ hi =>
      have hran : Relay.invoke x _ l.target args s₁ = (out, s₂) := hi
      rw [htarget, invoke_export _ hp'] at hran
      exact .called _ _ out s₂ ha rfl (hmodules ▸ hran)
    | queued _ hasync | dropped _ _ hasync =>
      rw [hmode] at hasync
      cases hasync
  cases hd with
  | bound w _ _ hbound =>
    rw [hbinding] at hbound
    cases hbound
  | leased w s₁ _ s₂ _ ha hw => exact hserved ha hw
  | stuck w s₁ reason s₂ _ ha hw => exact hserved ha hw
  | refused c _ _ _ ha => exact .unhosted c _ ha
  | skipped c s₁ _ hasync =>
    rw [hmode] at hasync
    cases hasync

theorem LateBound.of_obeys (hx : x.Obeys (Edited allowed e)) : LateBound allowed x e where
  started _ _ _ _ _ := .started
  defined engine module name f h s hlook hs := by
    refine ⟨_, ?_, hs.edit (.define module name f)⟩
    simp only [Script.runStep, engineNamed_of_look hlook, hs.exportsOf]
    rfl
  undefined engine module name h s hlook hs := by
    refine ⟨_, ?_, hs.edit (.undefine module name)⟩
    simp only [Script.runStep, engineNamed_of_look hlook, hs.exportsOf, ← Modules.undefine_fst]
    rfl
  steps steps h s hsteps hs :=
    hs.later (Script.runSteps_obeys (Edited.law allowed e) hx steps hsteps s)
  registered s e' v mode module name hv := by simp only [newListener, hv, bindingOf]
  queued w module name args h s p hw hs hp hopen hgranted := by
    subst hw
    obtain ⟨p', hp', hmodules⟩ := hs
    refine ⟨{ s.note (.submitted w (.export module name) args true) with
      queue := s.queue ++ [⟨w.home, w.number, .export module name, args⟩] }, ?_, rfl,
      ⟨p', hp', hmodules⟩⟩
    simp only [submit, hgranted, hp, hopen, if_true]
  dispatched event l args h s module name hs hmode hbinding htarget := by
    obtain ⟨ending, hd, -⟩ := (host x e).dispatch_delivered event args l s
    exact ⟨ending, hd, resolved_of_delivered hd hs hmode hbinding htarget⟩
  emitted a event args h s he hs := by
    intro snapshot x' out
    subst he
    obtain ⟨ds, hds⟩ := emit_emitted x a event args s
    refine ⟨ds, hds, fun before d after hsplit => ?_⟩
    obtain ⟨s₁, s₂, hbefore, hd, -⟩ := hds.dispatched.split hsplit
    -- What the listeners before ran may have edited the exports.
    obtain ⟨h', hallowed, hs₁⟩ :=
      hs.later (deliveries_obeys (Edited.law allowed _) (hx.keeping _) hbefore)
    exact ⟨s₁, h', hbefore, hallowed, hs₁, fun module name => resolved_of_delivered hd hs₁⟩
  begun keeps n job h s s₁ module name hbegins hs hjob htarget := by
    obtain ⟨h', hallowed, hs₁⟩ := hs.later (hbegins.obeys (Edited.law allowed e) hx.call)
    obtain ⟨p, hp, hmodules⟩ := hs₁
    subst hjob
    exact ⟨h', hallowed, ⟨p, hp, hmodules⟩, hmodules ▸ runJob_export htarget hp, hbegins.drain_eq⟩
  scheduled exits a b job h module name hstep hs hjob htarget := by
    obtain ⟨p, hp, hmodules⟩ := hs
    subst hjob
    cases hstep with
    | start =>
      rw [← hmodules, ← callee_export hp, ← htarget]

/-- A reference resolves to the latest definition of exactly its pair, unless the pair was undefined
after it, and edits of different pairs commute. In every session of an engine, a module reference
that is registered or queued runs what it resolves to at the moment it runs: when its turn in an
emission has come, or when its job begins, on whatever thread. Scripts, and functions that run them,
are such sessions. -/
theorem exports_late_bound :
    (∀ h module name, Modules.Resolves h module name) ∧
    (∀ before d d' after module name, d.pair ≠ d'.pair →
      (Modules.empty.edited (before ++ d :: d' :: after)).resolve module name =
        (Modules.empty.edited (before ++ d' :: d :: after)).resolve module name) ∧
    (∀ allowed (x : Runner) e, x.Obeys (Edited allowed e) → LateBound allowed x e) ∧
    ∀ program depth e,
      (Script.runner program depth).Obeys (Edited (· ∈ Script.Program.edits program) e) := by
  refine ⟨Modules.resolves, fun before d d' after module name hne => ?_, ?_, ?_⟩
  · exact (Modules.edited_swap before after hne).resolve module name
  · intro allowed x e hx
    exact .of_obeys hx
  · intro program depth e
    exact Script.runner_obeys (Edited.law _ e) (fun _ hd => hd) depth

end

/-- An adapter with a listener that refers to an export. -/
def referring : List Script.Step :=
  [.newAdapter "a" "e" ⟨.interface, "L", []⟩,
    .listen "a" "t" .sync (.object [("module", .str "m"), ("name", .str "g")]) none]

/-- The functions `f` and `g`, which only note that they were called. -/
def silent : Script.Program := [("f", .body [] none), ("g", .body [] none)]

/-- The export that a listener refers to is defined after the registration, and once more after a
job that refers to it was queued. -/
theorem exports_late_bound_redefined :
    let x := Script.runner silent 9
    let f := Function.anonymous "f"
    let g := Function.anonymous "g"
    let h : List Edit := [.define "m" "g" f, .define "m" "g" g]
    let job : Job := ⟨0, 1, .export "m" "g", []⟩
    ∃ (s₀ s : Relay) (d : Delivery), s₀.queue = [job] ∧ Exporting 0 [.define "m" "g" f] s₀ ∧
      Script.runStep x (.define "e" "m" "g" g) s₀ = (.ok .null, s) ∧ Exporting 0 h s ∧
      (Modules.empty.edited h).resolve "m" "g" = .ok g ∧
      RunsExport x.call x.keeps (Modules.empty.edited h) "m" "g" job { s with queue := [] } ∧
      (drain x.call x.keeps 1 s).calls = ["g"] ∧
      ((s.adapter 0).listeners.find "t").map Listener.target = [.export "m" "g"] ∧
      Resolved (emitting x 0 "t" ((s.adapter 0).listeners.find "t")) 0 [] h "m" "g" s d.ending ∧
      (emit x 0 "t" [] s).2.calls = ["g", "g"] ∧
      (Modules.empty.edited [.define "m" "g" f, .undefine "m" "h"]).resolve "m" "g" =
        (Modules.empty.edited [.undefine "m" "h", .define "m" "g" f]).resolve "m" "g" := by
  intro x f g h job
  obtain ⟨hresolves, hswap, hbound, hrunner⟩ := exports_late_bound
  have hlate : LateBound (· ∈ silent.edits) x 0 := hbound _ x 0 (hrunner silent 9 0)
  have hnone {h' : List Edit} (hh' : ∀ d ∈ h', d ∈ silent.edits) : h' = [] :=
    List.eq_nil_iff_forall_not_mem.mpr fun d hd => absurd (hh' d hd) List.not_mem_nil
  obtain ⟨s₁, hs₁⟩ : ∃ s₁, s₁ = (Script.runStep x
      (.startEngine "e" (.pooled ⟨.owning, none, none, none, none⟩)) Script.start).2 := ⟨_, rfl⟩
  have hfresh : Exporting 0 [] s₁ :=
    hlate.started "e" _ (.config Config.standard) Script.start s₁ rfl (Prod.ext rfl hs₁.symm)
  obtain ⟨s₂, hs₂⟩ : ∃ s₂, s₂ = (Script.runSteps x referring s₁).2 := ⟨_, rfl⟩
  obtain ⟨h', hh', hreferring⟩ := hlate.steps referring [] s₁ nofun hfresh
  rw [hnone hh', ← hs₂] at hreferring
  have hlook : Names.look "e" s₂.names.engines = some 0 := by
    rw [hs₂, hs₁]
    decide +kernel
  obtain ⟨s₃, hs₃, hdefined⟩ := hlate.defined "e" "m" "g" f [] s₂ hlook hreferring
  have hs₃' : s₃ = _ := (congrArg Prod.snd hs₃).symm
  obtain ⟨hidle, hopen, hgranted⟩ : s₃.queue.length = 0 ∧ (firstPool s₃).isSome ∧
      (s₃.engine 0).refuseSubmit s₃.trace = none := by
    rw [hs₃', hs₂, hs₁]
    decide +kernel
  obtain ⟨p, hp, -⟩ := id hdefined
  have hopen : p.isOpen = true := by
    simp only [firstPool, hp] at hopen
    split at hopen
    · assumption
    · cases hopen
  obtain ⟨s₀, hs₀, hqueue, hqueued⟩ :=
    hlate.queued ⟨0, 1, 0⟩ "m" "g" [] _ s₃ p rfl hdefined hp hopen hgranted
  have hs₀' : s₀ = _ := (congrArg Prod.snd hs₀).symm
  rw [List.length_eq_zero_iff.mp hidle, List.nil_append] at hqueue
  have hlook' : Names.look "e" s₀.names.engines = some 0 := by
    rw [hs₀', hs₃', hs₂, hs₁]
    decide +kernel
  obtain ⟨s, hs, hredefined⟩ := hlate.defined "e" "m" "g" g _ s₀ hlook' hqueued
  have hs' : s = _ := (congrArg Prod.snd hs).symm
  have hwaiting : s.queue = [job] := by
    rw [← hqueue, hs']
    simp only [Script.runStep, engineNamed_of_look hlook']
    exact (Steady.putExports 0 _).queue
  have hlatest : (Modules.empty.edited h).resolve "m" "g" = .ok g :=
    ((hresolves h "m" "g").latest g).mpr ⟨[.define "m" "g" f], [], rfl, nofun⟩
  obtain ⟨h', hh', -, hruns, -⟩ :=
    hlate.begun x.keeps 0 job h s _ "m" "g" (.first hwaiting) hredefined rfl rfl
  rw [hnone hh', List.append_nil] at hruns
  have hsession : ((s.adapter 0).engine,
      ((s.adapter 0).listeners.find "t").map (fun l => (l.target, l.mode, l.binding)),
      s.calls, (drain x.call x.keeps 1 s).calls, (emit x 0 "t" [] s).2.calls) =
      (0, [(.export "m" "g", .sync, .lazy)], [], ["g"], ["g", "g"]) := by
    rw [hs', hs₀', hs₃', hs₂, hs₁]
    decide +kernel
  simp only [Prod.mk.injEq] at hsession
  obtain ⟨hengine, hlisteners, hquiet, hdrained, hcalls⟩ := hsession
  obtain ⟨l, hfind, hl⟩ := List.map_eq_singleton_iff.mp hlisteners
  simp only [Prod.mk.injEq] at hl
  obtain ⟨htarget, hmode, hbinding⟩ := hl
  obtain ⟨ds, ⟨hds, hpre, -, -, -⟩, hemitted⟩ := hlate.emitted 0 "t" [] h s hengine hredefined
  cases ds with
  | nil =>
    -- Without a dispatch, nothing would have been called.
    generalize (emit x 0 "t" [] s).2 = out at hds hcalls
    cases hds
    rw [hquiet] at hcalls
    cases hcalls
  | cons d rest =>
    have hd : d.listener ∈ [l] := hfind ▸ hpre.subset List.mem_cons_self
    obtain rfl := List.mem_singleton.mp hd
    obtain ⟨s', h', hbefore, hh', -, hresolved⟩ := hemitted [] d rest rfl
    cases hbefore
    rw [hnone hh', List.append_nil] at hresolved
    exact ⟨s₀, s, d, hqueue, hqueued, hs, hredefined, hlatest, hruns, hdrained,
      by rw [hfind, List.map_singleton, htarget], hresolved "m" "g" hmode hbinding htarget, hcalls,
      hswap [] _ _ [] "m" "g" (by decide)⟩

end Relay
end EventRelay
