import EventRelay.Proofs.Engines.Twin

/-!
# EventRelay.Proofs.Engines.Portable

Steps that are the same on an inline engine and on a pooled one.

* `Step.portable`, `Program.portable`: scripts whose listeners are all waited for, and whose
  functions register module references only and do not look at the current worker.
* `Known.add`, `Known.removeFirst` and their like: what both sides know after registrations and
  removals.
* `listen_alike`, `finishAdapter_alike` and their like: registrations, and new adapters.
* `runStep_alike`: portable steps end the same way on both engines, if calls of functions do.
-/

namespace EventRelay

namespace Script

/-! ## Portable scripts -/

/-- Whether a listener value is bound to no worker, and means the same on both engines. A function
is bound to the worker that registers it, if one does. -/
def portableListener (o : EnginePair) (inside : Bool) (v : Value) : Bool :=
  match Target.ofValue v with
  | .error _ => true
  | .ok (.function _) => !inside
  | .ok (.export module name) => o.agrees module name

/-- Whether a step, which may run inside a worker, does not tell the engines apart. -/
def Step.portable (o : EnginePair) (inside : Bool) : Step → Bool
  | listen _ _ mode v _ => mode == .sync && portableListener o inside v
  | newAdapter _ engine _ => engine == o.name
  | construct _ engine _ => engine == o.name
  | withType _ engine _ => engine == o.name
  | declared _ engine _ => engine == o.name
  | sameEngine _ engine => engine == o.name
  | unlisten _ _ _ | unlistenValue _ _ _ | unlistenAll _ _ | count _ _ | events _ => true
  | emit _ _ _ | call _ _ _ | callSlot _ _ _ | callDeclared _ _ _ => true
  | synthesize _ | lookup _ | installed | clone _ _ | typeInfo _ | describe _ | sameType _ _ => true
  | resolve _ _ _ | slotAt _ _ | openGate _ | gate _ | recorded _ => true
  | _ => false

/-- Functions run inside workers. -/
def Action.portable (o : EnginePair) : Action → Bool
  | recordWorker _ => false
  | step s | attempt s => s.portable o true
  | _ => true

def Behaviour.portable (o : EnginePair) : Behaviour → Bool
  | body actions _ => actions.all (Action.portable o)
  | _ => true

def Program.portable (o : EnginePair) (p : Program) : Bool :=
  p.all fun e => e.2.portable o

end Script

namespace EnginePair

open Relay Script

section

variable {o : EnginePair} {s s' : Relay} {x x' : Runner}

/-! ## Listeners -/

theorem Known.putAdapter (h : o.Known s) (a : AdapterId) {adapter : Adapter}
    (hengine : adapter.engine = 0) (htidy : adapter.listeners.Tidy)
    (hplain : ∀ event, ∀ l ∈ adapter.listeners.find event, o.Plain l) :
    o.Known (s.putAdapter a adapter) := by
  have hadapter (a' : AdapterId) :
      (s.putAdapter a adapter).adapter a' = if a = a' then adapter else s.adapter a' :=
    Table.get_put Adapter.blank s.adapters a a' adapter
  refine ⟨h.named, h.queue, fun a' => ?_, fun a' => ?_, fun a' => ?_⟩
  · rw [hadapter]
    split
    · exact hengine
    · exact h.engines a'
  · rw [hadapter]
    split
    · exact htidy
    · exact h.tidy a'
  · rw [hadapter]
    split
    · exact hplain
    · exact h.plain a'

theorem Known.putListeners (h : o.Known s) (a : AdapterId) {r : Registry} (htidy : r.Tidy)
    (hplain : ∀ event, ∀ l ∈ r.find event, o.Plain l) : o.Known (s.putListeners a r) :=
  h.putAdapter a (h.engines a) htidy hplain

theorem Known.add (h : o.Known s) (a : AdapterId) (event : String) {l : Listener} (hl : o.Plain l) :
    o.Known (s.putListeners a ((s.adapter a).listeners.add event l)) := by
  refine h.putListeners a ((h.tidy a).add event l) fun other l' hl' => ?_
  rw [(h.tidy a).find_add] at hl'
  split at hl'
  · rcases List.mem_append.mp hl' with hl' | hl'
    · exact h.plain a event l' hl'
    · exact List.mem_singleton.mp hl' ▸ hl
  · exact h.plain a other l' hl'

theorem Known.removeFirst (h : o.Known s) (a : AdapterId) (event : String) (p : Listener → Bool) :
    o.Known (s.putListeners a ((s.adapter a).listeners.removeFirst event p).2) := by
  refine h.putListeners a ((h.tidy a).removeFirst event p) fun other l hl => ?_
  rw [(h.tidy a).find_removeFirst] at hl
  split at hl
  · exact h.plain a event l (List.mem_of_mem_eraseP hl)
  · exact h.plain a other l hl

theorem Known.clear (h : o.Known s) (a : AdapterId) (event : String) :
    o.Known (s.unlistenAll a event) := by
  refine h.putListeners a ((h.tidy a).clear event) fun other l hl => ?_
  rw [(h.tidy a).find_clear] at hl
  split at hl
  · cases hl
  · exact h.plain a other l hl

theorem Twin.bindingOf (h : o.Twin s s') {t : Target}
    (ht : ∀ f, t = .function f → s'.stack = []) :
    s.bindingOf 0 t = .lazy ∧ s'.bindingOf 0 t = .lazy := by
  cases t with
  | «export» module name => exact ⟨rfl, rfl⟩
  | function f =>
    obtain ⟨i, p, hosts⟩ := h.hosts
    have hcurrent : s.currentWorker 0 = none := by
      simp only [currentWorker, hosts.inline, hosts.current, Option.map_none]
    have hcurrent' : s'.currentWorker 0 = none := by
      rw [currentWorker_pooled hosts.pooled, ht f rfl]
      rfl
    simp only [Relay.bindingOf, hcurrent, hcurrent', and_self]

theorem withAdapter_alike (h : o.Twin s s') (name : String)
    {body body' : AdapterId → Exit Fault Reply × Relay}
    (hbody : ∀ a, o.Alike s' (body a) (body' a)) :
    o.Alike s' (withAdapter name s body) (withAdapter name s' body') := by
  unfold withAdapter
  rw [h.names]
  split
  · exact hbody _
  · exact .refl h _

theorem askAdapter_alike (h : o.Twin s s') (name : String) (f : Adapter → Exit Fault Reply) :
    o.Alike s' (withAdapter name s fun a => (f (s.adapter a), s))
      (withAdapter name s' fun a => (f (s'.adapter a), s')) := by
  refine withAdapter_alike h name fun a => ?_
  rw [h.adapter]
  exact .refl h _

/-- Both sides register the same listener, or refuse the same value. -/
theorem listen_alike (h : o.Twin s s') {inside : Bool} (hout : inside = false → s'.stack = [])
    (adapter event : String) {v : Value} (hv : portableListener o inside v = true)
    (name : Option String) :
    o.Alike s' (runStep x (.listen adapter event .sync v name) s)
      (runStep x' (.listen adapter event .sync v name) s') := by
  simp only [runStep]
  refine withAdapter_alike h adapter fun a => ?_
  unfold portableListener at hv
  cases hof : Target.ofValue v with
  | error e =>
    rw [listen_of_error hof, listen_of_error hof]
    exact h.update (fun s => s.warn (.refusedListener event e)) (fun _ => rfl)
      (h.known.of_eq rfl rfl rfl)
  | ok t =>
    rw [hof] at hv
    have hplain : o.Plain ⟨s.handles + 1, t, .sync, .lazy⟩ := by
      refine ⟨rfl, rfl, ?_⟩
      cases t with
      | function f => trivial
      | «export» module name => exact hv
    have hbinding := h.bindingOf (t := t) fun f ht => hout (by simpa [ht] using hv)
    rw [listen_of_ok hof, listen_of_ok hof, h.adapter, h.known.engines, hbinding.1, hbinding.2,
      h.handles]
    have hadded : o.Known ({ s with handles := s.handles + 1 }.putListeners a
        ((s.adapter a).listeners.add event ⟨s.handles + 1, t, .sync, .lazy⟩)) :=
      Known.add (s := { s with handles := s.handles + 1 }) (h.known.of_eq rfl rfl rfl) a event
        hplain
    refine h.update (fun r => nameHandle name (s.handles + 1)
      ({ r with handles := s.handles + 1 }.putListeners a
        ((s.adapter a).listeners.add event ⟨s.handles + 1, t, .sync, .lazy⟩))) ?_ ?_
    · intro host
      cases name <;> rfl
    · cases name with
      | none => exact hadded
      | some key => exact hadded.of_eq rfl rfl rfl

/-! ## Adapters -/

theorem Known.addAdapter (h : o.Known s) (type : AdapterType) :
    o.Known (s.addAdapter 0 type).2 :=
  h.putAdapter s.adapters.size rfl .empty nofun

theorem engineNamed_of_known (h : o.Known s) : engineNamed o.name s = (0, s) := by
  simp only [engineNamed, h.named]

theorem closeAllUnused_of_known (h : o.Known s) (hsize : s.engines.size = 1) :
    s.closeAllUnused = s := by
  have huses : s.usesEngine 0 = true := by
    have hnamed := h.named
    obtain ⟨entry, hfind, hentry⟩ := Option.map_eq_some_iff.mp hnamed
    have hany : s.names.engines.any (fun n => n.2 == 0) = true :=
      List.any_eq_true.mpr ⟨entry, List.mem_of_find?_eq_some hfind, by simp [hentry]⟩
    simp [usesEngine, hany]
  have hrange : List.range s.engines.size = [0] := by rw [hsize]; rfl
  simp only [closeAllUnused, hrange, List.foldl_cons, List.foldl_nil, closeUnused, huses]
  split <;> simp

theorem nameAdapter_alike {ε α : Type} {exit : Exit ε α} (h : o.Twin s s') (name : String)
    (a : AdapterId) : o.Alike s' (exit, nameAdapter name a s) (exit, nameAdapter name a s') := by
  obtain ⟨i, p, hosts⟩ := h.hosts
  have hnamed (r : Relay) (hknown : o.Known r) (hsize : r.engines.size = 1) :
      nameAdapter name a r =
        { r with names := { r.names with adapters := Names.bind name a r.names.adapters } } :=
    closeAllUnused_of_known (o := o) (hknown.of_eq rfl rfl rfl) hsize
  rw [hnamed s h.known hosts.sizes.1, hnamed s' h.known' hosts.sizes.2]
  exact h.update (fun r =>
    { r with names := { r.names with adapters := Names.bind name a r.names.adapters } })
    (fun _ => rfl) (h.known.of_eq rfl rfl rfl)

/-- The outcome of code that has made an adapter or could not, on both sides. -/
abbrev Made (o : EnginePair) (s' : Relay) (made made' : Except AdapterError AdapterId × Relay) :
    Prop :=
  o.Alike s' ((.ok made.1 : Exit Fault _), made.2) (.ok made'.1, made'.2)

theorem finishAdapter_alike {made made' : Except AdapterError AdapterId × Relay}
    (h : o.Made s' made made') (name : String) :
    o.Alike s' (finishAdapter name made) (finishAdapter name made') := by
  obtain ⟨result, s₁⟩ := made
  obtain ⟨result', s₁'⟩ := made'
  obtain rfl : result' = result := Exit.ok.inj h.exit
  have htwin : o.Twin s₁ s₁' := h.twin rfl
  cases result' with
  | error e => exact h.exits fun _ => rfl
  | ok a =>
    simp only [finishAdapter, htwin.adapter]
    exact h.after rfl (nameAdapter_alike htwin name a)

theorem newAdapter_alike (h : o.Twin s s') (d : Descriptor) :
    o.Made s' (s.newAdapter 0 d) (s'.newAdapter 0 d) := by
  have hon (host : Relay) : (s.on host).newAdapter 0 d =
      ((s.newAdapter 0 d).1, (s.newAdapter 0 d).2.on host) := by
    have htypes : (s.on host).types = s.types := rfl
    simp only [newAdapter, Relay.synthesize, htypes]
    generalize s.types.synthesize d = result
    obtain ⟨_ | type, space⟩ := result <;> rfl
  have hfst : (s'.newAdapter 0 d).1 = (s.newAdapter 0 d).1 := by
    rw [h.same, hon]
  unfold Made
  rw [hfst]
  refine h.update (fun r => (r.newAdapter 0 d).2) (fun host => ?_) ?_
  · exact congrArg Prod.snd (hon host)
  · simp only [newAdapter, Relay.synthesize]
    generalize s.types.synthesize d = result
    have hknown (space : TypeSpace) : o.Known { s with types := space } :=
      h.known.of_eq rfl rfl rfl
    obtain ⟨_ | type, space⟩ := result
    · exact hknown space
    · exact (hknown space).addAdapter type

theorem construct_alike (h : o.Twin s s') (args : List Value) :
    o.Made s' (s.construct 0 args) (s'.construct 0 args) := by
  unfold construct
  split
  · exact newAdapter_alike h _
  · exact .refl h _
  · exact .refl h _

theorem withType_alike (h : o.Twin s s') (a : AdapterId) :
    o.Made s' (.ok (s.addAdapter 0 (s.adapter a).type).1, (s.addAdapter 0 (s.adapter a).type).2)
      (.ok (s'.addAdapter 0 (s'.adapter a).type).1,
        (s'.addAdapter 0 (s'.adapter a).type).2) := by
  have hfst : (s'.addAdapter 0 (s'.adapter a).type).1 =
      (s.addAdapter 0 (s.adapter a).type).1 := by
    rw [h.same]
    rfl
  unfold Made
  rw [hfst]
  exact h.update (fun r => (r.addAdapter 0 (r.adapter a).type).2) (fun _ => rfl)
    (h.known.addAdapter _)

theorem declare_alike (h : o.Twin s s') (name trait : String) :
    o.Alike s' (declare name o.name trait s) (declare name o.name trait s') := by
  unfold declare
  split
  · exact .refl h _
  rename_i d hd
  have hmade := newAdapter_alike h d.descriptor
  rw [engineNamed_of_known h.known, engineNamed_of_known h.known']
  dsimp only
  generalize s.newAdapter 0 d.descriptor = made at hmade
  generalize s'.newAdapter 0 d.descriptor = made' at hmade
  obtain ⟨result, s₁⟩ := made
  obtain ⟨result', s₁'⟩ := made'
  obtain rfl : result' = result := Exit.ok.inj hmade.exit
  have htwin : o.Twin s₁ s₁' := hmade.twin rfl
  cases result' with
  | error e => exact hmade.exits fun _ => rfl
  | ok a =>
    have hnamed : o.Alike s₁' ((.ok (.descriptor d.descriptor) : Exit Fault Reply), _) (_, _) :=
      nameAdapter_alike htwin name a
    refine hmade.after rfl (hnamed.after rfl ?_)
    exact (hnamed.twin rfl).update (fun r =>
      { r with names := { r.names with declared := Names.bind name (a, d) r.names.declared } })
      (fun _ => rfl) ((hnamed.twin rfl).known.of_eq rfl rfl rfl)

/-! ## Steps -/

theorem answer_alike {α : Type} {out out' : Exit InvocationError α × Relay}
    (h : o.Alike s' out out') (reply : α → Reply) :
    o.Alike s' (answer reply out) (answer reply out') := by
  unfold answer
  rw [h.exit]
  exact h.exits (by simp)

theorem callDeclaredNamed_alike (hx : o.Callers x x') (h : o.Twin s s') (name method : String)
    (args : List Value) :
    o.Alike s' (callDeclaredNamed x name method args s)
      (callDeclaredNamed x' name method args s') := by
  unfold callDeclaredNamed
  rw [h.names]
  split
  · exact .refl h _
  rename_i a d hlook
  split
  · exact .refl h _
  rename_i index m hmethod
  obtain ⟨exit, s₁, s₁', hout, hout', hc⟩ := (callDeclared_alike hx h a index m args).dest
  rw [hout, hout']
  cases exit <;> exact hc.exits id

theorem synthesize_alike (h : o.Twin s s') (d : Descriptor) :
    o.Alike s' (runStep x (.synthesize d) s) (runStep x' (.synthesize d) s') := by
  have htypes : s'.types = s.types := by
    rw [h.same]
    rfl
  simp only [runStep, Relay.synthesize, htypes]
  generalize s.types.synthesize d = result
  obtain ⟨result, space⟩ := result
  have hu {exit : Exit Fault Reply} :
      o.Alike s' (exit, { s with types := space }) (exit, { s' with types := space }) :=
    h.update (fun r => { r with types := space }) (fun _ => rfl) (h.known.of_eq rfl rfl rfl)
  cases result <;> exact hu

theorem remove_alike (h : o.Twin s s') (f : Relay → Relay)
    (hf : ∀ host, f (s.on host) = (f s).on host) (hknown : o.Known (f s)) (a : AdapterId)
    (reply : Registry → Reply) :
    o.Alike s' ((.ok (reply ((f s).adapter a).listeners) : Exit Fault Reply), f s)
      (.ok (reply ((f s').adapter a).listeners), f s') := by
  have hu : o.Alike s' ((.ok (reply ((f s).adapter a).listeners) : Exit Fault Reply), f s) (_, _) :=
    h.update f hf hknown
  rw [(hu.twin rfl).adapter]
  exact hu

theorem runStep_alike (hx : o.Callers x x') (h : o.Twin s s') {inside : Bool}
    (hout : inside = false → s'.stack = []) (step : Step) (hstep : step.portable o inside = true) :
    o.Alike s' (runStep x step s) (runStep x' step s') := by
  have he := engineNamed_of_known h.known
  have he' := engineNamed_of_known h.known'
  -- Steps that emit or call lead to functions. All others see one state, so they only have to be
  -- shown to leave both sides with what they know.
  cases step with
  | listen adapter event mode v name =>
    simp only [Step.portable, Bool.and_eq_true, beq_iff_eq] at hstep
    obtain ⟨rfl, hv⟩ := hstep
    exact listen_alike h hout adapter event hv name
  | newAdapter name engine d =>
    obtain rfl : engine = o.name := by simpa [Step.portable] using hstep
    simp only [runStep, he, he']
    exact finishAdapter_alike (newAdapter_alike h d) name
  | construct name engine args =>
    obtain rfl : engine = o.name := by simpa [Step.portable] using hstep
    simp only [runStep, he, he']
    exact finishAdapter_alike (construct_alike h args) name
  | withType name engine adapter =>
    obtain rfl : engine = o.name := by simpa [Step.portable] using hstep
    simp only [runStep, he, he']
    exact withAdapter_alike h adapter fun a => finishAdapter_alike (withType_alike h a) name
  | declared name engine trait =>
    obtain rfl : engine = o.name := by simpa [Step.portable] using hstep
    simp only [runStep]
    exact declare_alike h name trait
  | sameEngine adapter engine =>
    obtain rfl : engine = o.name := by simpa [Step.portable] using hstep
    simp only [runStep, he, he']
    refine withAdapter_alike h adapter fun a => ?_
    rw [h.adapter]
    exact .refl h _
  | unlisten adapter event handle =>
    simp only [runStep]
    refine withAdapter_alike h adapter fun a => ?_
    rw [h.names]
    split
    · exact .refl h _
    · exact remove_alike h (fun r => r.unlisten a event _) (fun _ => rfl)
        (h.known.removeFirst a event _) a fun r => .texts r.events
  | unlistenValue adapter event v =>
    simp only [runStep]
    refine withAdapter_alike h adapter fun a => ?_
    exact remove_alike h (fun r => r.unlistenValue a event v) (fun _ => rfl)
      (h.known.removeFirst a event _) a fun r => .number (r.count event)
  | unlistenAll adapter event =>
    simp only [runStep]
    refine withAdapter_alike h adapter fun a => ?_
    exact remove_alike h (fun r => r.unlistenAll a event) (fun _ => rfl)
      (h.known.clear a event) a fun r => .texts r.events
  | count adapter event =>
    simp only [runStep]
    exact askAdapter_alike h adapter fun a => .ok (.number (a.listeners.count event))
  | events adapter =>
    simp only [runStep]
    exact askAdapter_alike h adapter fun a => .ok (.texts a.listeners.events)
  | typeInfo adapter =>
    simp only [runStep]
    exact askAdapter_alike h adapter fun a => .ok (.typeInfo a.type)
  | describe adapter =>
    simp only [runStep]
    exact askAdapter_alike h adapter fun a => .ok (.text a.describe)
  | sameType adapter other =>
    simp only [runStep]
    refine withAdapter_alike h adapter fun a => ?_
    rw [h.adapter]
    exact askAdapter_alike h other fun b => .ok (.flag ((s.adapter a).type == b.type))
  | resolve adapter method arity =>
    simp only [runStep]
    refine withAdapter_alike h adapter fun a => ?_
    rw [h.adapter]
    split <;> exact .refl h _
  | slotAt adapter index =>
    simp only [runStep]
    refine withAdapter_alike h adapter fun a => ?_
    rw [h.adapter]
    split <;> exact .refl h _
  | clone name adapter =>
    simp only [runStep]
    exact withAdapter_alike h adapter fun a => finishAdapter_alike (.refl h _) name
  | synthesize d => exact synthesize_alike h d
  | lookup name =>
    simp only [runStep]
    exact h.query (fun r => .ok (textOrNull ((r.types.lookup name).map fun t => t.descriptor.name)))
      fun _ => rfl
  | installed =>
    simp only [runStep]
    exact h.query (fun r => .ok (Reply.number r.types.installedCount)) fun _ => rfl
  | gate gate =>
    simp only [runStep]
    exact h.query (fun r => .ok (Reply.gate (r.gates.contains gate))) fun _ => rfl
  | recorded atLeast =>
    simp only [runStep]
    exact h.query (fun r => .ok (Reply.recorded r.log.length (decide (atLeast ≤ r.log.length))))
      fun _ => rfl
  | openGate gate =>
    exact h.update (fun r => { r with gates := gate :: r.gates }) (fun _ => rfl)
      (h.known.of_eq rfl rfl rfl)
  | emit adapter event args =>
    simp only [runStep]
    exact withAdapter_alike h adapter fun a => answer_alike (emit_alike hx h a event args) _
  | call adapter method args =>
    simp only [runStep]
    exact withAdapter_alike h adapter fun a => answer_alike (call_alike hx h a method args) _
  | callSlot adapter index args =>
    simp only [runStep]
    exact withAdapter_alike h adapter fun a => answer_alike (callSlot_alike hx h a index args) _
  | callDeclared adapter method args => exact callDeclaredNamed_alike hx h adapter method args
  | _ => simp [Step.portable] at hstep

end

end EnginePair
end EventRelay
