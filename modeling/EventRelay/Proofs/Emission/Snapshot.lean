import EventRelay.Script.Run

/-!
# EventRelay.Proofs.Emission.Snapshot

What an emission dispatches, whatever its listeners do meanwhile, on any engine.

* `Host.ServedBy`, `Host.Delivered`: what the dispatch of one listener asks of engine and worker,
  and how it ends, for each mode and binding.
* `Host.Deliveries`: dispatches one after the other, each from the state that the one before left.
* `Passes`, `Stops`: the endings after which an emission goes on, and those that decide it.
* `Host.Emitted`: what all of this comes to. `emit_snapshot`: an emission dispatches a prefix of the
  listeners that its event has at the start, with its own arguments, and ends at the first listener
  that is waited for and fails.
-/

namespace EventRelay

/-- How the dispatch of a listener ended. -/
inductive Ending where
  /-- The listener ran to its end, or its call was queued. -/
  | served
  /-- There was no worker. -/
  | unhosted (c : Cause)
  /-- The listener failed, or the worker did not take the call. -/
  | failed (c : Cause)
  | panicked (p : Panic)
  /-- Control never came back. -/
  | stuck (h : Halt)

/-- The ending of a call that was waited for. -/
def Ending.ofExit {α : Type} : Exit Cause α → Ending
  | .ok _ => served
  | .error c => failed c
  | .panic p => panicked p
  | .halt h => stuck h

/-- The dispatch of a listener. -/
structure Delivery where
  listener : Listener
  ending : Ending

/-- The endings after which an emission goes on. -/
inductive Passes : Delivery → Prop where
  | served (l : Listener) : Passes ⟨l, .served⟩
  | unhosted (l : Listener) (c : Cause) : l.mode = .async → Passes ⟨l, .unhosted c⟩
  | dropped (l : Listener) (c : Cause) : l.mode = .async → Passes ⟨l, .failed c⟩

/-- The endings that decide an emission, and how they do. -/
inductive Stops (event : String) : Delivery → Exit InvocationError Unit → Prop where
  | unhosted (l : Listener) (c : Cause) :
      l.mode = .sync → Stops event ⟨l, .unhosted c⟩ (.error (.worker c))
  | failed (l : Listener) (c : Cause) :
      l.mode = .sync → Stops event ⟨l, .failed c⟩ (.error (.listener event c))
  | panicked (l : Listener) (p : Panic) :
      l.mode = .sync → Stops event ⟨l, .panicked p⟩ (.panic p)
  | stuck (l : Listener) (h : Halt) : l.mode = .sync → Stops event ⟨l, .stuck h⟩ (.halt h)

theorem Passes.ne_stuck {l : Listener} {ending : Ending} (h : Passes ⟨l, ending⟩) :
    ∀ h', ending ≠ .stuck h' := by
  rintro h' rfl
  cases h

theorem Stops.ne_ok {event : String} {d : Delivery} {out : Exit InvocationError Unit}
    (h : Stops event d out) : out ≠ .ok () := by
  cases h <;> simp

/-- Only a listener that is waited for decides an emission. -/
theorem Stops.sync {event : String} {d : Delivery} {out : Exit InvocationError Unit}
    (h : Stops event d out) : d.listener.mode = .sync := by
  cases h <;> assumption

namespace Host

section

variable {σ : Type} (h : Host σ) (event : String) (args : List Value)

/-- A worker is asked once to run the listener's target with the arguments: at once for a listener
that is waited for, later for the others. -/
inductive ServedBy (l : Listener) (w : Worker) (s : σ) : Ending → σ → Prop where
  | invoked (out : Exit Cause Value) (s' : σ) :
      l.mode = .sync → h.invoke w l.target args s = (out, s') → ServedBy l w s (.ofExit out) s'
  | queued (s' : σ) :
      l.mode = .async → h.submit w l.target args s = (.ok (), s') → ServedBy l w s .served s'
  | dropped (c : Cause) (s' : σ) :
      l.mode = .async → h.submit w l.target args s = (.error c, s') →
      ServedBy l w s (.failed c) (h.warn (.notSubmitted event w.name c) s')

/-- A bound listener is served by its worker. Any other asks for a worker of the engine once; one
that is granted serves it and is given back, unless control never comes back. -/
inductive Delivered (l : Listener) (s : σ) : Ending → σ → Prop where
  | bound (w : Worker) (ending : Ending) (s' : σ) :
      l.binding = .bound w → ServedBy h event args l w s ending s' → Delivered l s ending s'
  | leased (w : Worker) (s₁ : σ) (ending : Ending) (s₂ : σ) :
      l.binding = .lazy → h.acquire s = (.ok w, s₁) → ServedBy h event args l w s₁ ending s₂ →
      (∀ reason, ending ≠ .stuck reason) → Delivered l s ending (h.release w s₂)
  | stuck (w : Worker) (s₁ : σ) (reason : Halt) (s₂ : σ) :
      l.binding = .lazy → h.acquire s = (.ok w, s₁) →
      ServedBy h event args l w s₁ (.stuck reason) s₂ → Delivered l s (.stuck reason) s₂
  | refused (c : Cause) (s₁ : σ) :
      l.binding = .lazy → l.mode = .sync → h.acquire s = (.error c, s₁) →
      Delivered l s (.unhosted c) s₁
  | skipped (c : Cause) (s₁ : σ) :
      l.binding = .lazy → l.mode = .async → h.acquire s = (.error c, s₁) →
      Delivered l s (.unhosted c) (h.warn (.noWorker event c) s₁)

/-- Dispatches one after the other. -/
inductive Deliveries : σ → List Delivery → σ → Prop where
  | none (s : σ) : Deliveries s [] s
  | next (s : σ) (d : Delivery) (s₁ : σ) (ds : List Delivery) (s₂ : σ) :
      Delivered h event args d.listener s d.ending s₁ → Deliveries s₁ ds s₂ →
      Deliveries s (d :: ds) s₂

/-- An emission to some listeners, with the dispatches that it made. -/
structure Emitted (snapshot : List Listener) (s : σ) (out : Exit InvocationError Unit × σ)
    (ds : List Delivery) : Prop where
  dispatched : Deliveries h event args s ds out.2
  /-- No listener but those is dispatched, each at most once and in their order. -/
  listeners : ds.map Delivery.listener <+: snapshot
  /-- An emission that ends well dispatched all of them, and none that was waited for failed. -/
  complete : out.1 = .ok () → ds.map Delivery.listener = snapshot ∧ ∀ d ∈ ds, Passes d
  /-- Otherwise the last one decides how it ends, and is waited for. None before it does. -/
  decided : out.1 ≠ .ok () → ∃ earlier last, ds = earlier ++ [last] ∧ (∀ d ∈ earlier, Passes d) ∧
    last.listener.mode = .sync ∧ Stops event last out.1
  /-- After a listener that nobody waits for, an emission goes on. -/
  unwaited : ∀ d ∈ ds, d.listener.mode = .async → Passes d

variable {h event args}

theorem emitTo_cons_of_ok {l : Listener} {rest : List Listener} {s s₁ : σ}
    (hok : h.dispatch event l args s = (.ok (), s₁)) :
    h.emitTo event args (l :: rest) s = h.emitTo event args rest s₁ := by
  simp only [emitTo, hok]

theorem emitTo_cons_of_stops {l : Listener} {rest : List Listener} {s : σ} {ending : Ending}
    (hstop : Stops event ⟨l, ending⟩ (h.dispatch event l args s).1) :
    h.emitTo event args (l :: rest) s = h.dispatch event l args s := by
  simp only [emitTo]
  generalize h.dispatch event l args s = dispatched at hstop
  obtain ⟨out, s₁⟩ := dispatched
  cases hstop <;> rfl

variable (h event args)

/-- Serving a listener ends as the emission takes it. -/
theorem runOn_served (l : Listener) (w : Worker) (s : σ) :
    ∃ ending, h.ServedBy event args l w s ending (h.runOn event l args w s).2 ∧
      ((h.runOn event l args w s).1 = .ok () ∧ Passes ⟨l, ending⟩ ∨
        Stops event ⟨l, ending⟩ (h.runOn event l args w s).1) := by
  unfold runOn
  cases hm : l.mode with
  | sync =>
    cases hi : h.invoke w l.target args s with
    | mk out s' =>
      refine ⟨.ofExit out, ?_, ?_⟩
      · cases out <;> exact .invoked _ s' hm hi
      · cases out with
        | ok _ => exact .inl ⟨rfl, .served l⟩
        | error c => exact .inr (.failed l c hm)
        | panic p => exact .inr (.panicked l p hm)
        | halt reason => exact .inr (.stuck l reason hm)
  | async =>
    cases hi : h.submit w l.target args s with
    | mk out s' =>
      cases out with
      | ok _ => exact ⟨.served, .queued s' hm hi, .inl ⟨rfl, .served l⟩⟩
      | error c => exact ⟨.failed c, .dropped c s' hm hi, .inl ⟨rfl, .dropped l c hm⟩⟩

/-- A dispatch ends as the emission takes it. -/
theorem dispatch_delivered (l : Listener) (s : σ) :
    ∃ ending, h.Delivered event args l s ending (h.dispatch event l args s).2 ∧
      ((h.dispatch event l args s).1 = .ok () ∧ Passes ⟨l, ending⟩ ∨
        Stops event ⟨l, ending⟩ (h.dispatch event l args s).1) := by
  unfold dispatch
  cases hb : l.binding with
  | bound w =>
    obtain ⟨ending, hs, hout⟩ := h.runOn_served event args l w s
    exact ⟨ending, .bound w ending _ hb hs, hout⟩
  | lazy =>
    simp only [lease]
    cases ha : h.acquire s with
    | mk granted s₁ =>
      cases granted with
      | error c =>
        simp only [withoutWorker]
        cases hm : l.mode with
        | sync => exact ⟨.unhosted c, .refused c s₁ hb hm ha, .inr (.unhosted l c hm)⟩
        | async => exact ⟨.unhosted c, .skipped c s₁ hb hm ha, .inl ⟨rfl, .unhosted l c hm⟩⟩
      | ok w =>
        obtain ⟨ending, hs, hout⟩ := h.runOn_served event args l w s₁
        simp only
        generalize h.runOn event l args w s₁ = served at hs hout
        obtain ⟨out, s₂⟩ := served
        rcases hout with ⟨hok, hp⟩ | hstop
        · obtain rfl : out = .ok () := hok
          exact ⟨ending, .leased w s₁ ending s₂ hb ha hs hp.ne_stuck, .inl ⟨rfl, hp⟩⟩
        · cases hstop with
          | unhosted _ c hm =>
            exact ⟨_, .leased w s₁ _ s₂ hb ha hs (by simp), .inr (.unhosted l c hm)⟩
          | failed _ c hm =>
            exact ⟨_, .leased w s₁ _ s₂ hb ha hs (by simp), .inr (.failed l c hm)⟩
          | panicked _ p hm =>
            exact ⟨_, .leased w s₁ _ s₂ hb ha hs (by simp), .inr (.panicked l p hm)⟩
          | stuck _ reason hm =>
            exact ⟨_, .stuck w s₁ reason s₂ hb ha hs, .inr (.stuck l reason hm)⟩

variable {h event args}

/-- An emission goes on after its first dispatch. -/
theorem Emitted.cons {l : Listener} {rest : List Listener} {ending : Ending} {s s₁ : σ}
    {out : Exit InvocationError Unit × σ} {ds : List Delivery}
    (hd : h.Delivered event args l s ending s₁) (hp : Passes ⟨l, ending⟩)
    (hrest : h.Emitted event args rest s₁ out ds) :
    h.Emitted event args (l :: rest) s out (⟨l, ending⟩ :: ds) where
  dispatched := .next s _ _ ds _ hd hrest.dispatched
  listeners := (List.prefix_cons_inj l).mpr hrest.listeners
  complete hok := by
    obtain ⟨hmap, hpass⟩ := hrest.complete hok
    exact ⟨by rw [List.map_cons, hmap], List.forall_mem_cons.mpr ⟨hp, hpass⟩⟩
  decided hne := by
    obtain ⟨earlier, last, rfl, hpass, hstop⟩ := hrest.decided hne
    exact ⟨⟨l, ending⟩ :: earlier, last, rfl, List.forall_mem_cons.mpr ⟨hp, hpass⟩, hstop⟩
  unwaited := List.forall_mem_cons.mpr ⟨fun _ => hp, hrest.unwaited⟩

/-- It ends with a dispatch that decides it. -/
theorem Emitted.last {l : Listener} {rest : List Listener} {ending : Ending} {s : σ}
    {out : Exit InvocationError Unit × σ} (hd : h.Delivered event args l s ending out.2)
    (hstop : Stops event ⟨l, ending⟩ out.1) :
    h.Emitted event args (l :: rest) s out [⟨l, ending⟩] where
  dispatched := .next s _ _ [] _ hd (.none _)
  listeners := ⟨rest, rfl⟩
  complete hok := absurd hok hstop.ne_ok
  decided _ := ⟨[], _, rfl, by simp, hstop.sync, hstop⟩
  unwaited d hmem hm := by
    obtain rfl := List.mem_singleton.mp hmem
    cases hstop.sync.symm.trans hm

variable (h event args)

/-- The loop of an emission, by induction on the listeners that are left. -/
theorem emitTo_emitted (ls : List Listener) (s : σ) :
    ∃ ds, h.Emitted event args ls s (h.emitTo event args ls s) ds := by
  induction ls generalizing s with
  | nil => exact ⟨[], .none s, List.prefix_rfl, fun _ => ⟨rfl, by simp⟩, fun hne => absurd rfl hne,
      by simp⟩
  | cons l rest ih =>
    obtain ⟨ending, hd, ⟨hok, hp⟩ | hstop⟩ := h.dispatch_delivered event args l s
    · obtain ⟨ds, hds⟩ := ih (h.dispatch event l args s).2
      rw [emitTo_cons_of_ok (Prod.ext hok rfl)]
      exact ⟨_, .cons hd hp hds⟩
    · rw [emitTo_cons_of_stops hstop]
      exact ⟨_, .last hd hstop⟩

end

end Host

namespace Relay

/-- What an adapter emits is emitted to the listeners that the event has now. -/
theorem emit_emitted (x : Runner) (a : AdapterId) (event : String) (args : List Value)
    (s : Relay) :
    let snapshot := (s.adapter a).listeners.find event
    ∃ ds, (host (emitting x a event snapshot) (s.adapter a).engine).Emitted event args snapshot s
      (emit x a event args s) ds :=
  (host _ (s.adapter a).engine).emitTo_emitted event args _ s

/-- An emission dispatches a prefix of the listeners that the event has at its start, in their
order and with the arguments of the emission, whatever becomes of the registry meanwhile. If it
ends well, these are all of them and none that was waited for failed; otherwise the last of them
decides how it ends, and none before it does. This holds for every engine, whenever it refuses and
whatever its workers run, and so for emissions of adapters. -/
theorem emit_snapshot :
    (∀ (σ : Type) (h : Host σ) (listeners : σ → List Listener) event args s,
      ∃ ds, h.Emitted event args (listeners s) s (h.emit listeners event args s) ds) ∧
    ∀ (x : Runner) (a : AdapterId) event args (s : Relay),
      let snapshot := (s.adapter a).listeners.find event
      ∃ ds, (host (emitting x a event snapshot) (s.adapter a).engine).Emitted event args snapshot s
        (emit x a event args s) ds :=
  ⟨fun _ h listeners event args s => h.emitTo_emitted event args (listeners s) s, emit_emitted⟩

/-- Functions of which one, when it is called, removes the second listener and adds another one. -/
def meddling : Script.Program :=
  [("meddle", .body [.step (.unlisten "a" "t" "second"),
    .step (.listen "a" "t" .sync (.function (Function.anonymous "late")) none)] none)]

/-- An adapter with three listeners, the first of which does that. -/
def threeListeners : List Script.Step :=
  [.startEngine "e" (.pooled ⟨.owning, none, none, none, none⟩),
    .newAdapter "a" "e" ⟨.interface, "L", []⟩,
    .listen "a" "t" .sync (.function (Function.anonymous "meddle")) none,
    .listen "a" "t" .sync (.function (Function.anonymous "f")) (some "second"),
    .listen "a" "t" .async (.function (Function.anonymous "g")) none]

/-- The listener that is removed in flight is dispatched, and the one that is added is not. -/
theorem emit_snapshot_inFlight :
    let x := Script.runner meddling 9
    ∃ s s' ds, s = (Script.runSteps x threeListeners initial).2 ∧
      emit x 0 "t" [.str "v"] s = (.ok (), s') ∧
      (host (emitting x 0 "t" ((s.adapter 0).listeners.find "t")) (s.adapter 0).engine).Emitted "t"
        [.str "v"] ((s.adapter 0).listeners.find "t") s (.ok (), s') ds ∧
      ds.map (fun d => d.listener.handle) = [1, 2, 3] ∧
      ((s'.adapter 0).listeners.find "t").map Listener.handle = [1, 3, 4] ∧
      s'.log.map (fun call => call.map Value.text) = [["f", "v"], ["g", "v"]] := by
  intro x
  obtain ⟨-, hemitted⟩ := emit_snapshot
  obtain ⟨s, hs⟩ : ∃ s, s = (Script.runSteps x threeListeners initial).2 := ⟨_, rfl⟩
  obtain ⟨ds, hds⟩ := hemitted x 0 "t" [.str "v"] s
  obtain ⟨hok, hsnapshot, hlater, hlog⟩ : (emit x 0 "t" [.str "v"] s).1 = .ok () ∧
      ((s.adapter 0).listeners.find "t").map Listener.handle = [1, 2, 3] ∧
      (((emit x 0 "t" [.str "v"] s).2.adapter 0).listeners.find "t").map Listener.handle =
        [1, 3, 4] ∧
      (emit x 0 "t" [.str "v"] s).2.log.map (fun call => call.map Value.text) =
        [["f", "v"], ["g", "v"]] := by
    rw [hs]
    decide +kernel
  generalize hout : emit x 0 "t" [.str "v"] s = out at hds hok hlater hlog
  obtain ⟨exit, s'⟩ := out
  obtain rfl : exit = .ok () := hok
  refine ⟨s, s', ds, hs, hout, hds, ?_, hlater, hlog⟩
  rw [← hsnapshot, ← (hds.complete rfl).1, List.map_map]
  rfl

end Relay
end EventRelay
