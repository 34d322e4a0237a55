import EventRelay.Proofs.Emission.Failure
import EventRelay.Proofs.Emission.Lease
import EventRelay.Proofs.Listener.Persistence
import EventRelay.Proofs.Script.Path

/-!
# EventRelay.Proofs.Emission.Binding

Workers that listeners are bound to.

* `Relay.submit_error`: a submission is only refused, or comes after the runtime of the worker.
* `Relay.Dispatched`: what the dispatch of a listener does, by the binding of the listener alone.
  `Delivered.dispatched`: every dispatch does this, from any state.
* `binding_captured`: the binding is that of the moment of registration, at every later emission.
-/

namespace EventRelay

open Relay

section

variable {x : Runner} {e : EngineId} {event : String} {args : List Value} {l : Listener}
  {w : Worker} {s s' : Relay} {ending : Ending}

namespace Relay

/-- A worker whose runtime is alive takes every job, unless its engine is set up to refuse. -/
theorem submit_error {t : Target} {c : Cause} (h : (submit w t args s).1 = .error c) :
    (∃ text, c = .text text) ∨
      ∃ p, (s.engine w.home).kind = .pooled p ∧ p.isOpen = false := by
  unfold submit at h
  split at h
  · cases h
    exact .inl ⟨_, rfl⟩
  split at h
  · cases h
  rename_i p hk
  split at h
  · cases h
  · rename_i hclosed
    exact .inr ⟨p, hk, Bool.eq_false_iff.mpr hclosed⟩

/-- What happens after a submission does not change its answer. -/
theorem handOver_fst (x : Runner) (w : Worker) (t : Target) (args : List Value) (s : Relay) :
    (handOver x w t args s).1 = (submit w t args s).1 := by
  unfold handOver
  generalize submit w t args s = submitted
  obtain ⟨_ | _, _⟩ := submitted <;> rfl

theorem acquire_of_grant (h : (s.engine e).refuseAcquire s.trace = none) :
    s.acquire e = (.ok (s.take e).1, (s.take e).2.note (.acquired e (s.take e).1)) := by
  simp only [acquire, h]

end Relay

/-- The queue of a worker is open while the runtime of its engine is alive. -/
theorem Host.ServedBy.queue_open (h : (host x e).ServedBy event args l w s ending s')
    (hm : l.mode = .async) {p : PooledEngine} (hp : (s.engine w.home).kind = .pooled p)
    (hopen : p.isOpen = true) (n : Nat) : ending ≠ .failed (.host (.queueClosed n)) := by
  rintro rfl
  generalize hfailed : Ending.failed (.host (.queueClosed n)) = failed at h
  cases h with
  | invoked out s' hsync =>
    rw [hm] at hsync
    cases hsync
  | dropped c s' _ hi =>
    cases hfailed
    have herror : (Relay.submit w l.target args s).1 = .error (.host (.queueClosed n)) :=
      (handOver_fst ..).symm.trans (congrArg Prod.fst hi)
    rcases submit_error herror with ⟨text, htext⟩ | ⟨p', hp', hclosed⟩
    · cases htext
    · rw [hp] at hp'
      cases hp'
      rw [hopen] at hclosed
      cases hclosed
  | queued => cases hfailed

/-- The dispatch of a listener by an engine that grants workers. -/
structure Dispatched (x : Runner) (e : EngineId) (event : String) (args : List Value)
    (l : Listener) (s : Relay) (ending : Ending) (s' : Relay) : Prop where
  /-- A bound listener is run by its worker, whatever the state. -/
  bound : ∀ w, l.binding = .bound w → (host x e).ServedBy event args l w s ending s'
  /-- The request is all that the dispatch itself asks for. -/
  bound_trace : ∀ (P : List Interaction → Prop) [Composable P], x.Extends P → ∀ w,
    l.binding = .bound w → (∀ h, ending ≠ .stuck h) →
    ∃ i u, Asks args l w i ∧ P u ∧ s'.trace = s.trace ++ i :: u
  /-- The queue of the worker is open while the runtime of its engine is alive. -/
  bound_open : ∀ w p, l.binding = .bound w → l.mode = .async →
    (s.engine w.home).kind = .pooled p → p.isOpen = true →
    ∀ n, ending ≠ .failed (.host (.queueClosed n))
  /-- Any other listener is run by a worker that was acquired for it. -/
  lazy : l.binding = .lazy → (s.engine e).refuseAcquire s.trace = none →
    ∃ w s₁ s₂, s.acquire e = (.ok w, s₁) ∧
      (host x e).ServedBy event args l w s₁ ending s₂ ∧
      ((∀ h, ending ≠ .stuck h) → s' = s₂.release e w)
  lazy_trace : ∀ (P : List Interaction → Prop) [Composable P], x.Extends P →
    l.binding = .lazy → (s.engine e).refuseAcquire s.trace = none → (∀ h, ending ≠ .stuck h) →
    ∃ w i u, Asks args l w i ∧ P u ∧
      s'.trace = s.trace ++ .acquired e w :: i :: (u ++ [.released e w])

theorem Host.Delivered.dispatched (h : (host x e).Delivered event args l s ending s') :
    Dispatched x e event args l s ending s' := by
  cases h with
  | bound w _ _ hb hs =>
    have hsame {w' : Worker} (hb' : l.binding = .bound w') : w' = w := by
      rw [hb] at hb'
      cases hb'
      rfl
    have hnot : l.binding ≠ .lazy := by simp [hb]
    refine ⟨?_, ?_, ?_, fun hl => absurd hl hnot, fun _ _ _ hl => absurd hl hnot⟩
    · intro w' hb'
      exact hsame hb' ▸ hs
    · intro P _ hx w' hb' hleft
      obtain ⟨i, hi, u, ht, hu⟩ := hs.adds (host_notes hx e) hleft
      exact ⟨i, u, hsame hb' ▸ hi, hu, by simp [ht]⟩
    · intro w' p hb' hm hp hopen
      obtain rfl := hsame hb'
      exact hs.queue_open hm hp hopen
  | leased w s₁ _ s₂ hb ha hs hleft =>
    have hnot (w' : Worker) : l.binding ≠ .bound w' := by simp [hb]
    refine ⟨fun _ hb' => absurd hb' (hnot _), fun _ _ _ _ hb' => absurd hb' (hnot _),
      fun _ _ hb' => absurd hb' (hnot _), ?_, ?_⟩
    · intro _ _
      exact ⟨w, s₁, s₂, ha, hs, fun _ => rfl⟩
    · intro P _ hx _ _ hleft
      obtain ⟨i, hi, u, ht, hu⟩ := hs.adds (host_notes hx e) hleft
      refine ⟨w, i, u, hi, hu, ?_⟩
      rw [show ((host x e).release w s₂).trace = _ from release_trace s₂ e w, ht,
        acquire_trace_ok ha]
      simp
  | stuck w s₁ h _ hb ha hs =>
    have hnot (w' : Worker) : l.binding ≠ .bound w' := by simp [hb]
    refine ⟨fun _ hb' => absurd hb' (hnot _), fun _ _ _ _ hb' => absurd hb' (hnot _),
      fun _ _ hb' => absurd hb' (hnot _), ?_, ?_⟩
    · intro _ _
      exact ⟨w, s₁, s', ha, hs, fun hleft => absurd rfl (hleft h)⟩
    · intro P _ hx _ _ hleft
      exact absurd rfl (hleft h)
  | refused c s₁ hb _ ha | skipped c s₁ hb _ ha =>
    have hnot (w' : Worker) : l.binding ≠ .bound w' := by simp [hb]
    have hrefused : (s.engine e).refuseAcquire s.trace ≠ none := by
      intro hgrant
      cases (acquire_of_grant hgrant).symm.trans ha
    exact ⟨fun _ hb' => absurd hb' (hnot _), fun _ _ _ _ hb' => absurd hb' (hnot _),
      fun _ _ hb' => absurd hb' (hnot _), fun _ hgrant => absurd hgrant hrefused,
      fun _ _ _ _ hgrant => absurd hgrant hrefused⟩

/-- The dispatches before one of them, it itself, and those after it. -/
theorem Host.Deliveries.split {σ : Type} {h : Host σ} {s s' : σ} {ds before after : List Delivery}
    {d : Delivery} (hds : h.Deliveries event args s ds s') (hsplit : ds = before ++ d :: after) :
    ∃ s₁ s₂, h.Deliveries event args s before s₁ ∧
      h.Delivered event args d.listener s₁ d.ending s₂ ∧
      h.Deliveries event args s₂ after s' := by
  induction before generalizing s ds with
  | nil =>
    subst hsplit
    cases hds with
    | next _ _ s₁ _ _ hd hrest => exact ⟨s, s₁, .none s, hd, hrest⟩
  | cons first before ih =>
    subst hsplit
    cases hds with
    | next _ _ s₁ _ _ hd hrest =>
      obtain ⟨s₂, s₃, hbefore, hd', hafter⟩ := ih hrest rfl
      exact ⟨s₂, s₃, .next s first s₁ before s₂ hd hbefore, hd', hafter⟩

end

namespace Relay

/-! ## Registration -/

theorem bindingOf_eq_bound {s : Relay} {e : EngineId} {v : Value} {t : Target} {w : Worker}
    (h : Target.ofValue v = .ok t) :
    s.bindingOf e t = .bound w ↔ (∃ f, v = .function f) ∧ s.currentWorker e = some w := by
  cases t with
  | function f =>
    have hv : ∃ f, v = .function f := by
      unfold Target.ofValue at h
      split at h
      · exact ⟨_, rfl⟩
      · split at h
        · cases h
        · split at h <;> cases h
      · cases h
    simp only [bindingOf, hv, true_and]
    cases s.currentWorker e <;> simp
  | «export» module name =>
    have hv : ¬ ∃ f, v = .function f := by
      rintro ⟨f, rfl⟩
      cases h
    simp [bindingOf, hv]

theorem mem_find_listen {s s' : Relay} (hs : Tidied s) {a : AdapterId} {event : String}
    {v : Value} {mode : Mode} {n : Nat} (h : s.listen a event v mode = (.ok n, s')) :
    ∃ l ∈ (s'.adapter a).listeners.find event, l.handle = n := by
  cases hv : Target.ofValue v with
  | error e =>
    rw [listen_of_error hv] at h
    cases h
  | ok t =>
    rw [listen_of_ok hv] at h
    cases h
    refine ⟨⟨s.handles + 1, t, mode, s.bindingOf (s.adapter a).engine t⟩, ?_, rfl⟩
    rw [listeners_putListeners, if_pos rfl, (hs a).find_add, if_pos rfl]
    exact List.mem_append_right _ (List.mem_singleton_self _)

/-- A listener has the binding of the moment at which it was accepted: the worker that was current
then, if it is a function and there was one, and none otherwise. At any later time of a run it is
the same listener of the same event, or it was removed. Whatever worker is current at an emission,
and whatever became of the worker that it is bound to, its dispatch asks this worker at once and
nothing else; without a worker it asks for one each time. Scripts run along paths, also with
functions that stop a run halfway, so the times of a path are those inside of runs as well. -/
theorem binding_captured :
    (∀ program depth, (Script.runner program depth).Runs) ∧
    (∀ x : Runner, x.Runs → ∀ steps s, ∃ t, Path s t (Script.runSteps x steps s).2) ∧
    ∀ (t : List PoolMove) (s : Relay) a event v mode n s₁, Path initial t s →
      s.listen a event v mode = (.ok n, s₁) →
      ∃ l ∈ (s₁.adapter a).listeners.find event, l.handle = n ∧
        Target.ofValue v = .ok l.target ∧ l.mode = mode ∧
        (∀ w, l.binding = .bound w ↔
          (∃ f, v = .function f) ∧ s.currentWorker (s.adapter a).engine = some w) ∧
        ∀ u s', Path s₁ u s' →
          (∀ a' event' l', l' ∈ (s'.adapter a').listeners.find event' → l'.handle = n →
            a' = a ∧ event' = event ∧ l' = l) ∧
          ∀ (x : Runner) args,
            let snapshot := (s'.adapter a).listeners.find event
            let x' := emitting x a event snapshot
            let e := (s'.adapter a).engine
            let out := emit x a event args s'
            ∃ ds, (host x' e).Emitted event args snapshot s' out ds ∧
              ∀ before d after, ds = before ++ d :: after → d.listener.handle = n →
                d.listener = l ∧ ∃ s₂ s₃, (host x' e).Deliveries event args s' before s₂ ∧
                  Dispatched x' e event args l s₂ d.ending s₃ ∧
                  (host x' e).Deliveries event args s₃ after out.2 := by
  refine ⟨Script.runner_runs, ?_, ?_⟩
  · intro x hx steps s
    exact (Script.runSteps_runs hx steps s).path
  · intro t s a event v mode n s₁ hs hlisten
    obtain ⟨l, hl, hn⟩ := mem_find_listen (hs.forwards initial_tidied).1 hlisten
    obtain ⟨-, -, htarget, hmode, hbinding⟩ := listen_persists hs hlisten .refl hl hn
    refine ⟨l, hl, hn, htarget, hmode, fun w => ?_, fun u s' hlater => ?_⟩
    · rw [hbinding]
      exact bindingOf_eq_bound htarget
    · have hsame : ∀ a' event' l', l' ∈ (s'.adapter a').listeners.find event' → l'.handle = n →
          a' = a ∧ event' = event ∧ l' = l := by
        intro a' event' l' hl' hn'
        obtain ⟨ha, he, htarget', hmode', hbinding'⟩ := listen_persists hs hlisten hlater hl' hn'
        have htargets : l'.target = l.target := by
          rw [htarget] at htarget'
          exact (Except.ok.inj htarget').symm
        refine ⟨ha, he, ?_⟩
        cases l
        cases l'
        simp_all
      refine ⟨hsame, ?_⟩
      intro x args snapshot x' e out
      obtain ⟨ds, hds⟩ := emit_emitted x a event args s'
      refine ⟨ds, hds, ?_⟩
      intro before d after hsplit hd
      have hmem : d.listener ∈ snapshot := by
        refine hds.listeners.subset (List.mem_map_of_mem ?_)
        simp [hsplit]
      obtain ⟨-, -, heq⟩ := hsame a event d.listener hmem hd
      obtain ⟨s₂, s₃, hbefore, hdelivered, hafter⟩ := hds.dispatched.split hsplit
      exact ⟨heq, s₂, s₃, hbefore, heq ▸ hdelivered.dispatched, hafter⟩

/-- An adapter on an engine that keeps no idle workers. -/
def eagerPool : List Script.Step :=
  [.startEngine "e" (.pooled ⟨.owning, none, some 0, none, none⟩),
    .newAdapter "ad" "e" ⟨.interface, "Ticker", []⟩]

/-- The thread takes the first worker of the first engine and enters it. -/
def intoFirst (s : Relay) : Relay :=
  { (s.take 0).2 with stack := ⟨0, 1, true⟩ :: (s.take 0).2.stack }

/-- The thread leaves this worker and gives it back. -/
def outOfFirst (s : Relay) : Relay := { s with stack := s.stack.tail }.giveBack 0 1

/-- The idle and the leased workers of the first engine, if it is pooled and open. -/
def firstPool (s : Relay) : Option (List Nat × List Nat) :=
  match (s.engine 0).kind with
  | .inline _ => none
  | .pooled p => if p.isOpen then some (p.pool.idle, p.pool.leased) else none

theorem binding_captured_retired :
    ∃ (s s₁ : Relay) (l : Listener) (d : Delivery) (s₂ s₃ : Relay),
      (∃ t, Path initial t s) ∧ firstPool s = some ([], [1]) ∧
      s.listen 0 "tick" (.function (Function.anonymous "f")) .async = (.ok 1, s₁) ∧
      (∃ u, Path s₁ u (outOfFirst s₁)) ∧ firstPool (outOfFirst s₁) = some ([], []) ∧
      ((outOfFirst s₁).adapter 0).listeners.find "tick" = [l] ∧ l.binding = .bound ⟨0, 1, 0⟩ ∧
      (emit (Script.runner [] 9) 0 "tick" [] (outOfFirst s₁)).2.trace.map Interaction.text =
        ["submit worker-1 global:<anonymous>"] ∧
      d.listener = l ∧
      Dispatched (emitting (Script.runner [] 9) 0 "tick" [l]) 0 "tick" [] l s₂ d.ending s₃ := by
  obtain ⟨hrunner, hsteps, hcaptured⟩ := binding_captured
  obtain ⟨t, ht⟩ := hsteps _ (hrunner [] 9) eagerPool initial
  obtain ⟨s₀, hs₀⟩ : ∃ s₀, s₀ = (Script.runSteps (Script.runner [] 9) eagerPool initial).2 :=
    ⟨_, rfl⟩
  rw [← hs₀] at ht
  have hoff : (s₀.take 0).2.stack = [] := by
    rw [hs₀]
    decide +kernel
  have hinto : ∃ t, Path initial t (intoFirst s₀) :=
    ⟨_, ht.trans ((Path.single (.take 0)).step (change_entered_first hoff ⟨0, 1, true⟩))⟩
  obtain ⟨s, hs⟩ : ∃ s, s = intoFirst s₀ := ⟨_, rfl⟩
  rw [← hs] at hinto
  have hinside : (firstPool s, s.currentWorker (s.adapter 0).engine,
      (s.listen 0 "tick" (.function (Function.anonymous "f")) .async).1) =
      (some ([], [1]), some ⟨0, 1, 0⟩, .ok 1) := by
    rw [hs, hs₀]
    decide +kernel
  obtain ⟨s₁, hs₁⟩ :
      ∃ s₁, s₁ = (s.listen 0 "tick" (.function (Function.anonymous "f")) .async).2 := ⟨_, rfl⟩
  have hstack : s₁.stack = [⟨0, 1, true⟩] := by
    rw [hs₁, hs, hs₀]
    decide +kernel
  have houtside : (firstPool (outOfFirst s₁),
      (((outOfFirst s₁).adapter 0).listeners.find "tick").map Listener.handle,
      ((outOfFirst s₁).adapter 0).engine, (outOfFirst s₁).trace.map Interaction.text,
      (emit (Script.runner [] 9) 0 "tick" [] (outOfFirst s₁)).2.trace.map Interaction.text) =
      (some ([], []), [1], 0, [], ["submit worker-1 global:<anonymous>"]) := by
    rw [hs₁, hs, hs₀]
    decide +kernel
  simp only [Prod.mk.injEq] at hinside houtside
  obtain ⟨hpool, hcurrent, haccepted⟩ := hinside
  obtain ⟨hretired, hhandles, hengine, hquiet, htrace⟩ := houtside
  have hout : ∃ u, Path s₁ u (outOfFirst s₁) := by
    rw [outOfFirst, hstack]
    exact ⟨_, (Path.single (.left ⟨0, 1, true⟩ [] hstack)).step (.giveBack 0 1)⟩
  obtain ⟨t, hinto⟩ := hinto
  obtain ⟨u, hout⟩ := hout
  have hlisten : s.listen 0 "tick" (.function (Function.anonymous "f")) .async = (.ok 1, s₁) :=
    Prod.ext haccepted hs₁.symm
  obtain ⟨l, -, -, -, -, hbinding, hlater⟩ :=
    hcaptured t s 0 "tick" _ .async 1 s₁ hinto hlisten
  obtain ⟨hsame, hemit⟩ := hlater u _ hout
  obtain ⟨l', hfind, hl'⟩ := List.map_eq_singleton_iff.mp hhandles
  obtain ⟨-, -, rfl⟩ := hsame 0 "tick" l' (by simp [hfind]) hl'
  have hbound := (hbinding ⟨0, 1, 0⟩).mpr ⟨⟨_, rfl⟩, hcurrent⟩
  obtain ⟨ds, ⟨hds, hpre, -, -, -⟩, hdispatched⟩ := hemit (Script.runner [] 9) []
  rw [hfind] at hpre hdispatched
  rw [hengine] at hdispatched
  cases ds with
  | nil =>
    -- Without a dispatch, the trace would have stayed empty.
    generalize (emit (Script.runner [] 9) 0 "tick" [] (outOfFirst s₁)).2 = out at hds htrace
    cases hds
    rw [hquiet] at htrace
    cases htrace
  | cons d rest =>
    have hd : d.listener = l' := List.mem_singleton.mp (hpre.subset List.mem_cons_self)
    obtain ⟨-, s₂, s₃, -, hdispatched, -⟩ := hdispatched [] d rest rfl (hd ▸ hl')
    exact ⟨s, s₁, l', d, s₂, s₃, ⟨t, hinto⟩, hpool, hlisten, ⟨u, hout⟩, hretired, hfind, hbound,
      htrace, hd, hdispatched⟩

end Relay
end EventRelay
