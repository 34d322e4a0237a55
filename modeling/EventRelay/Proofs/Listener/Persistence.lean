import EventRelay.Proofs.Path

/-!
# EventRelay.Proofs.Listener.Persistence

Listeners along whole runs.

* `Relay.Tidied`: all registries of adapters are tidy.
* `Relay.Forwards`: from one state to a later one, listeners may be removed, and those that come
  have handles that were not given out before.
* `Path.forwards`: every path goes forwards, from the three things that a change can do to the
  listeners of adapters.
* `Path.handles_increasing`: the listeners of an event stand in the order of their registration.
* `listen_persists`: whoever has the handle of a registration later is that registration, as it was.
-/

namespace EventRelay

/-- Of two listeners, the first one was registered earlier. -/
def Listener.Before (l l' : Listener) : Prop := l.handle < l'.handle

namespace Relay

def Tidied (s : Relay) : Prop := ∀ a, (s.adapter a).listeners.Tidy

/-- Every listener was there before, or is new and has a new handle. -/
structure Forwards (s s' : Relay) : Prop where
  handles : s.handles ≤ s'.handles
  kept : ∀ a event l, l ∈ (s'.adapter a).listeners.find event →
    l ∈ (s.adapter a).listeners.find event ∨ s.handles < l.handle ∧ l.handle ≤ s'.handles

section

variable {s s' s'' : Relay} {u : List PoolMove}

theorem Forwards.trans (h : Forwards s s') (h' : Forwards s' s'') : Forwards s s'' where
  handles := h.handles.trans h'.handles
  kept a event l hl := by
    have hle := h'.handles
    rcases h'.kept a event l hl with hl | ⟨hlt, hbound⟩
    · rcases h.kept a event l hl with hl | ⟨hlt, hbound⟩
      · exact .inl hl
      · exact .inr ⟨hlt, hbound.trans hle⟩
    · exact .inr ⟨h.handles.trans_lt hlt, hbound⟩

/-! ## Changes -/

theorem adapter_eq_of_adapters (h : s'.adapters = s.adapters) (a : AdapterId) :
    s'.adapter a = s.adapter a := by
  rw [adapter, h, adapter]

/-- A change leaves adapters alone, is a request to one of them, or makes a new one. -/
theorem Change.adapters_cases (h : Change s u s') :
    (s'.adapters = s.adapters ∧ s.handles ≤ s'.handles) ∨ (∃ q : Request, s' = q.run s) ∨
      ∃ e type, s' = (s.addAdapter e type).2 := by
  have hsame {s' : Relay} (hadapters : s'.adapters = s.adapters)
      (hhandles : s'.handles = s.handles) :
      (s'.adapters = s.adapters ∧ s.handles ≤ s'.handles) ∨ (∃ q : Request, s' = q.run s) ∨
        ∃ e type, s' = (s.addAdapter e type).2 :=
    .inl ⟨hadapters, hhandles.ge⟩
  cases h with
  | note | warn | entered | left | queued | unqueued | queuedInline | unregister | clearEvent
  | newRegistry | types | addEngine | refuse | record => exact hsame rfl rfl
  | request q => exact .inr (.inl ⟨q, rfl⟩)
  | addAdapter e type => exact .inr (.inr ⟨e, type, rfl⟩)
  | register r e event v mode l s₁ hl =>
    unfold newListener at hl
    split at hl
    · cases hl
    · cases hl
      exact .inl ⟨rfl, Nat.le_succ _⟩
  | take e =>
    unfold Relay.take
    split <;> exact hsame rfl rfl
  | giveBack e n =>
    unfold Relay.giveBack
    split
    · exact hsame rfl rfl
    · split <;> exact hsame rfl rfl
  | finish job failed =>
    unfold Relay.finish
    split <;> exact hsame rfl rfl
  | begun e job _ hn =>
    obtain ⟨i, rest, -, -, rfl⟩ := nextJob?_eq_some hn
    exact hsame rfl rfl
  | setCurrent e current =>
    unfold Relay.setCurrent
    split <;> exact hsame rfl rfl
  | newWorker e =>
    unfold Relay.newWorker
    split <;> exact hsame rfl rfl
  | putExports e m =>
    unfold Script.putExports
    split <;> exact hsame rfl rfl
  | closeUnused e =>
    unfold Relay.closeUnused
    split
    · split <;> exact hsame rfl rfl
    · exact hsame rfl rfl

theorem Forwards.of_eq (hadapters : s'.adapters = s.adapters) (hhandles : s.handles ≤ s'.handles) :
    Forwards s s' where
  handles := hhandles
  kept a _ _ hl := .inl (adapter_eq_of_adapters hadapters a ▸ hl)

/-- What remains of a registry was in it before. -/
theorem Forwards.putListeners {a : AdapterId} {r : Registry}
    (h : ∀ event l, l ∈ r.find event → l ∈ (s.adapter a).listeners.find event) :
    Forwards s (s.putListeners a r) where
  handles := Nat.le_refl _
  kept a' event l hl := by
    rw [listeners_putListeners] at hl
    split at hl
    · rename_i ha
      exact .inl (ha ▸ h event l hl)
    · exact .inl hl

theorem Tidied.putListeners (h : Tidied s) {r : Registry} (hr : r.Tidy) (a : AdapterId) :
    Tidied (s.putListeners a r) := by
  intro a'
  rw [listeners_putListeners]
  split
  · exact hr
  · exact h a'

/-- A listener that is added to a registry is the only one that was not there. -/
theorem mem_find_add {r : Registry} (hr : r.Tidy) {event event' : String} {l l' : Listener}
    (h : l' ∈ (r.add event l).find event') : l' ∈ r.find event' ∨ event' = event ∧ l' = l := by
  rw [hr.find_add] at h
  split at h
  · rename_i he
    rw [List.mem_append, List.mem_singleton] at h
    rcases h with h | h
    · exact .inl (he ▸ h)
    · exact .inr ⟨he, h⟩
  · exact .inl h

theorem Forwards.removeFirst (h : Tidied s) (a : AdapterId) (event : String)
    (p : Listener → Bool) :
    Forwards s (s.putListeners a ((s.adapter a).listeners.removeFirst event p).2) := by
  refine .putListeners fun event' l hl => ?_
  rw [(h a).find_removeFirst] at hl
  split at hl
  · rename_i he
    exact he ▸ List.mem_of_mem_eraseP hl
  · exact hl

theorem request_forwards (h : Tidied s) (q : Request) :
    Tidied (q.run s) ∧ Forwards s (q.run s) := by
  cases q with
  | listen a event v mode =>
    cases hv : Target.ofValue v with
    | error e =>
      rw [Request.run, listen_of_error hv]
      exact ⟨h, .of_eq rfl (Nat.le_refl _)⟩
    | ok t =>
      rw [Request.run, listen_of_ok hv]
      refine ⟨Tidied.putListeners (s := { s with handles := s.handles + 1 }) h
        ((h a).add event _) a, ⟨Nat.le_succ _, ?_⟩⟩
      intro a' event' l hl
      rw [listeners_putListeners] at hl
      split at hl
      · rename_i ha
        subst ha
        rcases mem_find_add (h a') hl with hl | ⟨-, rfl⟩
        · exact .inl hl
        · exact .inr ⟨Nat.lt_succ_self _, Nat.le_refl _⟩
      · exact .inl hl
  | unlisten a event handle =>
    exact ⟨h.putListeners ((h a).removeFirst event _) a, .removeFirst h a event _⟩
  | unlistenValue a event v =>
    exact ⟨h.putListeners ((h a).removeFirst event _) a, .removeFirst h a event _⟩
  | unlistenAll a event =>
    refine ⟨h.putListeners ((h a).clear event) a, .putListeners fun event' l hl => ?_⟩
    rw [(h a).find_clear] at hl
    split at hl
    · cases hl
    · exact hl

theorem addAdapter_forwards (h : Tidied s) (e : EngineId) (type : AdapterType) :
    Tidied (s.addAdapter e type).2 ∧ Forwards s (s.addAdapter e type).2 := by
  have hadapter (a : AdapterId) : ((s.addAdapter e type).2.adapter a).listeners =
      if s.adapters.size = a then .empty else (s.adapter a).listeners := by
    simp only [addAdapter, putAdapter, adapter, Table.get_put]
    split <;> rfl
  refine ⟨fun a => ?_, ⟨Nat.le_refl _, fun a event l hl => ?_⟩⟩
  · rw [hadapter]
    split
    · exact .empty
    · exact h a
  · rw [hadapter] at hl
    split at hl
    · cases hl
    · exact .inl hl

theorem Change.forwards (h : Change s u s') (hs : Tidied s) : Tidied s' ∧ Forwards s s' := by
  rcases h.adapters_cases with ⟨hadapters, hhandles⟩ | ⟨q, rfl⟩ | ⟨e, type, rfl⟩
  · exact ⟨fun a => adapter_eq_of_adapters hadapters a ▸ hs a, .of_eq hadapters hhandles⟩
  · exact request_forwards hs q
  · exact addAdapter_forwards hs e type

/-! ## Runs -/

theorem Path.forwards (h : Path s u s') (hs : Tidied s) : Tidied s' ∧ Forwards s s' := by
  induction h with
  | refl => exact ⟨hs, .of_eq rfl (Nat.le_refl _)⟩
  | step _ hc ih =>
    obtain ⟨htidy, hforwards⟩ := ih
    obtain ⟨htidy', hforwards'⟩ := hc.forwards htidy
    exact ⟨htidy', hforwards.trans hforwards'⟩

theorem initial_tidied : Tidied initial := fun _ => .empty

/-- No handle is ahead of those that were given out. -/
theorem Path.handle_le (h : Path initial u s) {a : AdapterId} {event : String} {l : Listener}
    (hl : l ∈ (s.adapter a).listeners.find event) : l.handle ≤ s.handles := by
  rcases (h.forwards initial_tidied).2.kept a event l hl with hl | ⟨-, hbound⟩
  · cases hl
  · exact hbound

/-- Listeners stand in the order of their registration: each change adds one at the end, or takes
some away. -/
theorem Path.handles_increasing (h : Path initial u s) (a : AdapterId) (event : String) :
    ((s.adapter a).listeners.find event).Pairwise Listener.Before := by
  induction h generalizing a event with
  | refl => exact .nil
  | @step t u s s' hpath hc ih =>
    have htidy := (hpath.forwards initial_tidied).1
    rcases hc.adapters_cases with ⟨hadapters, -⟩ | ⟨q, rfl⟩ | ⟨e, type, rfl⟩
    · rw [adapter_eq_of_adapters hadapters]
      exact ih a event
    · have hput (a' : AdapterId) {r : Registry}
          (hr : (r.find event).Pairwise Listener.Before) :
          (((s.putListeners a' r).adapter a).listeners.find event).Pairwise Listener.Before := by
        rw [listeners_putListeners]
        split
        · exact hr
        · exact ih a event
      have hremoved (a' : AdapterId) (event' : String) (p : Listener → Bool) :
          (((s.adapter a').listeners.removeFirst event' p).2.find event).Pairwise
            Listener.Before := by
        rw [(htidy a').find_removeFirst]
        split
        · exact (ih a' event').sublist (List.eraseP_sublist ..)
        · exact ih a' event
      cases q with
      | listen a' event' v mode =>
        cases hv : Target.ofValue v with
        | error e =>
          rw [Request.run, listen_of_error hv]
          exact ih a event
        | ok t =>
          rw [Request.run, listen_of_ok hv]
          refine hput a' ?_
          rw [(htidy a').find_add]
          split
          · refine List.pairwise_append.mpr ⟨ih a' event', List.pairwise_singleton _ _, ?_⟩
            intro l hl l' hl'
            rw [List.mem_singleton.mp hl']
            exact Nat.lt_succ_of_le (hpath.handle_le hl)
          · exact ih a' event
      | unlisten a' event' handle => exact hput a' (hremoved a' event' _)
      | unlistenValue a' event' v => exact hput a' (hremoved a' event' _)
      | unlistenAll a' event' =>
        refine hput a' ?_
        rw [(htidy a').find_clear]
        split
        · exact .nil
        · exact ih a' event
    · simp only [addAdapter, putAdapter, adapter, Table.get_put]
      split
      · exact .nil
      · exact ih a event

/-- At any later time, a listener with the handle of a registration is the listener that was
registered then, with the same event of the same adapter. -/
theorem listen_persists {t : List PoolMove} (hs : Path initial t s) {a : AdapterId}
    {event : String} {v : Value} {mode : Mode} {n : Nat} {s₁ : Relay}
    (hlisten : s.listen a event v mode = (.ok n, s₁)) (hlater : Path s₁ u s')
    {a' : AdapterId} {event' : String} {l : Listener}
    (hl : l ∈ (s'.adapter a').listeners.find event') (hn : l.handle = n) :
    a' = a ∧ event' = event ∧ Target.ofValue v = .ok l.target ∧ l.mode = mode ∧
      l.binding = s.bindingOf (s.adapter a).engine l.target := by
  have htidy := (hs.forwards initial_tidied).1
  have hrequest := (request_forwards htidy (.listen a event v mode)).1
  rw [Request.run, hlisten] at hrequest
  cases hv : Target.ofValue v with
  | error e =>
    rw [listen_of_error hv] at hlisten
    cases hlisten
  | ok t =>
    rw [listen_of_ok hv] at hlisten
    cases hlisten
    rcases (hlater.forwards hrequest).2.kept a' event' l hl with hl | ⟨hlt, -⟩
    · rw [listeners_putListeners] at hl
      split at hl
      · rename_i ha
        subst ha
        rcases mem_find_add (htidy a') hl with hl | ⟨rfl, rfl⟩
        · have hle := hs.handle_le hl
          omega
        · exact ⟨rfl, rfl, rfl, rfl, rfl⟩
      · have hle := hs.handle_le hl
        omega
    · have hhandles : s.handles + 1 < l.handle := hlt
      omega

end

end Relay
end EventRelay
