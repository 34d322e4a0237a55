import Mathlib.Data.List.Nodup
import EventRelay.Emission
import EventRelay.Proofs.Listener.Registry

/-!
# EventRelay.Proofs.Listener.History

The listeners of all adapters over any sequence of requests.

* `Request`: what can be asked of the listeners of an adapter; clones of an adapter are the same
  adapter.
* `Ledger`: all registrations that were accepted, and the handles of those that were removed.
  `Ledger.listed` is what remains of them for an event of an adapter.
* `History`: a ledger and the state that its requests lead to, whatever else happens in between.
* `Kept`: what links the two. Each request keeps it, and so it holds after every history.
* `listeners_faithful`: what callers see of it.
-/

namespace EventRelay

/-! ## Ledgers -/

/-- Something asked of the listeners of an adapter. -/
inductive Request where
  | listen (a : AdapterId) (event : String) (v : Value) (mode : Mode)
  | unlisten (a : AdapterId) (event : String) (handle : Nat)
  | unlistenValue (a : AdapterId) (event : String) (v : Value)
  | unlistenAll (a : AdapterId) (event : String)

namespace Request

def adapter : Request → AdapterId
  | listen a _ _ _ => a
  | unlisten a _ _ => a
  | unlistenValue a _ _ => a
  | unlistenAll a _ => a

def event : Request → String
  | listen _ event _ _ => event
  | unlisten _ event _ => event
  | unlistenValue _ event _ => event
  | unlistenAll _ event => event

/-- The state after a request. -/
def run : Request → Relay → Relay
  | listen a event v mode, s => (s.listen a event v mode).2
  | unlisten a event handle, s => s.unlisten a event handle
  | unlistenValue a event v, s => s.unlistenValue a event v
  | unlistenAll a event, s => s.unlistenAll a event

end Request

structure Registration where
  adapter : AdapterId
  event : String
  listener : Listener

/-- Accepted registrations, the oldest first, and the handles of those that were removed. -/
structure Ledger where
  accepted : List Registration
  removed : List Nat

namespace Ledger

/-- The handles that were given out. -/
def handles (b : Ledger) : List Nat := b.accepted.map fun r => r.listener.handle

/-- The listeners that were accepted for an event of an adapter and not removed. -/
def listed (b : Ledger) (a : AdapterId) (event : String) : List Listener :=
  (b.accepted.filter fun r =>
    r.adapter == a && r.event == event && !b.removed.contains r.listener.handle).map
      Registration.listener

/-- The handle of the first listener of an event that `p` accepts. -/
def first (b : Ledger) (a : AdapterId) (event : String) (p : Listener → Bool) : List Nat :=
  ((b.listed a event).find? p).toList.map Listener.handle

/-- What a request adds to the accepted registrations. -/
def adds (b : Ledger) (s : Relay) : Request → List Registration
  | .listen a event v mode =>
    match Target.ofValue v with
    | .ok t =>
      [⟨a, event, ⟨b.accepted.length + 1, t, mode, s.bindingOf (s.adapter a).engine t⟩⟩]
    | .error _ => []
  | _ => []

/-- The handles that a request removes. -/
def drops (b : Ledger) : Request → List Nat
  | .listen _ _ _ _ => []
  | .unlisten a event handle => b.first a event fun l => l.handle == handle
  | .unlistenValue a event v => b.first a event fun l => l.target.accepts v
  | .unlistenAll a event => (b.listed a event).map Listener.handle

/-- The ledger with a request that was made in a state. -/
def book (b : Ledger) (s : Relay) (q : Request) : Ledger :=
  ⟨b.accepted ++ b.adds s q, b.removed ++ b.drops q⟩

end Ledger

/-- Requests to the listeners of adapters that had none at the start. Between the requests,
anything may happen that leaves listeners and handles alone. -/
inductive History : Ledger → Relay → Prop where
  | start (s : Relay) : s.handles = 0 → (∀ a, (s.adapter a).listeners = .empty) →
      History ⟨[], []⟩ s
  | request {b : Ledger} {s : Relay} (q : Request) : History b s → History (b.book s q) (q.run s)
  | elsewhere {b : Ledger} {s : Relay} (s' : Relay) : History b s → s'.handles = s.handles →
      (∀ a, (s'.adapter a).listeners = (s.adapter a).listeners) → History b s'

/-! ## What remains -/

/-- Where all keys differ, the first element that `p` accepts is the one with its key. -/
theorem eraseP_eq_filter {α β : Type} [DecidableEq β] (f : α → β) (p : α → Bool) (xs : List α)
    (h : (xs.map f).Nodup) :
    xs.eraseP p = xs.filter fun x => !((xs.find? p).toList.map f).contains (f x) := by
  induction xs with
  | nil => rfl
  | cons x xs ih =>
    rw [List.map_cons, List.nodup_cons] at h
    obtain ⟨hx, hxs⟩ := h
    by_cases hp : p x = true
    · have hkeep : ∀ y ∈ xs, (!([f x] : List β).contains (f y)) = true := by
        intro y hy
        have hne : f y ≠ f x := fun heq => hx (heq ▸ List.mem_map_of_mem hy)
        simpa using hne
      rw [List.eraseP_cons_of_pos hp, List.find?_cons_of_pos hp]
      simp only [Option.toList_some, List.map_cons, List.map_nil]
      rw [List.filter_cons_of_neg (by simp), List.filter_eq_self.mpr hkeep]
    · have hnot : f x ∉ (xs.find? p).toList.map f := by
        intro hmem
        obtain ⟨y, hy, heq⟩ := List.mem_map.mp hmem
        have hfind : xs.find? p = some y := Option.mem_toList.mp hy
        exact hx (heq ▸ List.mem_map_of_mem (List.mem_of_find?_eq_some hfind))
      rw [List.eraseP_cons_of_neg hp, List.find?_cons_of_neg hp, ih hxs,
        List.filter_cons_of_pos (by simpa using hnot)]

namespace Ledger

variable {b : Ledger} {a : AdapterId} {event : String}

theorem mem_listed {l : Listener} :
    l ∈ b.listed a event ↔ ⟨a, event, l⟩ ∈ b.accepted ∧ l.handle ∉ b.removed := by
  simp only [listed, List.mem_map, List.mem_filter, Bool.and_eq_true, beq_iff_eq,
    Bool.not_eq_true', List.contains_eq_mem, decide_eq_false_iff_not]
  constructor
  · rintro ⟨⟨a', event', l'⟩, ⟨hmem, ⟨rfl, rfl⟩, hkept⟩, rfl⟩
    exact ⟨hmem, hkept⟩
  · rintro ⟨hmem, hkept⟩
    exact ⟨_, ⟨hmem, ⟨rfl, rfl⟩, hkept⟩, rfl⟩

theorem handle_mem_of_listed {l : Listener} (h : l ∈ b.listed a event) :
    l.handle ∈ b.handles ∧ l.handle ∉ b.removed := by
  obtain ⟨hmem, hkept⟩ := mem_listed.mp h
  exact ⟨List.mem_map_of_mem (f := fun r : Registration => r.listener.handle) hmem, hkept⟩

/-- A handle belongs to one event of one adapter. -/
theorem eq_of_listed (hnd : b.handles.Nodup) {a' : AdapterId} {event' : String} {l l' : Listener}
    (h : l ∈ b.listed a event) (h' : l' ∈ b.listed a' event') (heq : l.handle = l'.handle) :
    a = a' ∧ event = event' ∧ l = l' := by
  have hsame := List.inj_on_of_nodup_map hnd (mem_listed.mp h).1 (mem_listed.mp h').1 heq
  cases hsame
  exact ⟨rfl, rfl, rfl⟩

theorem listed_handles_nodup (hnd : b.handles.Nodup) (a : AdapterId) (event : String) :
    ((b.listed a event).map Listener.handle).Nodup := by
  have hsub : ((b.listed a event).map Listener.handle).Sublist b.handles := by
    rw [listed, List.map_map]
    exact List.filter_sublist.map _
  exact hsub.nodup hnd

theorem listed_drop (d : List Nat) :
    (⟨b.accepted, b.removed ++ d⟩ : Ledger).listed a event =
      (b.listed a event).filter fun l => !d.contains l.handle := by
  simp only [listed, List.filter_map, List.filter_filter]
  congr 1
  apply List.filter_congr
  intro r _
  simp only [Function.comp_apply, List.contains_eq_mem, List.mem_append, Bool.decide_or,
    Bool.not_or]
  cases decide (r.listener.handle ∈ d) <;> simp

theorem listed_add (r : Registration) :
    (⟨b.accepted ++ [r], b.removed⟩ : Ledger).listed a event =
      b.listed a event ++
        if r.adapter = a ∧ r.event = event ∧ r.listener.handle ∉ b.removed then [r.listener]
        else [] := by
  simp only [listed, List.filter_append, List.map_append]
  congr 1
  by_cases h : r.adapter = a ∧ r.event = event ∧ r.listener.handle ∉ b.removed
  · obtain ⟨ha, he, hr⟩ := h
    simp [ha, he, hr]
  · rw [if_neg h, List.map_eq_nil_iff, List.filter_eq_nil_iff]
    intro r' hr'
    rw [List.mem_singleton.mp hr']
    simpa [and_assoc] using h

/-- Handles of listeners of one event are missed nowhere else. -/
theorem filter_listed_of_ne (hnd : b.handles.Nodup) {d : List Nat}
    (hd : ∀ n ∈ d, ∃ l ∈ b.listed a event, l.handle = n) {a' : AdapterId} {event' : String}
    (hne : ¬ (a' = a ∧ event' = event)) :
    ((b.listed a' event').filter fun l => !d.contains l.handle) = b.listed a' event' := by
  apply List.filter_eq_self.mpr
  intro l hl
  simp only [List.contains_eq_mem, Bool.not_eq_true', decide_eq_false_iff_not]
  intro hmem
  obtain ⟨l', hl', heq⟩ := hd _ hmem
  obtain ⟨ha, he, -⟩ := eq_of_listed hnd hl hl' heq.symm
  exact hne ⟨ha, he⟩

theorem first_listed (p : Listener → Bool) :
    ∀ n ∈ b.first a event p, ∃ l ∈ b.listed a event, l.handle = n := by
  intro n hn
  obtain ⟨l, hl, rfl⟩ := List.mem_map.mp hn
  exact ⟨l, List.mem_of_find?_eq_some (Option.mem_toList.mp hl), rfl⟩

theorem first_nodup (p : Listener → Bool) : (b.first a event p).Nodup := by
  unfold first
  cases (b.listed a event).find? p with
  | none => exact List.nodup_nil
  | some l => exact List.nodup_singleton _

/-- A removal by handle takes away the handle itself, if it is still there. -/
theorem first_handle {n : Nat} :
    (b.first a event fun l => l.handle == n) =
      if ∃ l ∈ b.listed a event, l.handle = n then [n] else [] := by
  unfold first
  cases hfind : (b.listed a event).find? fun l => l.handle == n with
  | none =>
    rw [if_neg]
    · rfl
    · rintro ⟨l, hl, heq⟩
      exact absurd heq (by simpa using List.find?_eq_none.mp hfind l hl)
  | some l =>
    have heq : l.handle = n := by simpa using List.find?_some hfind
    rw [if_pos ⟨l, List.mem_of_find?_eq_some hfind, heq⟩]
    simp [heq]

theorem book_of_ok {v : Value} {t : Target} (h : Target.ofValue v = .ok t) (s : Relay)
    (mode : Mode) : b.book s (.listen a event v mode) = ⟨b.accepted ++
      [⟨a, event, ⟨b.accepted.length + 1, t, mode, s.bindingOf (s.adapter a).engine t⟩⟩],
      b.removed⟩ := by
  simp [book, adds, drops, h]

theorem book_of_error {v : Value} {e : RegistrationError} (h : Target.ofValue v = .error e)
    (s : Relay) (mode : Mode) : b.book s (.listen a event v mode) = b := by
  simp [book, adds, drops, h]

theorem book_of_adds_nil {s : Relay} {q : Request} (h : b.adds s q = []) :
    b.book s q = ⟨b.accepted, b.removed ++ b.drops q⟩ := by
  simp [book, h]

/-- A request removes listeners of its own event. -/
theorem drops_listed (q : Request) :
    ∀ n ∈ b.drops q, ∃ l ∈ b.listed q.adapter q.event, l.handle = n := by
  intro n hn
  cases q with
  | listen => cases hn
  | unlisten | unlistenValue => exact first_listed _ n hn
  | unlistenAll => exact List.mem_map.mp hn

/-- A request adds a listener to its own event, under the next handle. -/
theorem of_mem_adds {s : Relay} {q : Request} {r : Registration} (h : r ∈ b.adds s q) :
    r.adapter = q.adapter ∧ r.event = q.event ∧ r.listener.handle = b.accepted.length + 1 := by
  cases q with
  | listen a event v mode =>
    simp only [adds] at h
    split at h
    · rw [List.mem_singleton.mp h]
      exact ⟨rfl, rfl, rfl⟩
    · cases h
  | unlisten | unlistenValue | unlistenAll => cases h

theorem listed_book (hfresh : b.accepted.length + 1 ∉ b.removed) (s : Relay) (q : Request) :
    (b.book s q).listed a event =
      (b.listed a event).filter (fun l => !(b.drops q).contains l.handle) ++
        ((b.adds s q).filter fun r => r.adapter == a && r.event == event).map
          Registration.listener := by
  cases q with
  | listen a' event' v mode =>
    have hkeep : (b.listed a event).filter (fun l =>
        !(b.drops (.listen a' event' v mode)).contains l.handle) = b.listed a event :=
      List.filter_eq_self.mpr fun _ _ => rfl
    rw [hkeep]
    cases hv : Target.ofValue v with
    | error e => simp [book_of_error hv, adds, hv]
    | ok t =>
      rw [book_of_ok hv, listed_add]
      by_cases hsame : a' = a ∧ event' = event
      · simp [adds, hv, hsame, hfresh]
      · rw [if_neg fun hc => hsame ⟨hc.1, hc.2.1⟩]
        simpa [adds, hv] using hsame
  | unlisten | unlistenValue | unlistenAll =>
    rw [book_of_adds_nil rfl, listed_drop]
    simp [adds]

end Ledger

/-! ## The link -/

namespace Relay

theorem listeners_putListeners (s : Relay) (a a' : AdapterId) (r : Registry) :
    ((s.putListeners a r).adapter a').listeners =
      if a' = a then r else (s.adapter a').listeners := by
  simp only [putListeners, putAdapter, adapter, Table.get_put]
  by_cases h : a' = a
  · rw [if_pos h.symm, if_pos h]
  · rw [if_neg (Ne.symm h), if_neg h]

theorem listen_of_ok {v : Value} {t : Target} (h : Target.ofValue v = .ok t) (s : Relay)
    (a : AdapterId) (event : String) (mode : Mode) :
    s.listen a event v mode = (.ok (s.handles + 1),
      { s with handles := s.handles + 1 }.putListeners a ((s.adapter a).listeners.add event
        ⟨s.handles + 1, t, mode, s.bindingOf (s.adapter a).engine t⟩)) := by
  simp only [Relay.listen, newListener, h]
  rfl

theorem listen_of_error {v : Value} {e : RegistrationError} (h : Target.ofValue v = .error e)
    (s : Relay) (a : AdapterId) (event : String) (mode : Mode) :
    s.listen a event v mode = (.error e, s.warn (.refusedListener event e)) := by
  simp only [Relay.listen, newListener, h]

end Relay

/-- What links a ledger to the state that its requests led to. -/
structure Kept (b : Ledger) (s : Relay) : Prop where
  tidy : ∀ a, (s.adapter a).listeners.Tidy
  find_eq : ∀ a event, (s.adapter a).listeners.find event = b.listed a event
  handles_eq : s.handles = b.accepted.length
  numbered : b.handles = List.range' 1 b.accepted.length
  removed_nodup : b.removed.Nodup
  removed_issued : ∀ n ∈ b.removed, n ∈ b.handles

namespace Kept

variable {b : Ledger} {s : Relay}

theorem handles_nodup (h : Kept b s) : b.handles.Nodup := by
  rw [h.numbered]
  exact List.nodup_range'

theorem fresh_not_removed (h : Kept b s) : b.accepted.length + 1 ∉ b.removed := by
  intro hmem
  have hissued := h.removed_issued _ hmem
  rw [h.numbered, List.mem_range'_1] at hissued
  omega

theorem start (hn : s.handles = 0) (hl : ∀ a, (s.adapter a).listeners = .empty) :
    Kept ⟨[], []⟩ s where
  tidy a := hl a ▸ .empty
  find_eq a event := by
    rw [hl a]
    rfl
  handles_eq := hn
  numbered := rfl
  removed_nodup := List.nodup_nil
  removed_issued := nofun

theorem elsewhere (h : Kept b s) {s' : Relay} (hn : s'.handles = s.handles)
    (hl : ∀ a, (s'.adapter a).listeners = (s.adapter a).listeners) : Kept b s' where
  __ := h
  tidy a := hl a ▸ h.tidy a
  find_eq a event := by rw [hl a, h.find_eq]
  handles_eq := by rw [hn, h.handles_eq]

/-- An accepted registration comes after all others of its event, under the next handle. -/
theorem add (h : Kept b s) (a : AdapterId) (event : String) {l : Listener}
    (hl : l.handle = b.accepted.length + 1) :
    Kept ⟨b.accepted ++ [⟨a, event, l⟩], b.removed⟩
      ({ s with handles := s.handles + 1 }.putListeners a
        ((s.adapter a).listeners.add event l)) where
  tidy a' := by
    rw [Relay.listeners_putListeners]
    split
    · exact (h.tidy a).add event l
    · exact h.tidy a'
  find_eq a' event' := by
    have hfresh : l.handle ∉ b.removed := hl ▸ h.fresh_not_removed
    rw [Relay.listeners_putListeners, Ledger.listed_add, ← h.find_eq]
    by_cases ha : a' = a
    · subst ha
      rw [if_pos rfl, (h.tidy a').find_add]
      by_cases he : event' = event
      · subst he
        rw [if_pos rfl, if_pos ⟨rfl, rfl, hfresh⟩]
      · rw [if_neg he, if_neg fun hc => he hc.2.1.symm, List.append_nil]
    · rw [if_neg ha, if_neg fun hc => ha hc.1.symm, List.append_nil]
      rfl
  handles_eq := by
    rw [List.length_append, List.length_singleton, ← h.handles_eq]
    rfl
  numbered := by
    rw [Ledger.handles, List.map_append, List.length_append, List.length_singleton,
      List.range'_1_concat, ← h.numbered]
    simp only [Ledger.handles, List.map_cons, List.map_nil, hl, Nat.add_comm]
  removed_nodup := h.removed_nodup
  removed_issued n hn := by
    rw [Ledger.handles, List.map_append]
    exact List.mem_append_left _ (h.removed_issued n hn)

/-- Listeners of one event that are removed are missed there and nowhere else. -/
theorem remove (h : Kept b s) {a : AdapterId} {event : String} {d : List Nat} {r : Registry}
    (hr : r.Tidy) (hd : ∀ n ∈ d, ∃ l ∈ b.listed a event, l.handle = n) (hnd : d.Nodup)
    (hfind : ∀ event', r.find event' =
      if event' = event then (b.listed a event).filter fun l => !d.contains l.handle
      else (s.adapter a).listeners.find event') :
    Kept ⟨b.accepted, b.removed ++ d⟩ (s.putListeners a r) where
  tidy a' := by
    rw [Relay.listeners_putListeners]
    split
    · exact hr
    · exact h.tidy a'
  find_eq a' event' := by
    rw [Relay.listeners_putListeners, Ledger.listed_drop]
    by_cases ha : a' = a
    · subst ha
      rw [if_pos rfl, hfind]
      by_cases he : event' = event
      · rw [if_pos he, he]
      · rw [if_neg he, h.find_eq,
          Ledger.filter_listed_of_ne h.handles_nodup hd fun hc => he hc.2]
    · rw [if_neg ha, h.find_eq, Ledger.filter_listed_of_ne h.handles_nodup hd fun hc => ha hc.1]
  handles_eq := h.handles_eq
  numbered := h.numbered
  removed_nodup := by
    refine List.nodup_append.mpr ⟨h.removed_nodup, hnd, ?_⟩
    rintro n hn _ hn' rfl
    obtain ⟨l, hl, rfl⟩ := hd n hn'
    exact (Ledger.handle_mem_of_listed hl).2 hn
  removed_issued n hn := by
    rcases List.mem_append.mp hn with hn | hn
    · exact h.removed_issued n hn
    · obtain ⟨l, hl, rfl⟩ := hd n hn
      exact (Ledger.handle_mem_of_listed hl).1

theorem removeFirst (h : Kept b s) (a : AdapterId) (event : String) (p : Listener → Bool) :
    Kept ⟨b.accepted, b.removed ++ b.first a event p⟩
      (s.putListeners a ((s.adapter a).listeners.removeFirst event p).2) := by
  refine h.remove ((h.tidy a).removeFirst event p) (Ledger.first_listed p) (Ledger.first_nodup p)
    fun event' => ?_
  rw [(h.tidy a).find_removeFirst, h.find_eq, Ledger.first,
    eraseP_eq_filter Listener.handle p _ (Ledger.listed_handles_nodup h.handles_nodup a event)]

theorem clear (h : Kept b s) (a : AdapterId) (event : String) :
    Kept ⟨b.accepted, b.removed ++ (b.listed a event).map Listener.handle⟩
      (s.putListeners a ((s.adapter a).listeners.clear event).2) := by
  have hall : ∀ n ∈ (b.listed a event).map Listener.handle,
      ∃ l ∈ b.listed a event, l.handle = n := fun n hn => List.mem_map.mp hn
  refine h.remove ((h.tidy a).clear event) hall
    (Ledger.listed_handles_nodup h.handles_nodup a event) fun event' => ?_
  have hnone : ((b.listed a event).filter fun l =>
      !((b.listed a event).map Listener.handle).contains l.handle) = [] := by
    apply List.filter_eq_nil_iff.mpr
    intro l hl
    have hmem : l.handle ∈ (b.listed a event).map Listener.handle := List.mem_map_of_mem hl
    simpa using hmem
  rw [(h.tidy a).find_clear, hnone]

theorem request (h : Kept b s) (q : Request) : Kept (b.book s q) (q.run s) := by
  cases q with
  | listen a event v mode =>
    cases hv : Target.ofValue v with
    | error e =>
      rw [Ledger.book_of_error hv, Request.run, Relay.listen_of_error hv]
      exact h.elsewhere rfl fun _ => rfl
    | ok t =>
      rw [Ledger.book_of_ok hv, Request.run, Relay.listen_of_ok hv, ← h.handles_eq]
      exact h.add a event (by rw [h.handles_eq])
  | unlisten a event handle =>
    rw [Ledger.book_of_adds_nil rfl]
    exact h.removeFirst a event fun l => l.handle == handle
  | unlistenValue a event v =>
    rw [Ledger.book_of_adds_nil rfl]
    exact h.removeFirst a event fun l => l.target.accepts v
  | unlistenAll a event =>
    rw [Ledger.book_of_adds_nil rfl]
    exact h.clear a event

end Kept

/-- By induction on the requests. -/
theorem History.kept {b : Ledger} {s : Relay} (h : History b s) : Kept b s := by
  induction h with
  | start s hn hl => exact .start hn hl
  | request q _ ih => exact ih.request q
  | elsewhere s' _ hn hl ih => exact ih.elsewhere hn hl

/-! ## What callers see -/

/-- What callers see of the listeners after a history. -/
structure Faithful (b : Ledger) (s : Relay) : Prop where
  /-- An event has the listeners that were accepted for it and not removed, in their order. -/
  find_eq : ∀ a event, (s.adapter a).listeners.find event = b.listed a event
  /-- Handles count the accepted registrations of all adapters. -/
  numbered : b.handles = List.range' 1 b.accepted.length
  /-- No handle is removed twice, and none that was not given out. -/
  removed_nodup : b.removed.Nodup
  removed_issued : ∀ n ∈ b.removed, n ∈ b.handles
  nonempty : ∀ a, ∀ e ∈ (s.adapter a).listeners.lists, e.2 ≠ []
  increasing : ∀ a, (s.adapter a).listeners.events.Pairwise (· < ·)
  mem_events : ∀ a event, event ∈ (s.adapter a).listeners.events ↔
    0 < (s.adapter a).listeners.count event
  accept : ∀ a event v mode t, Target.ofValue v = .ok t →
    (s.listen a event v mode).1 = .ok (b.accepted.length + 1)
  /-- A refused registration is warned about and changes nothing. -/
  refuse : ∀ a event v mode e, Target.ofValue v = .error e →
    s.listen a event v mode = (.error e, s.warn (.refusedListener event e))
  /-- A removal by handle succeeds for a handle of this event and adapter that is still there. -/
  removes_iff : ∀ a event n, ((s.adapter a).listeners.remove event n).1 = true ↔
    (∃ l, ⟨a, event, l⟩ ∈ b.accepted ∧ l.handle = n) ∧ n ∉ b.removed
  removed_once : ∀ n ∈ b.removed, ∀ a event, ((s.adapter a).listeners.remove event n).1 = false
  /-- It takes away the listener with this handle, and no other. -/
  removes_only : ∀ a event n a' event',
    ((s.unlisten a event n).adapter a').listeners.find event' =
      ((s.adapter a').listeners.find event').filter fun l =>
        !(a' == a && event' == event && l.handle == n)
  /-- A request leaves all other events and adapters alone. -/
  others : ∀ (q : Request) a event, ¬ (a = q.adapter ∧ event = q.event) →
    ((q.run s).adapter a).listeners.find event = (s.adapter a).listeners.find event
  /-- Those that a request does not remove keep their order, and a new one comes last. -/
  ordered : ∀ (q : Request) a event, ((q.run s).adapter a).listeners.find event =
    ((s.adapter a).listeners.find event).filter (fun l => !(b.drops q).contains l.handle) ++
      ((b.adds s q).filter fun r => r.adapter == a && r.event == event).map Registration.listener
  /-- A registration whose handle is removed at once leaves no trace among the listeners. -/
  undone : ∀ a event v mode n, (s.listen a event v mode).1 = .ok n → ∀ a',
    (((s.listen a event v mode).2.unlisten a event n).adapter a').listeners =
      (s.adapter a').listeners

namespace History

variable {b : Ledger} {s : Relay}

theorem ordered (h : History b s) (q : Request) (a : AdapterId) (event : String) :
    ((q.run s).adapter a).listeners.find event =
      ((s.adapter a).listeners.find event).filter (fun l => !(b.drops q).contains l.handle) ++
        ((b.adds s q).filter fun r => r.adapter == a && r.event == event).map
          Registration.listener := by
  rw [(h.request q).kept.find_eq, h.kept.find_eq, Ledger.listed_book h.kept.fresh_not_removed]

theorem others (h : History b s) (q : Request) {a : AdapterId} {event : String}
    (hne : ¬ (a = q.adapter ∧ event = q.event)) :
    ((q.run s).adapter a).listeners.find event = (s.adapter a).listeners.find event := by
  have hadds : (b.adds s q).filter (fun r => r.adapter == a && r.event == event) = [] := by
    apply List.filter_eq_nil_iff.mpr
    intro r hr heq
    obtain ⟨ha, he, -⟩ := Ledger.of_mem_adds hr
    rw [Bool.and_eq_true, beq_iff_eq, beq_iff_eq] at heq
    exact hne ⟨heq.1.symm.trans ha, heq.2.symm.trans he⟩
  rw [h.ordered, hadds, List.map_nil, List.append_nil, h.kept.find_eq,
    Ledger.filter_listed_of_ne h.kept.handles_nodup (Ledger.drops_listed q) hne]

theorem removes_iff (h : History b s) (a : AdapterId) (event : String) (n : Nat) :
    ((s.adapter a).listeners.remove event n).1 = true ↔
      (∃ l, ⟨a, event, l⟩ ∈ b.accepted ∧ l.handle = n) ∧ n ∉ b.removed := by
  rw [Registry.remove, Registry.removeFirst_fst, h.kept.find_eq, List.any_eq_true]
  constructor
  · rintro ⟨l, hl, heq⟩
    obtain rfl : l.handle = n := beq_iff_eq.mp heq
    obtain ⟨hmem, hkept⟩ := Ledger.mem_listed.mp hl
    exact ⟨⟨l, hmem, rfl⟩, hkept⟩
  · rintro ⟨⟨l, hmem, rfl⟩, hkept⟩
    exact ⟨l, Ledger.mem_listed.mpr ⟨hmem, hkept⟩, beq_self_eq_true _⟩

theorem removes_only (h : History b s) (a : AdapterId) (event : String) (n : Nat)
    (a' : AdapterId) (event' : String) :
    ((s.unlisten a event n).adapter a').listeners.find event' =
      ((s.adapter a').listeners.find event').filter fun l =>
        !(a' == a && event' == event && l.handle == n) := by
  by_cases hsame : a' = a ∧ event' = event
  · obtain ⟨rfl, rfl⟩ := hsame
    have hordered := h.ordered (.unlisten a' event' n) a' event'
    have hadds : b.adds s (.unlisten a' event' n) = [] := rfl
    rw [hadds, List.filter_nil, List.map_nil, List.append_nil] at hordered
    refine hordered.trans (List.filter_congr fun l hl => ?_)
    rw [h.kept.find_eq] at hl
    rw [Ledger.drops, Ledger.first_handle]
    split
    · simp [Bool.beq_eq_decide_eq]
    · rename_i hnone
      have hne : l.handle ≠ n := fun heq => hnone ⟨l, hl, heq⟩
      simp [hne]
  · have hother : (a' == a && event' == event) = false := by simpa using hsame
    rw [List.filter_eq_self.mpr fun l _ => by rw [hother]; rfl]
    exact h.others (.unlisten a event n) hsame

/-- By `ext`, since the new listener is the only one with its handle. -/
theorem undone (h : History b s) {a : AdapterId} {event : String} {v : Value} {mode : Mode}
    {n : Nat} (hn : (s.listen a event v mode).1 = .ok n) (a' : AdapterId) :
    (((s.listen a event v mode).2.unlisten a event n).adapter a').listeners =
      (s.adapter a').listeners := by
  obtain rfl : n = b.accepted.length + 1 := by
    rw [← h.kept.handles_eq]
    cases hv : Target.ofValue v with
    | error e =>
      rw [Relay.listen_of_error hv] at hn
      cases hn
    | ok t =>
      rw [Relay.listen_of_ok hv] at hn
      exact (Except.ok.inj hn).symm
  have h₁ := h.request (.listen a event v mode)
  have h₂ := h₁.request (.unlisten a event (b.accepted.length + 1))
  refine Registry.Tidy.ext (h₂.kept.tidy a') (h.kept.tidy a') fun event' => ?_
  refine (h₁.removes_only a event _ a' event').trans ?_
  rw [h.ordered, List.filter_append]
  have hold : ∀ l ∈ (s.adapter a').listeners.find event', l.handle ≠ b.accepted.length + 1 := by
    intro l hl
    rw [h.kept.find_eq] at hl
    have hissued := (Ledger.handle_mem_of_listed hl).1
    rw [h.kept.numbered, List.mem_range'_1] at hissued
    omega
  have hnew : (((b.adds s (.listen a event v mode)).filter fun r =>
      r.adapter == a' && r.event == event').map Registration.listener).filter (fun l =>
        !(a' == a && event' == event && l.handle == b.accepted.length + 1)) = [] := by
    apply List.filter_eq_nil_iff.mpr
    intro l hl
    obtain ⟨r, hr, rfl⟩ := List.mem_map.mp hl
    obtain ⟨hadd, heq⟩ := List.mem_filter.mp hr
    obtain ⟨ha, he, hhandle⟩ := Ledger.of_mem_adds hadd
    rw [Bool.and_eq_true, beq_iff_eq, beq_iff_eq] at heq
    have ha' : a' = a := heq.1.symm.trans ha
    have he' : event' = event := heq.2.symm.trans he
    simp [ha', he', hhandle]
  have hdrops : b.drops (.listen a event v mode) = [] := rfl
  rw [hnew, List.append_nil, hdrops, List.filter_filter]
  exact List.filter_eq_self.mpr fun l hl => by simp [hold l hl]

end History

/-- After any history, the listeners are those that were accepted and not removed. -/
theorem listeners_faithful {b : Ledger} {s : Relay} (h : History b s) : Faithful b s where
  find_eq := h.kept.find_eq
  numbered := h.kept.numbered
  removed_nodup := h.kept.removed_nodup
  removed_issued := h.kept.removed_issued
  nonempty a := (h.kept.tidy a).nonempty
  increasing a := (h.kept.tidy a).events_increasing
  mem_events a _ := (h.kept.tidy a).mem_events
  accept a event v mode t hv := by rw [Relay.listen_of_ok hv, h.kept.handles_eq]
  refuse a event v mode e hv := Relay.listen_of_error hv s a event mode
  removes_iff := h.removes_iff
  removed_once n hn a event :=
    Bool.eq_false_iff.mpr fun hremoved => ((h.removes_iff a event n).mp hremoved).2 hn
  removes_only := h.removes_only
  others q a event hne := h.others q hne
  ordered := h.ordered
  undone a event v mode n hn := h.undone hn

/-- A relay with two adapters, and requests to both. -/
def twoAdapters : Relay :=
  { Relay.initial with adapters := ⟨[Adapter.blank, Adapter.blank]⟩ }

def requests : List Request :=
  let f : Value := .function (Function.anonymous "f")
  [.listen 0 "tick" f .sync, .listen 1 "tick" (Value.moduleRef "app" "onTick") .async,
    .listen 0 "ask" .null .sync, .listen 0 "tick" f .async, .listen 0 "ask" f .sync,
    .unlistenValue 0 "tick" f, .unlisten 1 "tick" 2]

theorem listeners_faithful_mixed :
    let b := (requests.foldl (fun bs q => (bs.1.book bs.2 q, q.run bs.2))
      ((⟨[], []⟩ : Ledger), twoAdapters))
    History b.1 b.2 ∧ Faithful b.1 b.2 ∧ b.1.handles = [1, 2, 3, 4] ∧ b.1.removed = [1, 2] ∧
      ((b.2.adapter 0).listeners.find "tick").map Listener.handle = [3] ∧
      (b.2.adapter 0).listeners.events = ["ask", "tick"] ∧
      (b.2.adapter 1).listeners.events = [] := by
  intro b
  have hstart : History ⟨[], []⟩ twoAdapters := by
    refine .start _ rfl fun a => ?_
    match a with
    | 0 => rfl
    | 1 => rfl
    | a + 2 => rfl
  have h : History b.1 b.2 :=
    (((((((hstart.request _).request _).request _).request _).request _).request _).request _)
  exact ⟨h, listeners_faithful h, rfl, by decide, by decide, by decide, by decide⟩

end EventRelay
