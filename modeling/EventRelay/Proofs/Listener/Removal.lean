import Mathlib.Data.List.Forall2
import EventRelay.Proofs.Listener.History

/-!
# EventRelay.Proofs.Listener.Removal

Removal by value.

* `Value.SameListener`: two values that stand for one listener, a function by its identity and
  an object by two of its properties.
* `Matching`: `Target.accepts` is this relation, an equivalence on the values that can be
  registered.
* `Recorded`: a history together with the value that each accepted registration was made with.
* `removal_by_value`: what is removed is the oldest listener of the event whose own value stands
  for the same listener.
-/

namespace EventRelay

/-! ## Values that stand for listeners -/

/-- A value stands for a target: a function for itself, an object for the export that its
properties `module` and `name` say. -/
inductive Value.Denotes : Value → Target → Prop where
  | function (f : Function) : Denotes (.function f) (.function f)
  | export {entries : List (String × Value)} {module name : String} :
      Value.property? entries "module" = some (.str module) →
      Value.property? entries "name" = some (.str name) →
      Denotes (.object entries) (.export module name)

/-- Functions are the same if their identities are, exports if they have the same name in the
same module. -/
inductive Target.Same : Target → Target → Prop where
  | function {f g : Function} : f.id = g.id → Same (.function f) (.function g)
  | export (module name : String) : Same (.export module name) (.export module name)

/-- Two values stand for the same listener. -/
def Value.SameListener (v w : Value) : Prop :=
  ∃ t u, v.Denotes t ∧ w.Denotes u ∧ t.Same u

/-- A value whose target accepts another one. -/
def Value.Matches (v w : Value) : Prop := ∃ t, Target.ofValue v = .ok t ∧ t.accepts w = true

/-- Values that a listener can be registered with. -/
def Value.Registrable (v : Value) : Prop := ∃ t, Target.ofValue v = .ok t

namespace Target

theorem stringProperty_eq_ok_iff {entries : List (String × Value)} {key text : String} :
    stringProperty entries key = .ok text ↔ Value.property? entries key = some (.str text) := by
  unfold stringProperty
  cases Value.property? entries key with
  | none => simp
  | some v => cases v <;> simp

theorem ofValue_eq_ok_iff {v : Value} {t : Target} : ofValue v = .ok t ↔ v.Denotes t := by
  constructor
  · intro h
    cases v with
    | function f =>
      cases h
      exact .function f
    | object entries =>
      simp only [ofValue] at h
      split at h
      · cases h
      · rename_i module hmodule
        split at h
        · cases h
        · rename_i name hname
          cases h
          exact .export (stringProperty_eq_ok_iff.mp hmodule) (stringProperty_eq_ok_iff.mp hname)
    | _ => cases h
  · rintro (_ | ⟨hmodule, hname⟩)
    · rfl
    · simp only [ofValue, stringProperty_eq_ok_iff.mpr hmodule,
        stringProperty_eq_ok_iff.mpr hname]

theorem same_iff {t u : Target} : t.same u = true ↔ t.Same u := by
  constructor
  · intro h
    match t, u with
    | .function f, .function g => exact .function (beq_iff_eq.mp h)
    | .export m n, .export k l =>
      obtain ⟨hm, hn⟩ := Bool.and_eq_true_iff.mp h
      obtain rfl := beq_iff_eq.mp hm
      obtain rfl := beq_iff_eq.mp hn
      exact .export m n
  · rintro (h | _)
    · exact beq_iff_eq.mpr h
    · simp [same]

namespace Same

theorem refl (t : Target) : t.Same t := by
  cases t with
  | function f => exact .function rfl
  | «export» module name => exact .export module name

theorem symm {t u : Target} (h : t.Same u) : u.Same t := by
  cases h with
  | function h => exact .function h.symm
  | «export» module name => exact .export module name

theorem trans {t u w : Target} (h : t.Same u) (h' : u.Same w) : t.Same w := by
  cases h with
  | function h =>
    cases h' with
    | function h' => exact .function (h.trans h')
  | «export» => exact h'

end Same

theorem accepts_iff {t : Target} {v : Value} :
    t.accepts v = true ↔ ∃ u, ofValue v = .ok u ∧ t.Same u := by
  unfold accepts
  cases h : ofValue v with
  | ok u => simp [same_iff]
  | error e => simp

end Target

namespace Value

theorem matches_iff_sameListener {v w : Value} : v.Matches w ↔ v.SameListener w := by
  constructor
  · rintro ⟨t, ht, haccepts⟩
    obtain ⟨u, hu, hsame⟩ := Target.accepts_iff.mp haccepts
    exact ⟨t, u, Target.ofValue_eq_ok_iff.mp ht, Target.ofValue_eq_ok_iff.mp hu, hsame⟩
  · rintro ⟨t, u, ht, hu, hsame⟩
    exact ⟨t, Target.ofValue_eq_ok_iff.mpr ht,
      Target.accepts_iff.mpr ⟨u, Target.ofValue_eq_ok_iff.mpr hu, hsame⟩⟩

/-- A target that was made of a value accepts the values that stand for the same listener. -/
theorem accepts_iff_sameListener {v w : Value} {t : Target} (h : Target.ofValue v = .ok t) :
    t.accepts w = true ↔ v.SameListener w := by
  rw [← matches_iff_sameListener]
  constructor
  · intro haccepts
    exact ⟨t, h, haccepts⟩
  · rintro ⟨u, hu, haccepts⟩
    rw [h] at hu
    cases hu
    exact haccepts

theorem Matches.refl {v : Value} (h : v.Registrable) : v.Matches v := by
  obtain ⟨t, ht⟩ := h
  exact ⟨t, ht, Target.accepts_iff.mpr ⟨t, ht, .refl t⟩⟩

theorem Matches.symm {v w : Value} (h : v.Matches w) : w.Matches v := by
  obtain ⟨t, ht, haccepts⟩ := h
  obtain ⟨u, hu, hsame⟩ := Target.accepts_iff.mp haccepts
  exact ⟨u, hu, Target.accepts_iff.mpr ⟨t, ht, hsame.symm⟩⟩

theorem Matches.trans {v w x : Value} (h : v.Matches w) (h' : w.Matches x) : v.Matches x := by
  obtain ⟨t, ht, haccepts⟩ := h
  obtain ⟨u, hu, haccepts'⟩ := h'
  obtain ⟨u', hu', hsame⟩ := Target.accepts_iff.mp haccepts
  obtain ⟨r, hr, hsame'⟩ := Target.accepts_iff.mp haccepts'
  obtain rfl : u' = u := Except.ok.inj (hu'.symm.trans hu)
  exact ⟨t, ht, Target.accepts_iff.mpr ⟨r, hr, hsame.trans hsame'⟩⟩

/-- Of an object, only two properties are read. -/
theorem ofValue_object_congr {entries entries' : List (String × Value)}
    (hmodule : property? entries "module" = property? entries' "module")
    (hname : property? entries "name" = property? entries' "name") :
    Target.ofValue (.object entries) = Target.ofValue (.object entries') := by
  simp only [Target.ofValue, Target.stringProperty, hmodule, hname]

end Value

/-- How the target of a value accepts other values. -/
structure Matching : Prop where
  registers : ∀ v t, Target.ofValue v = .ok t ↔ v.Denotes t
  accepts : ∀ v t, Target.ofValue v = .ok t → ∀ w,
    t.accepts w = true ↔ ∃ u, Target.ofValue w = .ok u ∧ t.Same u
  equivalence : Equivalence fun v w : { v : Value // v.Registrable } => v.1.Matches w.1
  /-- Objects that agree on two properties are as good as each other, on either side. -/
  properties : ∀ entries entries' : List (String × Value),
    Value.property? entries "module" = Value.property? entries' "module" →
    Value.property? entries "name" = Value.property? entries' "name" →
    Target.ofValue (.object entries) = Target.ofValue (.object entries') ∧
      (∀ w, (Value.object entries).Matches w ↔ (Value.object entries').Matches w) ∧
      ∀ w : Value, w.Matches (.object entries) ↔ w.Matches (.object entries')
  kinds : ∀ f entries, ¬ (Value.function f).Matches (.object entries) ∧
    ¬ (Value.object entries).Matches (.function f)

theorem matching : Matching where
  registers _ _ := Target.ofValue_eq_ok_iff
  accepts _ _ _ _ := Target.accepts_iff
  equivalence := ⟨fun v => .refl v.2, .symm, .trans⟩
  properties entries entries' hmodule hname := by
    have hsame := Value.ofValue_object_congr hmodule hname
    refine ⟨hsame, fun w => ?_, fun w => ?_⟩
    · rw [Value.Matches, Value.Matches, hsame]
    · simp only [Value.Matches, Target.accepts, hsame]
  kinds f entries := by
    have hnot : ¬ (Value.function f).Matches (.object entries) := by
      rintro h
      obtain ⟨t, u, ht, hu, hsame⟩ := Value.matches_iff_sameListener.mp h
      cases ht
      cases hu
      cases hsame
    exact ⟨hnot, fun h => hnot h.symm⟩

/-! ## Histories with their values -/

/-- The value of a registration, if it is accepted. -/
def Request.registers : Request → List Value
  | .listen _ _ v _ =>
    match Target.ofValue v with
    | .ok _ => [v]
    | .error _ => []
  | _ => []

/-- A history, with the values of the accepted registrations in their order. -/
inductive Recorded : List Value → Ledger → Relay → Prop where
  | start (s : Relay) : s.handles = 0 → (∀ a, (s.adapter a).listeners = .empty) →
      Recorded [] ⟨[], []⟩ s
  | request {values : List Value} {b : Ledger} {s : Relay} (q : Request) : Recorded values b s →
      Recorded (values ++ q.registers) (b.book s q) (q.run s)
  | elsewhere {values : List Value} {b : Ledger} {s : Relay} (s' : Relay) : Recorded values b s →
      s'.handles = s.handles → (∀ a, (s'.adapter a).listeners = (s.adapter a).listeners) →
      Recorded values b s'

/-- Any history can be recorded. -/
theorem History.recorded {b : Ledger} {s : Relay} (h : History b s) :
    ∃ values, Recorded values b s := by
  induction h with
  | start s hn hl => exact ⟨_, .start s hn hl⟩
  | request q _ ih =>
    obtain ⟨values, h⟩ := ih
    exact ⟨_, h.request q⟩
  | elsewhere s' _ hn hl ih =>
    obtain ⟨values, h⟩ := ih
    exact ⟨_, h.elsewhere s' hn hl⟩

/-- The value that a listener of an event was registered with. -/
def Ledger.RegisteredWith (b : Ledger) (values : List Value) (a : AdapterId) (event : String)
    (l : Listener) (v : Value) : Prop :=
  (⟨a, event, l⟩, v) ∈ b.accepted.zip values

/-- A listener whose own value stands for the same listener as `v`. -/
def Ledger.Meant (b : Ledger) (values : List Value) (a : AdapterId) (event : String) (v : Value)
    (l : Listener) : Prop :=
  ∃ w, b.RegisteredWith values a event l w ∧ w.SameListener v

namespace Recorded

variable {values : List Value} {b : Ledger} {s : Relay} {a : AdapterId} {event : String}
  {l : Listener}

theorem history (h : Recorded values b s) : History b s := by
  induction h with
  | start s hn hl => exact .start s hn hl
  | request q _ ih => exact ih.request q
  | elsewhere s' _ hn hl ih => exact ih.elsewhere s' hn hl

/-- A request records the values of what it adds to the ledger. -/
theorem forall₂_adds (b : Ledger) (s : Relay) (q : Request) :
    List.Forall₂ (fun (r : Registration) v => Target.ofValue v = .ok r.listener.target)
      (b.adds s q) q.registers := by
  cases q with
  | listen a event v mode =>
    cases hv : Target.ofValue v with
    | ok t =>
      simp only [Ledger.adds, Request.registers, hv]
      exact .cons hv .nil
    | error e =>
      simp only [Ledger.adds, Request.registers, hv]
      exact .nil
  | unlisten | unlistenValue | unlistenAll => exact .nil

/-- The target of a listener was made of the value that it was registered with. -/
theorem forall₂ (h : Recorded values b s) :
    List.Forall₂ (fun (r : Registration) v => Target.ofValue v = .ok r.listener.target)
      b.accepted values := by
  induction h with
  | start => exact .nil
  | request q _ ih => exact List.rel_append ih (forall₂_adds _ _ q)
  | elsewhere _ _ _ _ ih => exact ih

theorem ofValue_eq (h : Recorded values b s) {v : Value}
    (hv : b.RegisteredWith values a event l v) : Target.ofValue v = .ok l.target :=
  List.forall₂_zip h.forall₂ hv

theorem map_fst_zip (h : Recorded values b s) :
    (b.accepted.zip values).map Prod.fst = b.accepted :=
  List.map_fst_zip (by rw [h.forall₂.length_eq])

theorem exists_registeredWith (h : Recorded values b s) (hl : l ∈ b.listed a event) :
    ∃ v, b.RegisteredWith values a event l v := by
  have hmem := (Ledger.mem_listed.mp hl).1
  rw [← h.map_fst_zip] at hmem
  obtain ⟨⟨r, v⟩, hv, rfl⟩ := List.mem_map.mp hmem
  exact ⟨v, hv⟩

/-- No registration occurs twice, since their handles differ. -/
theorem registeredWith_unique (h : Recorded values b s) {v w : Value}
    (hv : b.RegisteredWith values a event l v) (hw : b.RegisteredWith values a event l w) :
    v = w := by
  have hnodup : ((b.accepted.zip values).map Prod.fst).Nodup := by
    rw [h.map_fst_zip]
    exact h.history.kept.handles_nodup.of_map
  exact congrArg Prod.snd (List.inj_on_of_nodup_map hnodup hv hw rfl)

theorem meant_iff (h : Recorded values b s) (hl : l ∈ b.listed a event) (v : Value) :
    b.Meant values a event v l ↔ l.target.accepts v = true := by
  constructor
  · rintro ⟨w, hw, hsame⟩
    exact (Value.accepts_iff_sameListener (h.ofValue_eq hw)).mpr hsame
  · intro haccepts
    obtain ⟨w, hw⟩ := h.exists_registeredWith hl
    exact ⟨w, hw, (Value.accepts_iff_sameListener (h.ofValue_eq hw)).mp haccepts⟩

end Recorded

/-! ## Removal -/

/-- What the removal of a value from an event makes of a state. -/
inductive Removal (b : Ledger) (values : List Value) (s : Relay) (a : AdapterId) (event : String)
    (v : Value) (s' : Relay) : Prop where
  | none :
      (∀ l ∈ (s.adapter a).listeners.find event, ¬ b.Meant values a event v l) →
      (∀ a', s'.adapter a' = s.adapter a') →
      Removal b values s a event v s'
  | first (earlier : List Listener) (l : Listener) (later : List Listener) :
      (s.adapter a).listeners.find event = earlier ++ l :: later →
      b.Meant values a event v l →
      (∀ l' ∈ earlier, ¬ b.Meant values a event v l') →
      (s'.adapter a).listeners.find event = earlier ++ later →
      Removal b values s a event v s'

/-- What callers see of removals by value after a history. -/
structure RemovedByValue (b : Ledger) (values : List Value) (s : Relay) : Prop where
  /-- An event has the listeners that were accepted for it and not removed. -/
  listed : ∀ a event, (s.adapter a).listeners.find event = b.listed a event
  /-- Every listener has one value that it was registered with, and stands for that. -/
  registered : ∀ a event, ∀ l ∈ (s.adapter a).listeners.find event,
    ∃ v, b.RegisteredWith values a event l v ∧ v.Denotes l.target ∧
      ∀ w, b.RegisteredWith values a event l w → w = v
  /-- Listeners are listed from the oldest to the latest registration. -/
  increasing : ∀ a event,
    ((s.adapter a).listeners.find event).Pairwise fun l l' => l.handle < l'.handle
  removal : ∀ a event v, Removal b values s a event v (s.unlistenValue a event v)
  others : ∀ a event v a' event', ¬ (a' = a ∧ event' = event) →
    ((s.unlistenValue a event v).adapter a').listeners.find event' =
      (s.adapter a').listeners.find event'
  /-- Nothing but listeners is touched. -/
  listeners_only : ∀ a event v,
    { s.unlistenValue a event v with adapters := s.adapters } = s ∧
      ∀ a', { (s.unlistenValue a event v).adapter a' with
        listeners := (s.adapter a').listeners } = s.adapter a'
  /-- A value that cannot be registered removes nothing. -/
  refused : ∀ a event v, ¬ v.Registrable → ∀ a',
    (s.unlistenValue a event v).adapter a' = s.adapter a'

namespace Relay

theorem adapter_putListeners (s : Relay) (a a' : AdapterId) (r : Registry) :
    (s.putListeners a r).adapter a' =
      { s.adapter a' with listeners := if a' = a then r else (s.adapter a').listeners } := by
  simp only [putListeners, putAdapter, adapter, Table.get_put]
  by_cases h : a' = a
  · rw [if_pos h.symm, if_pos h, h]
  · rw [if_neg (Ne.symm h), if_neg h]

/-- A value that no listener of an event accepts changes no adapter. -/
theorem adapter_unlistenValue_of_none {s : Relay} {a : AdapterId} {event : String} {v : Value}
    (h : ∀ l ∈ (s.adapter a).listeners.find event, ¬ l.target.accepts v = true)
    (a' : AdapterId) : (s.unlistenValue a event v).adapter a' = s.adapter a' := by
  have hany : ((s.adapter a).listeners.find event).any (fun l => l.target.accepts v) = false :=
    List.any_eq_false.mpr h
  rw [unlistenValue, Registry.removeValue, Registry.removeFirst, hany, adapter_putListeners]
  by_cases ha : a' = a
  · rw [if_pos ha, ha]
    rfl
  · rw [if_neg ha]

end Relay

namespace Recorded

variable {values : List Value} {b : Ledger} {s : Relay}

theorem registered (h : Recorded values b s) {a : AdapterId} {event : String} {l : Listener}
    (hl : l ∈ (s.adapter a).listeners.find event) :
    ∃ v, b.RegisteredWith values a event l v ∧ v.Denotes l.target ∧
      ∀ w, b.RegisteredWith values a event l w → w = v := by
  rw [h.history.kept.find_eq] at hl
  obtain ⟨v, hv⟩ := h.exists_registeredWith hl
  exact ⟨v, hv, Target.ofValue_eq_ok_iff.mp (h.ofValue_eq hv),
    fun w hw => h.registeredWith_unique hw hv⟩

theorem increasing (h : Recorded values b s) (a : AdapterId) (event : String) :
    ((s.adapter a).listeners.find event).Pairwise fun l l' => l.handle < l'.handle := by
  have hall : b.handles.Pairwise (· < ·) := by
    rw [h.history.kept.numbered]
    exact List.pairwise_lt_range'
  rw [h.history.kept.find_eq, Ledger.listed, List.pairwise_map]
  exact (List.pairwise_map.mp hall).filter _

/-- Either no listener is meant, or the list splits at the first one that is. -/
theorem removal (h : Recorded values b s) (a : AdapterId) (event : String) (v : Value) :
    Removal b values s a event v (s.unlistenValue a event v) := by
  have hmeant : ∀ l ∈ (s.adapter a).listeners.find event,
      b.Meant values a event v l ↔ l.target.accepts v = true := by
    intro l hl
    rw [h.history.kept.find_eq] at hl
    exact h.meant_iff hl v
  by_cases hany : ∃ l ∈ (s.adapter a).listeners.find event, l.target.accepts v = true
  · obtain ⟨l₀, hl₀, haccepts₀⟩ := hany
    obtain ⟨l, earlier, later, hbefore, haccepts, hsplit, hrest⟩ :=
      List.exists_of_eraseP (p := fun l => l.target.accepts v) hl₀ haccepts₀
    have hmem : ∀ l' ∈ earlier ++ l :: later, l' ∈ (s.adapter a).listeners.find event :=
      fun l' hl' => hsplit ▸ hl'
    refine .first earlier l later hsplit ?_ ?_ ?_
    · exact (hmeant l (hmem l (by simp))).mpr haccepts
    · intro l' hl' hm
      exact hbefore l' hl' ((hmeant l' (hmem l' (List.mem_append_left _ hl'))).mp hm)
    · rw [Relay.unlistenValue, Relay.listeners_putListeners, if_pos rfl, Registry.removeValue,
        (h.history.kept.tidy a).find_removeFirst, if_pos rfl, hrest]
  · have hnone : ∀ l ∈ (s.adapter a).listeners.find event, ¬ l.target.accepts v = true :=
      fun l hl haccepts => hany ⟨l, hl, haccepts⟩
    refine .none (fun l hl hm => hnone l hl ((hmeant l hl).mp hm)) ?_
    exact Relay.adapter_unlistenValue_of_none hnone

theorem refused (a : AdapterId) (event : String) {v : Value} (hv : ¬ v.Registrable)
    (a' : AdapterId) : (s.unlistenValue a event v).adapter a' = s.adapter a' := by
  refine Relay.adapter_unlistenValue_of_none (fun l _ haccepts => ?_) a'
  obtain ⟨u, hu, -⟩ := Target.accepts_iff.mp haccepts
  exact hv ⟨u, hu⟩

end Recorded

/-- A value matches the values that stand for the same listener, and after any history its
removal takes away the oldest listener of the event that was registered with such a value. -/
theorem removal_by_value :
    Matching ∧ (∀ b s, History b s → ∃ values, Recorded values b s) ∧
      ∀ values b s, Recorded values b s → RemovedByValue b values s := by
  refine ⟨matching, fun b s h => h.recorded, fun values b s h => ?_⟩
  exact {
    listed := h.history.kept.find_eq
    registered := fun _ _ _ hl => h.registered hl
    increasing := h.increasing
    removal := h.removal
    others := fun a event v _ _ hne => h.history.others (.unlistenValue a event v) hne
    listeners_only := fun a event v => by
      refine ⟨rfl, fun a' => ?_⟩
      rw [Relay.unlistenValue, Relay.adapter_putListeners]
    refused := fun a event _ hv => Recorded.refused a event hv }

/-- Two functions that only their identities tell apart, and an export that two objects name, in
a state with a current worker. -/
def lookAlikes : List Request :=
  let f : Value := .function ⟨"f", some "tick", "app"⟩
  let g : Value := .function ⟨"g", some "tick", "app"⟩
  let labelled : Value := .ofEntries [("label", f), ("module", .str "app"), ("name", .str "onTick")]
  [.listen 0 "tick" g .sync, .listen 0 "tick" f .async, .listen 0 "tick" labelled .sync,
    .listen 0 "tick" .null .sync, .listen 0 "tick" f .sync,
    .listen 0 "tick" (.moduleRef "app" "onTick") .async, .listen 0 "tock" f .sync]

theorem removal_by_value_lookAlikes :
    let start : Relay := { twoAdapters with engines :=
      ⟨[Engine.ofKind (.inline { InlineEngine.fresh Modules.empty with current := some 1 })]⟩ }
    let x := lookAlikes.foldl
      (fun x q => (x.1 ++ q.registers, x.2.1.book x.2.2 q, q.run x.2.2))
      (([] : List Value), (⟨[], []⟩ : Ledger), start)
    let left := fun v => (((x.2.2.unlistenValue 0 "tick" v).adapter 0).listeners.find "tick").map
      fun l => (l.handle, l.binding)
    let worker := Binding.bound ⟨0, 1, 0⟩
    Recorded x.1 x.2.1 x.2.2 ∧ RemovedByValue x.2.1 x.1 x.2.2 ∧
      left (.function (Function.anonymous "f")) =
        [(1, worker), (3, .lazy), (4, worker), (5, .lazy)] ∧
      left (.moduleRef "app" "onTick") = [(1, worker), (2, worker), (4, worker), (5, .lazy)] ∧
      left .null = [(1, worker), (2, worker), (3, .lazy), (4, worker), (5, .lazy)] := by
  intro start x left worker
  have hstart : Recorded [] ⟨[], []⟩ start := by
    refine .start _ rfl fun a => ?_
    match a with
    | 0 => rfl
    | 1 => rfl
    | a + 2 => rfl
  have h : Recorded x.1 x.2.1 x.2.2 :=
    (((((((hstart.request _).request _).request _).request _).request _).request _).request _)
  exact ⟨h, removal_by_value.2.2 _ _ _ h, by decide, by decide, by decide⟩

end EventRelay
