import Mathlib.Data.List.Forall2
import EventRelay.Adapter.Call
import EventRelay.Proofs.Emission.Snapshot
import EventRelay.Proofs.Host.Running

/-!
# EventRelay.Proofs.Emission.Lease

What an emission leaves in the trace.

* `Asks`: the one request by which a worker is told to run a listener.
* `Segment P`: the part of the trace that belongs to the dispatch of one listener. A worker that
  is acquired for it is asked once and then released. Everything else satisfies `P` and comes
  after the request and before the release.
* `Host.Notes`: engines that note in a trace what they and their workers are asked for.
* `Host.emit_segments`: an emission on any such engine that control leaves has left one segment for
  each listener that it dispatched, in their order, and nothing else.
* `emit_balances`, `callDeclared_balances` and their like: so emissions and calls of methods add
  brackets to the trace, which is what carries emissions by listeners.
-/

namespace EventRelay

/-- The request by which a worker is told to run a listener. -/
inductive Asks (args : List Value) (l : Listener) (w : Worker) : Interaction → Prop where
  | invoked : l.mode = .sync → Asks args l w (.invoked w l.target args)
  | submitted (taken : Bool) :
      l.mode = .async → Asks args l w (.submitted w l.target args taken)

/-- The part of the trace that belongs to the dispatch of a listener by an engine. -/
inductive Segment (P : List Interaction → Prop) (e : EngineId) (args : List Value)
    (l : Listener) : List Interaction → Prop where
  | bound (w : Worker) (i : Interaction) (u : List Interaction) :
      l.binding = .bound w → Asks args l w i → P u → Segment P e args l (i :: u)
  | leased (w : Worker) (i : Interaction) (u : List Interaction) :
      l.binding = .lazy → Asks args l w i → P u →
      Segment P e args l (.acquired e w :: i :: (u ++ [.released e w]))
  | refused : l.binding = .lazy → Segment P e args l [.refused e]

theorem Segment.mono {P Q : List Interaction → Prop} {e : EngineId} {args : List Value}
    {l : Listener} {u : List Interaction} (h : Segment P e args l u) (hPQ : ∀ v, P v → Q v) :
    Segment Q e args l u := by
  cases h with
  | bound w i u hb hi hu => exact .bound w i u hb hi (hPQ u hu)
  | leased w i u hb hi hu => exact .leased w i u hb hi (hPQ u hu)
  | refused hb => exact .refused hb

theorem Asks.bracketed {loose : Interaction → Prop} {args : List Value} {l : Listener}
    {w : Worker} {i : Interaction} (h : Asks args l w i) : Bracketed loose [i] := by
  cases h with
  | invoked _ => exact .invoked w l.target args
  | submitted taken _ => exact .submitted w l.target args taken

theorem Segment.bracketed {loose : Interaction → Prop} {e : EngineId} {args : List Value}
    {l : Listener} {u : List Interaction} (h : Segment (Bracketed loose) e args l u) :
    Bracketed loose u := by
  cases h with
  | bound w i u _ hi hu => exact .cons hi.bracketed hu
  | leased w i u _ hi hu => exact .leased e w (.cons hi.bracketed hu)
  | refused _ => exact .refused e

/-- The ending of a dispatch that decides an emission is no worse than the emission. -/
theorem Stops.ne_stuck {event : String} {d : Delivery} {out : Exit InvocationError Unit}
    (h : Stops event d out) (hl : out.Leaves) : ∀ h', d.ending ≠ .stuck h' := by
  cases h with
  | unhosted | failed | panicked => simp
  | stuck l h' _ => exact absurd hl (Exit.not_leaves_halt h')

namespace Host

/-- An engine and its workers note in a trace what they are asked for: whether a worker is granted,
that one is given back, and a request of a worker ahead of anything that it leads to. What it leads
to satisfies `P`, if control comes back. -/
structure Notes {σ : Type} (h : Host σ) (trace : σ → List Interaction) (e : EngineId)
    (P : List Interaction → Prop) : Prop where
  granted : ∀ s w s', h.acquire s = (.ok w, s') → trace s' = trace s ++ [.acquired e w]
  refused : ∀ s c s', h.acquire s = (.error c, s') → trace s' = trace s ++ [.refused e]
  release : ∀ w s, trace (h.release w s) = trace s ++ [.released e w]
  invoke : ∀ w t args s out s', h.invoke w t args s = (out, s') → out.Leaves →
    Adds P (trace s ++ [.invoked w t args]) (trace s')
  submit : ∀ w t args s queued s', h.submit w t args s = (queued, s') →
    ∃ taken, Adds P (trace s ++ [.submitted w t args taken]) (trace s')
  warn : ∀ w s, trace (h.warn w s) = trace s

section

variable {σ : Type} {h : Host σ} {trace : σ → List Interaction} {e : EngineId}
  {P : List Interaction → Prop} {event : String} {args : List Value} {s s' : σ}

/-- A worker that serves a listener is asked once, and what runs then comes after it. -/
theorem ServedBy.adds (hh : h.Notes trace e P) {l : Listener} {w : Worker} {ending : Ending}
    (hs : h.ServedBy event args l w s ending s') (hleft : ∀ h, ending ≠ .stuck h) :
    ∃ i, Asks args l w i ∧ Adds P (trace s ++ [i]) (trace s') := by
  cases hs with
  | invoked out s' hm hi =>
    refine ⟨_, .invoked hm, hh.invoke w l.target args s out s' hi ?_⟩
    rintro reason rfl
    exact hleft reason rfl
  | queued s' hm hi =>
    obtain ⟨taken, hadds⟩ := hh.submit w l.target args s _ s' hi
    exact ⟨_, .submitted taken hm, hadds⟩
  | dropped c s' hm hi =>
    obtain ⟨taken, hadds⟩ := hh.submit w l.target args s _ s' hi
    exact ⟨_, .submitted taken hm, hh.warn _ s' ▸ hadds⟩

/-- A dispatch that control leaves is one segment of the trace. -/
theorem Delivered.segment (hh : h.Notes trace e P) {l : Listener} {ending : Ending}
    (hd : h.Delivered event args l s ending s') (hleft : ∀ h, ending ≠ .stuck h) :
    ∃ u, Segment P e args l u ∧ trace s' = trace s ++ u := by
  cases hd with
  | bound w _ s' hb hs =>
    obtain ⟨i, hi, u, ht, hu⟩ := hs.adds hh hleft
    exact ⟨i :: u, .bound w i u hb hi hu, by simp [ht]⟩
  | leased w s₁ _ s₂ hb ha hs _ =>
    obtain ⟨i, hi, u, ht, hu⟩ := hs.adds hh hleft
    refine ⟨_, .leased w i u hb hi hu, ?_⟩
    rw [hh.release w s₂, ht, hh.granted s w s₁ ha]
    simp
  | stuck w s₁ reason s₂ hb ha hs => exact absurd rfl (hleft reason)
  | refused c s₁ hb hm ha => exact ⟨_, .refused hb, hh.refused s c _ ha⟩
  | skipped c s₁ hb hm ha =>
    exact ⟨_, .refused hb, (hh.warn _ s₁).trans (hh.refused s c s₁ ha)⟩

/-- Dispatches one after the other leave their segments one after the other. -/
theorem Deliveries.segments (hh : h.Notes trace e P) {ds : List Delivery}
    (hds : h.Deliveries event args s ds s') (hleft : ∀ d ∈ ds, ∀ h, d.ending ≠ .stuck h) :
    ∃ us, List.Forall₂ (Segment P e args) (ds.map Delivery.listener) us ∧
      trace s' = trace s ++ us.flatten := by
  induction hds with
  | none s => exact ⟨[], .nil, by simp⟩
  | next s d s₁ ds s₂ hd _ ih =>
    obtain ⟨hd', hds'⟩ := List.forall_mem_cons.mp hleft
    obtain ⟨u, hu, ht⟩ := hd.segment hh hd'
    obtain ⟨us, hus, ht'⟩ := ih hds'
    exact ⟨u :: us, .cons hu hus, by simp [ht', ht]⟩

/-- An emission that control leaves has no dispatch that it does not leave. -/
theorem Emitted.ne_stuck {snapshot : List Listener} {out : Exit InvocationError Unit × σ}
    {ds : List Delivery}
    (hds : h.Emitted event args snapshot s out ds) (hl : out.1.Leaves) :
    ∀ d ∈ ds, ∀ reason, d.ending ≠ .stuck reason := by
  intro d hd
  by_cases hok : out.1 = .ok ()
  · exact ((hds.complete hok).2 d hd).ne_stuck
  · obtain ⟨earlier, last, rfl, hpass, -, hstop⟩ := hds.decided hok
    rcases List.mem_append.mp hd with hd | hd
    · exact (hpass d hd).ne_stuck
    · exact List.mem_singleton.mp hd ▸ hstop.ne_stuck hl

/-- An emission that control leaves has left a segment for each listener that it dispatched. -/
theorem emit_segments (hh : h.Notes trace e P) (listeners : σ → List Listener) (event : String)
    (args : List Value) (s : σ) (hl : (h.emit listeners event args s).1.Leaves) :
    ∃ ls us, ls <+: listeners s ∧ List.Forall₂ (Segment P e args) ls us ∧
      trace (h.emit listeners event args s).2 = trace s ++ us.flatten ∧
      ((h.emit listeners event args s).1 = .ok () → ls = listeners s) := by
  obtain ⟨ds, hds⟩ := h.emitTo_emitted event args (listeners s) s
  obtain ⟨us, hus, ht⟩ := hds.dispatched.segments hh (hds.ne_stuck hl)
  exact ⟨_, us, hds.listeners, hus, ht, fun hok => (hds.complete hok).1⟩

end

end Host

namespace Relay

variable {P : List Interaction → Prop} [Composable P] {x : Runner}

/-- The engines of a relay note what they and their workers are asked for. -/
theorem host_notes (hx : x.Extends P) (e : EngineId) : (host x e).Notes Relay.trace e P where
  granted _ _ _ ha := acquire_trace_ok ha
  refused _ _ _ ha := acquire_trace_error ha
  release w s := release_trace s e w
  invoke w t args s out s' hi hleft := by
    have hadds := invoke_extends hx w t args s
    rw [show Relay.invoke x w t args s = (out, s') from hi] at hadds
    exact hadds hleft
  submit w t args s queued s' hi := by
    obtain ⟨taken, hadds⟩ := handOver_adds hx w t args s
    rw [show handOver x w t args s = (queued, s') from hi] at hadds
    exact ⟨taken, hadds⟩
  warn w s := warn_trace s w

theorem emit_segments (hx : x.Extends P) (a : AdapterId) (event : String)
    (args : List Value) (s : Relay) (hl : (emit x a event args s).1.Leaves) :
    ∃ ls us, ls <+: (s.adapter a).listeners.find event ∧
      List.Forall₂ (Segment P (s.adapter a).engine args) ls us ∧
      (emit x a event args s).2.trace = s.trace ++ us.flatten ∧
      ((emit x a event args s).1 = .ok () → ls = (s.adapter a).listeners.find event) :=
  Host.emit_segments (host_notes (hx.keeping _) _) _ event args s hl

/-! ## Brackets -/

section

variable {loose : Interaction → Prop} {x : Runner}

theorem segments_bracketed {e : EngineId} {args : List Value} {ls : List Listener}
    {us : List (List Interaction)}
    (h : List.Forall₂ (Segment (Bracketed loose) e args) ls us) : Bracketed loose us.flatten := by
  induction h with
  | nil => exact .nil
  | cons hu _ ih => exact .append hu.bracketed ih

theorem dispatch_balances (hx : x.Balances loose) (e : EngineId) (event : String) (l : Listener)
    (args : List Value) (s : Relay) :
    Balances loose s.trace ((host x e).dispatch event l args s) := by
  intro hl
  obtain ⟨ending, hd, hout⟩ := (host x e).dispatch_delivered event args l s
  have hleft : ∀ h, ending ≠ .stuck h := by
    rcases hout with ⟨-, hp⟩ | hstop
    · exact hp.ne_stuck
    · exact hstop.ne_stuck hl
  obtain ⟨u, hu, ht⟩ := hd.segment (host_notes hx e) hleft
  exact ⟨u, ht, hu.bracketed⟩

theorem emit_balances (hx : x.Balances loose) (a : AdapterId) (event : String)
    (args : List Value) (s : Relay) : Balances loose s.trace (emit x a event args s) := by
  intro hl
  obtain ⟨ls, us, -, hus, ht, -⟩ := emit_segments hx a event args s hl
  exact ⟨us.flatten, ht, segments_bracketed hus⟩

/-! ## Calls of methods -/

theorem forward_balances (hx : x.Balances loose) (a : AdapterId) (slot : Slot)
    (args : List Value) (s : Relay) : Balances loose s.trace (forward x a slot args s) := by
  unfold forward
  split
  · exact .of_trace_eq rfl
  · have h := emit_balances hx a slot.name args s
    generalize emit x a slot.name args s = out at h
    obtain ⟨exit, s'⟩ := out
    cases exit with
    | halt h' => exact .of_halt h' s'
    | ok | error | panic => exact fun _ => h (by simp)

theorem call_balances (hx : x.Balances loose) (a : AdapterId) (method : String)
    (args : List Value) (s : Relay) : Balances loose s.trace (call x a method args s) := by
  unfold call
  split
  · exact forward_balances hx a _ args s
  · exact .of_trace_eq rfl

theorem callSlot_balances (hx : x.Balances loose) (a : AdapterId) (index : Nat)
    (args : List Value) (s : Relay) : Balances loose s.trace (callSlot x a index args s) := by
  unfold callSlot
  split
  · exact forward_balances hx a _ args s
  · exact .of_trace_eq rfl

theorem callDeclared_balances (hx : x.Balances loose) (a : AdapterId) (index : Nat)
    (m : Interface.DeclaredMethod) (args : List Value) (s : Relay) :
    Balances loose s.trace (callDeclared x a index m args s) := by
  have h := callSlot_balances hx a index (List.zipWith convertArgument m.params args) s
  unfold callDeclared
  generalize callSlot x a index (List.zipWith convertArgument m.params args) s = out at h
  obtain ⟨exit, s'⟩ := out
  cases exit with
  | halt h' => exact .of_halt h' s'
  | error | panic => exact fun _ => h (by simp)
  | ok v =>
    dsimp only
    split <;> exact fun _ => h (by simp)

end

end Relay

end EventRelay
