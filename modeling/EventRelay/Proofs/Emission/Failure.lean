import EventRelay.Proofs.Emission.Snapshot
import EventRelay.Proofs.Host.Running

/-!
# EventRelay.Proofs.Emission.Failure

What an emission can fail with.

* `emit_error`: an error is that of a listener of this very event, or that there was no worker.
* `emit_panic`: what unwinds through an emission was raised by a call of a function.
-/

namespace EventRelay

/-- An emission that is decided by an error names a listener of its event, or a worker. -/
theorem Stops.error {event : String} {d : Delivery} {out : Exit InvocationError Unit}
    (h : Stops event d out) {e : InvocationError} (he : out = .error e) :
    ∃ c, e = .listener event c ∨ e = .worker c := by
  cases h with
  | unhosted l c _ => cases he; exact ⟨c, .inr rfl⟩
  | failed l c _ => cases he; exact ⟨c, .inl rfl⟩
  | panicked => cases he
  | stuck => cases he

open Relay

section

variable {x : Runner} {e : EngineId} {event : String} {args : List Value} {p : Panic}
  {s s' : Relay}

theorem Host.ServedBy.raises {l : Listener} {w : Worker}
    (h : (host x e).ServedBy event args l w s (.panicked p) s') : x.Raises p := by
  generalize hending : Ending.panicked p = ending at h
  cases h with
  | invoked out s' hm hi =>
    obtain rfl : out = .panic p := by cases out <;> cases hending; rfl
    exact invoke_panic (congrArg Prod.fst hi)
  | queued | dropped => cases hending

theorem Host.Delivered.raises {l : Listener}
    (h : (host x e).Delivered event args l s (.panicked p) s') : x.Raises p := by
  cases h with
  | bound w _ s' hb hs => exact hs.raises
  | leased w s₁ _ s₂ hb ha hs _ => exact hs.raises

/-- Every listener that was dispatched was dispatched from some state. -/
theorem Host.Deliveries.delivered {σ : Type} {h : Host σ} {ds : List Delivery} {s s' : σ}
    (hds : h.Deliveries event args s ds s') {d : Delivery} (hd : d ∈ ds) :
    ∃ s₁ s₂, h.Delivered event args d.listener s₁ d.ending s₂ := by
  induction hds with
  | none => cases hd
  | next s d' s₁ ds s₂ hd' _ ih =>
    rcases List.mem_cons.mp hd with rfl | hd
    · exact ⟨s, s₁, hd'⟩
    · exact ih hd

end

namespace Relay

variable {x : Runner} {a : AdapterId} {event : String} {args : List Value} {s : Relay}

/-! ## Emissions -/

/-- An emission that does not end well ends with what its last dispatch ended with. -/
theorem emit_stops (x : Runner) (a : AdapterId) (event : String) (args : List Value) (s : Relay)
    (h : (emit x a event args s).1 ≠ .ok ()) :
    ∃ d s₁ s₂, (host (emitting x a event ((s.adapter a).listeners.find event))
      (s.adapter a).engine).Delivered event args d.listener s₁ d.ending s₂ ∧
      Stops event d (emit x a event args s).1 := by
  obtain ⟨ds, hds⟩ := emit_emitted x a event args s
  obtain ⟨earlier, last, rfl, -, -, hstop⟩ := hds.decided h
  obtain ⟨s₁, s₂, hd⟩ :=
    hds.dispatched.delivered (List.mem_append_right _ (List.mem_singleton_self last))
  exact ⟨last, s₁, s₂, hd, hstop⟩

theorem emit_error {e : InvocationError} (h : (emit x a event args s).1 = .error e) :
    ∃ c, e = .listener event c ∨ e = .worker c := by
  obtain ⟨d, s₁, s₂, -, hstop⟩ := emit_stops x a event args s (by simp [h])
  exact hstop.error h

theorem emit_panic {p : Panic} (h : (emit x a event args s).1 = .panic p) : x.Raises p := by
  obtain ⟨d, s₁, s₂, hd, hstop⟩ := emit_stops x a event args s (by simp [h])
  rw [h] at hstop
  cases hstop with
  | panicked l p hm => exact hd.raises

end Relay

end EventRelay
