import EventRelay.Adapter.Call

/-!
# EventRelay.Proofs.Trace

How the trace of a run grows.

* `Adds P`: a trace that grew by interactions that satisfy `P`. `Extends P`: code whose trace did,
  if control leaves it. `Composable`: the `P` that allow for one piece of code after the other.
* `Called`: interactions that calls of functions and other threads caused, and nothing else.
* `Bracketed loose`: interactions in which every acquisition is closed by a release of the same
  worker to the same engine, apart from `loose` ones that stand alone. `Bracketed.count_eq` counts
  them.
* The lemmas named `…_trace` say which updates of the state leave the trace alone.
-/

namespace EventRelay

namespace Interaction

/-- Whether an engine hands out a worker here. -/
def grants (e : EngineId) (w : Worker) : Interaction → Bool
  | acquired e' w' => e' == e && w' == w
  | _ => false

/-- Whether a worker is given back to an engine here. -/
def returns (e : EngineId) (w : Worker) : Interaction → Bool
  | released e' w' => e' == e && w' == w
  | _ => false

/-- Whether a worker changes hands here. -/
def movesWorker : Interaction → Bool
  | acquired _ _ => true
  | released _ _ => true
  | _ => false

end Interaction

/-! ## Traces that grow -/

/-- Interactions of which some may follow others. -/
class Composable (P : List Interaction → Prop) : Prop where
  nil : P []
  append {u v : List Interaction} : P u → P v → P (u ++ v)

/-- The trace grew by interactions that satisfy `P`. -/
def Adds (P : List Interaction → Prop) (t t' : List Interaction) : Prop :=
  ∃ u, t' = t ++ u ∧ P u

namespace Adds

variable {P : List Interaction → Prop} [Composable P]

theorem refl (t : List Interaction) : Adds P t t := ⟨[], by simp, Composable.nil⟩

theorem trans {t t₁ t₂ : List Interaction} (h₁ : Adds P t t₁) (h₂ : Adds P t₁ t₂) :
    Adds P t t₂ := by
  obtain ⟨u, rfl, hu⟩ := h₁
  obtain ⟨v, rfl, hv⟩ := h₂
  exact ⟨u ++ v, List.append_assoc .., Composable.append hu hv⟩

end Adds

/-- Control leaves. -/
def Exit.Leaves {ε α : Type} (exit : Exit ε α) : Prop := ∀ h, exit ≠ .halt h

namespace Exit

variable {ε ε' α β : Type}

@[simp] theorem leaves_ok (a : α) : (ok a : Exit ε α).Leaves := nofun

@[simp] theorem leaves_error (c : ε) : (error c : Exit ε α).Leaves := nofun

@[simp] theorem leaves_panic (p : Panic) : (panic p : Exit ε α).Leaves := nofun

@[simp] theorem not_leaves_halt (h : Halt) : ¬ (halt h : Exit ε α).Leaves := fun h' => h' h rfl

@[simp] theorem leaves_map (f : α → β) (exit : Exit ε α) : (exit.map f).Leaves ↔ exit.Leaves := by
  cases exit <;> simp [map]

@[simp] theorem leaves_mapError (f : ε → ε') (exit : Exit ε α) :
    (exit.mapError f).Leaves ↔ exit.Leaves := by
  cases exit <;> simp [mapError]

end Exit

/-- Code that was entered with a trace and, if control leaves it, has added to it what satisfies
`P`. -/
def Extends {ε α : Type} (P : List Interaction → Prop) (t : List Interaction)
    (out : Exit ε α × Relay) : Prop :=
  out.1.Leaves → Adds P t out.2.trace

namespace Extends

variable {ε α : Type} {P : List Interaction → Prop} {t t₁ : List Interaction}
  {out : Exit ε α × Relay}

theorem of_trace_eq [Composable P] (h : out.2.trace = t) : Extends P t out :=
  fun _ => h ▸ .refl _

theorem of_adds [Composable P] (h : Adds P t t₁) (hout : Extends P t₁ out) : Extends P t out :=
  fun hl => h.trans (hout hl)

/-- Control that does not leave owes nothing. -/
theorem of_halt (h : Halt) (s : Relay) : Extends P t ((.halt h, s) : Exit ε α × Relay) :=
  fun hl => absurd hl (Exit.not_leaves_halt h)

end Extends

/-- Every call adds to the trace what satisfies `P`, if control leaves it. -/
def Caller.Extends (P : List Interaction → Prop) (call : Caller) : Prop :=
  ∀ f args s, EventRelay.Extends P s.trace (call f args s)

namespace Runner

/-- So do calls of a thread, and other threads add nothing else. -/
structure Extends (P : List Interaction → Prop) (x : Runner) : Prop where
  call : x.call.Extends P
  others : ∀ keeps s, Adds P s.trace (x.others keeps s).trace

theorem Extends.keeping {P : List Interaction → Prop} {x : Runner} (hx : x.Extends P)
    (held : Keeps) : (x.keeping held).Extends P :=
  ⟨hx.call, hx.others⟩

/-- Nothing takes anything back from the trace. -/
def Grows (x : Runner) : Prop := x.Extends fun _ => True

theorem Extends.grows {P : List Interaction → Prop} {x : Runner} (hx : x.Extends P) : x.Grows where
  call f args s hl := by
    obtain ⟨u, hu, -⟩ := hx.call f args s hl
    exact ⟨u, hu, trivial⟩
  others keeps s := by
    obtain ⟨u, hu, -⟩ := hx.others keeps s
    exact ⟨u, hu, trivial⟩

end Runner

/-- What calls of functions and other threads added to the trace, one after the other. -/
inductive Called (x : Runner) : List Interaction → Prop where
  | nil : Called x []
  | append {u v : List Interaction} : Called x u → Called x v → Called x (u ++ v)
  | call (f : Function) (args : List Value) (s : Relay) (u : List Interaction) :
      (x.call f args s).1.Leaves → (x.call f args s).2.trace = s.trace ++ u → Called x u
  | others (keeps : Keeps) (s : Relay) (u : List Interaction) :
      (x.others keeps s).trace = s.trace ++ u → Called x u

instance (x : Runner) : Composable (Called x) := ⟨.nil, .append⟩

theorem Runner.Grows.called {x : Runner} (hx : x.Grows) : x.Extends (Called x) where
  call f args s hl := by
    obtain ⟨u, hu, -⟩ := hx.call f args s hl
    exact ⟨u, hu, .call f args s u hl hu⟩
  others keeps s := by
    obtain ⟨u, hu, -⟩ := hx.others keeps s
    exact ⟨u, hu, .others keeps s u hu⟩

/-- What was added satisfies whatever every single call and other thread adds. -/
theorem Called.of_extends {x : Runner} {P : List Interaction → Prop} [Composable P]
    (hx : x.Extends P) {u : List Interaction} (h : Called x u) : P u := by
  induction h with
  | nil => exact Composable.nil
  | append _ _ ihu ihv => exact Composable.append ihu ihv
  | call f args s u hl hu =>
    obtain ⟨v, hv, hP⟩ := hx.call f args s hl
    exact List.append_cancel_left (hu.symm.trans hv) ▸ hP
  | others keeps s u hu =>
    obtain ⟨v, hv, hP⟩ := hx.others keeps s
    exact List.append_cancel_left (hu.symm.trans hv) ▸ hP

/-! ## Brackets -/

section

open Interaction

variable {loose : Interaction → Prop}

/-- Every acquisition is closed by a release of the same worker to the same engine, and what
happens in between is bracketed itself. Only `loose` interactions stand outside of this. -/
inductive Bracketed (loose : Interaction → Prop) : List Interaction → Prop where
  | nil : Bracketed loose []
  | append {u v : List Interaction} :
      Bracketed loose u → Bracketed loose v → Bracketed loose (u ++ v)
  | refused (e : EngineId) : Bracketed loose [.refused e]
  | invoked (w : Worker) (t : Target) (args : List Value) : Bracketed loose [.invoked w t args]
  | submitted (w : Worker) (t : Target) (args : List Value) (taken : Bool) :
      Bracketed loose [.submitted w t args taken]
  | leased (e : EngineId) (w : Worker) {u : List Interaction} :
      Bracketed loose u → Bracketed loose (.acquired e w :: (u ++ [.released e w]))
  | loose {i : Interaction} : loose i → Bracketed loose [i]

namespace Bracketed

theorem cons {i : Interaction} {u : List Interaction} (h : Bracketed loose [i])
    (hu : Bracketed loose u) : Bracketed loose (i :: u) :=
  .append h hu

/-- Acquisitions and releases of a worker balance, up to those among the loose interactions. -/
theorem balance {u : List Interaction} (h : Bracketed loose u) :
    ∃ alone : List Interaction, alone.Sublist u ∧ (∀ i ∈ alone, loose i) ∧
      ∀ e w, u.countP (grants e w) + alone.countP (returns e w) =
        u.countP (returns e w) + alone.countP (grants e w) := by
  induction h with
  | nil => exact ⟨[], .slnil, by simp, by simp⟩
  | @append u v _ _ ihu ihv =>
    obtain ⟨a, hau, hla, hca⟩ := ihu
    obtain ⟨b, hbv, hlb, hcb⟩ := ihv
    refine ⟨a ++ b, hau.append hbv, ?_, fun e w => ?_⟩
    · rintro i hi
      rcases List.mem_append.mp hi with hi | hi
      · exact hla i hi
      · exact hlb i hi
    · have := hca e w
      have := hcb e w
      simp only [List.countP_append]
      omega
  | refused | invoked | submitted =>
    exact ⟨[], List.nil_sublist _, by simp, by simp [grants, returns]⟩
  | @leased e w u _ ih =>
    obtain ⟨a, hau, hla, hca⟩ := ih
    refine ⟨a, .cons _ (hau.trans (List.sublist_append_left u _)), hla, fun e' w' => ?_⟩
    have := hca e' w'
    have hopen : returns e' w' (.acquired e w) = false := rfl
    have hclose : grants e' w' (.released e w) = false := rfl
    have hpair : returns e' w' (.released e w) = grants e' w' (.acquired e w) := rfl
    simp only [List.countP_cons, List.countP_append, List.countP_nil, hopen, hclose, hpair,
      Bool.false_eq_true, if_false]
    omega
  | @loose i hi => exact ⟨[i], .refl _, by simpa using hi, fun e w => Nat.add_comm _ _⟩

/-- Without loose moves of workers, each is released as often as it is acquired. -/
theorem count_eq {u : List Interaction} (h : Bracketed loose u)
    (hloose : ∀ i, loose i → i.movesWorker = false) (e : EngineId) (w : Worker) :
    u.countP (grants e w) = u.countP (returns e w) := by
  obtain ⟨alone, -, halone, hc⟩ := h.balance
  have hg : alone.countP (grants e w) = 0 :=
    List.countP_eq_zero.mpr fun i hi => by
      have := hloose i (halone i hi)
      cases i <;> simp_all [movesWorker, grants]
  have hr : alone.countP (returns e w) = 0 :=
    List.countP_eq_zero.mpr fun i hi => by
      have := hloose i (halone i hi)
      cases i <;> simp_all [movesWorker, returns]
  have := hc e w
  omega

end Bracketed

instance (loose : Interaction → Prop) : Composable (Bracketed loose) := ⟨.nil, .append⟩

namespace Adds

theorem one {i : Interaction} (t : List Interaction) (h : Bracketed loose [i]) :
    Adds (Bracketed loose) t (t ++ [i]) := ⟨[i], rfl, h⟩

/-- What happens between an acquisition and its release is enclosed by the two. -/
theorem leased {e : EngineId} {w : Worker} {t t' : List Interaction}
    (h : Adds (Bracketed loose) (t ++ [.acquired e w]) t') :
    Adds (Bracketed loose) t (t' ++ [.released e w]) := by
  obtain ⟨u, rfl, hu⟩ := h
  exact ⟨.acquired e w :: (u ++ [.released e w]), by simp, .leased e w hu⟩

end Adds

end

/-- Code that adds brackets to the trace, if control leaves it. -/
abbrev Balances {ε α : Type} (loose : Interaction → Prop) (t : List Interaction)
    (out : Exit ε α × Relay) : Prop :=
  Extends (Bracketed loose) t out

/-- Every call and all other threads add brackets to the trace. -/
abbrev Runner.Balances (loose : Interaction → Prop) (x : Runner) : Prop :=
  x.Extends (Bracketed loose)

namespace Relay

/-! ## Updates that leave the trace alone -/

@[simp] theorem putEngine_trace (s : Relay) (e : EngineId) (engine : Engine) :
    (s.putEngine e engine).trace = s.trace := rfl

@[simp] theorem putKind_trace (s : Relay) (e : EngineId) (kind : EngineKind) :
    (s.putKind e kind).trace = s.trace := rfl

@[simp] theorem putAdapter_trace (s : Relay) (a : AdapterId) (adapter : Adapter) :
    (s.putAdapter a adapter).trace = s.trace := rfl

@[simp] theorem putListeners_trace (s : Relay) (a : AdapterId) (listeners : Registry) :
    (s.putListeners a listeners).trace = s.trace := rfl

@[simp] theorem putRegistry_trace (s : Relay) (r : Nat) (registry : Registry) :
    (s.putRegistry r registry).trace = s.trace := rfl

@[simp] theorem note_trace (s : Relay) (i : Interaction) :
    (s.note i).trace = s.trace ++ [i] := rfl

@[simp] theorem warn_trace (s : Relay) (w : Warning) : (s.warn w).trace = s.trace := rfl

@[simp] theorem record_trace (s : Relay) (call : List Value) :
    (s.record call).trace = s.trace := rfl

@[simp] theorem take_trace (s : Relay) (e : EngineId) : (s.take e).2.trace = s.trace := by
  unfold take
  split <;> rfl

@[simp] theorem giveBack_trace (s : Relay) (e : EngineId) (n : Nat) :
    (s.giveBack e n).trace = s.trace := by
  unfold giveBack
  split
  · rfl
  · split <;> rfl

@[simp] theorem release_trace (s : Relay) (e : EngineId) (w : Worker) :
    (s.release e w).trace = s.trace ++ [.released e w] := by
  simp [release]

@[simp] theorem finish_trace (s : Relay) (job : Job) (failed : Bool) :
    (s.finish job failed).trace = s.trace := by
  unfold finish
  split <;> rfl

@[simp] theorem setCurrent_trace (s : Relay) (e : EngineId) (current : Option Nat) :
    (s.setCurrent e current).trace = s.trace := by
  unfold setCurrent
  split <;> rfl

@[simp] theorem newWorker_trace (s : Relay) (e : EngineId) : (s.newWorker e).2.trace = s.trace := by
  unfold newWorker
  split <;> rfl

@[simp] theorem closeUnused_trace (s : Relay) (e : EngineId) :
    (s.closeUnused e).trace = s.trace := by
  unfold closeUnused
  split
  · split <;> rfl
  · rfl

@[simp] theorem closeAllUnused_trace (s : Relay) : s.closeAllUnused.trace = s.trace := by
  unfold closeAllUnused
  induction List.range s.engines.size generalizing s with
  | nil => rfl
  | cons e es ih => rw [List.foldl_cons, ih, closeUnused_trace]

/-- A job that is taken was the first in the queue of an inline engine. -/
theorem nextJob?_eq_some {s s' : Relay} {e : EngineId} {job : Job}
    (h : s.nextJob? e = some (job, s')) :
    ∃ i rest, (s.engine e).kind = .inline i ∧ i.queue = job :: rest ∧
      s' = s.putKind e (.inline { i with queue := rest, begun := i.begun ++ [job] }) := by
  unfold nextJob? at h
  split at h
  · rename_i i hk
    split at h
    · cases h
    · rename_i hq
      cases h
      exact ⟨i, _, hk, hq, rfl⟩
  · cases h

theorem nextJob?_trace {s s' : Relay} {e : EngineId} {job : Job}
    (h : s.nextJob? e = some (job, s')) : s'.trace = s.trace := by
  obtain ⟨i, rest, -, -, rfl⟩ := nextJob?_eq_some h
  rfl

/-- A granted acquisition is noted, and a refused one as well. -/
theorem acquire_trace_ok {s s' : Relay} {e : EngineId} {w : Worker}
    (h : s.acquire e = (.ok w, s')) : s'.trace = s.trace ++ [.acquired e w] := by
  unfold acquire at h
  split at h
  · cases h
  · have ht := take_trace s e
    generalize s.take e = taken at h ht
    obtain ⟨_, s₁⟩ := taken
    cases h
    rw [note_trace, ht]

theorem acquire_trace_error {s s' : Relay} {e : EngineId} {c : Cause}
    (h : s.acquire e = (.error c, s')) : s'.trace = s.trace ++ [.refused e] := by
  unfold acquire at h
  split at h
  · cases h
    rfl
  · cases h

@[simp] theorem synthesize_trace (s : Relay) (d : Descriptor) :
    (s.synthesize d).2.trace = s.trace := rfl

@[simp] theorem addAdapter_trace (s : Relay) (e : EngineId) (type : AdapterType) :
    (s.addAdapter e type).2.trace = s.trace := rfl

@[simp] theorem newAdapter_trace (s : Relay) (e : EngineId) (d : Descriptor) :
    (s.newAdapter e d).2.trace = s.trace := by
  unfold newAdapter
  have h := synthesize_trace s d
  generalize s.synthesize d = made at h
  obtain ⟨_ | type, s'⟩ := made
  · exact h
  · exact h

@[simp] theorem construct_trace (s : Relay) (e : EngineId) (args : List Value) :
    (s.construct e args).2.trace = s.trace := by
  unfold construct
  split <;> simp

@[simp] theorem newListener_trace (s : Relay) (e : EngineId) (v : Value) (mode : Mode) :
    (s.newListener e v mode).2.trace = s.trace := by
  unfold newListener
  split <;> rfl

@[simp] theorem listen_trace (s : Relay) (a : AdapterId) (event : String) (v : Value)
    (mode : Mode) : (s.listen a event v mode).2.trace = s.trace := by
  unfold Relay.listen
  have h := newListener_trace s (s.adapter a).engine v mode
  generalize s.newListener (s.adapter a).engine v mode = made at h
  obtain ⟨_ | l, s'⟩ := made
  · exact h
  · exact h

@[simp] theorem unlisten_trace (s : Relay) (a : AdapterId) (event : String) (handle : Nat) :
    (s.unlisten a event handle).trace = s.trace := rfl

@[simp] theorem unlistenValue_trace (s : Relay) (a : AdapterId) (event : String) (v : Value) :
    (s.unlistenValue a event v).trace = s.trace := rfl

@[simp] theorem unlistenAll_trace (s : Relay) (a : AdapterId) (event : String) :
    (s.unlistenAll a event).trace = s.trace := rfl

end Relay

end EventRelay
