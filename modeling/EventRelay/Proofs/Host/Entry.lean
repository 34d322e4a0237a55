import EventRelay.Proofs.Host.Reentry

/-!
# EventRelay.Proofs.Host.Entry

Where code starts that runs inside a worker.

* `Relay.entered`: the state in which the body of an entry starts, and `within_fst`, `invoke_fst`
  and their like: all ways into a worker start their body there.
* `Relay.currentWorker_pooled`: pooled engines take the worker on top of the stack for theirs.
* `Runs.currentWorker`: code that leaves has changed no current worker of a pooled engine.
* `entry_by_number`: which worker is current in the body is decided by numbers alone, so that
  `foreign_number_shadows` a worker by one of another engine.
-/

namespace EventRelay

/-- The worker that an engine takes for its current one inside an entered worker, if that can
still be handed out. -/
def Marker.worker? (m : Marker) (via : EngineId) : Option Worker :=
  if m.present then some ⟨m.home, m.number, via⟩ else none

namespace Relay

/-- Where code inside a worker starts: in the worker, which one of the same number on top of the
stack passes for. -/
def entered (s : Relay) (m : Marker) : Relay :=
  if s.stack.head?.map Marker.number = some m.number then s else { s with stack := m :: s.stack }

section

variable {s s' : Relay} {e : EngineId} {p : PooledEngine} {m : Marker}

/-! ## The current worker of a pooled engine -/

theorem currentWorker_pooled (h : (s.engine e).kind = .pooled p) :
    s.currentWorker e = s.stack.head?.bind fun m => m.worker? e := by
  simp only [currentWorker, h]
  cases s.stack with
  | nil => rfl
  | cons m rest => rfl

theorem currentWorker_congr {p' : PooledEngine} (h : (s.engine e).kind = .pooled p)
    (h' : (s'.engine e).kind = .pooled p') (hstack : s'.stack = s.stack) :
    s'.currentWorker e = s.currentWorker e := by
  rw [currentWorker_pooled h, currentWorker_pooled h', hstack]

theorem Runs.currentWorker (hs : s.Runs none s') (h : (s.engine e).kind = .pooled p) :
    s'.currentWorker e = s.currentWorker e := by
  obtain ⟨t, ht⟩ := hs.path
  obtain ⟨p', hp'⟩ := ht.pooled ⟨p, h⟩
  exact currentWorker_congr h hp' (hs.stack rfl)

/-! ## Where the body starts -/

theorem entered_of_top (h : s.stack.head?.map Marker.number = some m.number) :
    s.entered m = s :=
  if_pos h

theorem entered_of_ne (h : s.stack.head?.map Marker.number ≠ some m.number) :
    s.entered m = { s with stack := m :: s.stack } :=
  if_neg h

@[simp] theorem entered_engine (s : Relay) (m : Marker) (e : EngineId) :
    (s.entered m).engine e = s.engine e := by
  unfold entered
  split <;> rfl

section

variable {ε α : Type} {x : Runner} {body : Relay → Exit ε α × Relay}

theorem within_fst (h : ¬ s.Waits m.home m.number) :
    (within m body s).1 = (body (s.entered m)).1 := by
  by_cases htop : s.stack.head?.map Marker.number = some m.number
  · rw [within_of_top htop, entered_of_top htop]
  · rw [(within_of_free htop h).1, entered_of_ne htop]

theorem enter_fst (hfree : ¬ s.Waits m.home m.number) :
    (enter x m body s).1 = (body (s.entered m)).1 := by
  rw [← within_fst hfree]
  unfold enter
  generalize within m body s = out
  obtain ⟨exit, s'⟩ := out
  cases exit <;> rfl

theorem invoke_fst (w : Worker) (t : Target) (args : List Value)
    (h : (s.engine w.home).kind = .pooled p) (hfree : ¬ s.Waits w.home w.number) :
    (invoke x w t args s).1 = (runTarget x.call w.home t args
      ((s.note (.invoked w t args)).entered ⟨w.home, w.number, true⟩)).1 := by
  have hnoted : ((s.note (.invoked w t args)).engine w.home).kind = .pooled p := h
  simp only [invoke, hnoted]
  exact enter_fst hfree

theorem inWorker_fst (h : (s.engine e).kind = .pooled p) (hfree : ¬ s.Waits e p.pool.acquire.1) :
    (inWorker x e body s).2.1 =
      (body ((s.take e).2.entered ⟨e, p.pool.acquire.1, true⟩)).1 := by
  have htake := take_pooled h
  have hfree' : ¬ (s.take e).2.Waits e p.pool.acquire.1 := by rwa [Waits, take_stack]
  have henter : (enter x ⟨e, p.pool.acquire.1, true⟩ body (s.take e).2).1 = _ := enter_fst hfree'
  simp only [inWorker, h, inPooled]
  rw [htake] at henter ⊢
  dsimp only at henter ⊢
  rw [← henter]
  generalize enter x _ body _ = out
  obtain ⟨exit, s'⟩ := out
  cases exit <;> rfl

theorem settle_of_inside (hs : s.stack ≠ []) (call : Caller) (bound : Nat) (keeps : Keeps) :
    settle call bound keeps s = s := by
  have hne : s.stack.isEmpty = false := by simpa using hs
  simp [settle, hne]

end

/-! ## The current worker inside a worker -/

/-- In a worker that was entered anew, the engine has that worker for its current one. -/
theorem entered_currentWorker_of_ne (h : (s.engine e).kind = .pooled p)
    (htop : s.stack.head?.map Marker.number ≠ some m.number) :
    (s.entered m).currentWorker e = m.worker? e := by
  have h' : ((s.entered m).engine e).kind = .pooled p := by rw [entered_engine, h]
  rw [currentWorker_pooled h', entered_of_ne htop]
  rfl

/-- In a worker that passes for the one entered last, nothing changes. -/
theorem entered_currentWorker_of_top (h : (s.engine e).kind = .pooled p) {top : Marker}
    (htop : s.stack.head? = some top) (hnumber : top.number = m.number) :
    (s.entered m).currentWorker e = top.worker? e := by
  have hsame : s.stack.head?.map Marker.number = some m.number := by
    rw [htop, ← hnumber]
    rfl
  rw [entered_of_top hsame, currentWorker_pooled h, htop]
  rfl

end

/-! ## Numbers decide -/

/-- Inside a worker `v`, entering a worker `m` makes it the current one exactly if the two differ
in number: then all pooled engines have `m` for their current worker in the body, and functions
are bound to it. With equal numbers the body runs as if it were code of `v`, also if the workers
belong to different engines. This holds for every way into a worker, up to the end of the body, and
the jobs that wait do not come in between. -/
theorem entry_by_number (v m : Marker) (below : List Marker) (s : Relay)
    (hs : s.stack = v :: below) :
    let top := if m.number = v.number then v else m
    (s.entered m).stack = (if m.number = v.number then s.stack else m :: s.stack) ∧
    (∀ e p s' f, (s.engine e).kind = .pooled p → (s.entered m).Runs none s' →
      s'.currentWorker e = top.worker? e ∧
        s'.bindingOf e (.function f) = ((top.worker? e).map Binding.bound).getD .lazy) ∧
    (∀ (ε α : Type) (body : Relay → Exit ε α × Relay), ¬ s.Waits m.home m.number →
      (within m body s).1 = (body (s.entered m)).1) ∧
    (∀ x w t args p, (s.engine w.home).kind = .pooled p → ¬ s.Waits w.home w.number →
      (invoke x w t args s).1 = (runTarget x.call w.home t args
        ((s.note (.invoked w t args)).entered ⟨w.home, w.number, true⟩)).1) ∧
    (∀ (ε α : Type) x (body : Relay → Exit ε α × Relay) e p, (s.engine e).kind = .pooled p →
      ¬ s.Waits e p.pool.acquire.1 →
      (inWorker x e body s).2.1 =
        (body ((s.take e).2.entered ⟨e, p.pool.acquire.1, true⟩)).1) ∧
    ∀ call bound keeps, settle call bound keeps s = s := by
  have hne : s.stack ≠ [] := by simp [hs]
  have htop : s.stack.head? = some v := by simp [hs]
  have hnumber : s.stack.head?.map Marker.number = some m.number ↔ m.number = v.number := by
    simp [htop, eq_comm]
  refine ⟨?_, ?_, ?_, ?_, ?_, settle_of_inside hne⟩
  · by_cases h : m.number = v.number
    · rw [if_pos h, entered_of_top (hnumber.mpr h)]
    · rw [if_neg h, entered_of_ne (mt hnumber.mp h)]
  · intro e p s' f hp hruns
    have hp' : ((s.entered m).engine e).kind = .pooled p := by rw [entered_engine, hp]
    have hcurrent : s'.currentWorker e =
        (if m.number = v.number then v else m).worker? e := by
      rw [hruns.currentWorker hp']
      by_cases h : m.number = v.number
      · rw [if_pos h]
        exact entered_currentWorker_of_top hp htop h.symm
      · rw [if_neg h]
        exact entered_currentWorker_of_ne hp (mt hnumber.mp h)
    refine ⟨hcurrent, ?_⟩
    simp only [bindingOf, hcurrent]
    split <;> simp [*]
  · intro ε α body hfree
    exact within_fst hfree
  · intro x w t args p hp hfree
    exact invoke_fst w t args hp hfree
  · intro ε α x body e p hp hfree
    exact inWorker_fst hp hfree

/-- Two engines, and an adapter on the second one. -/
def twoEngines : List Script.Step :=
  [.startEngine "e" (.pooled ⟨.owning, none, none, none, none⟩),
    .startEngine "f" (.pooled ⟨.owning, none, none, none, none⟩),
    .newAdapter "a" "f" ⟨.interface, "L", []⟩]

/-- Inside the first worker of the first engine, the first worker of the second one is not entered,
but its second one would be. -/
theorem entry_by_number_foreign :
    ∃ s : Relay, s.stack = [⟨0, 1, true⟩] ∧
      (s.entered ⟨1, 1, true⟩).currentWorker 1 = some ⟨0, 1, 1⟩ ∧
      (s.entered ⟨1, 1, true⟩).bindingOf 1 (.function (Function.anonymous "log")) =
        .bound ⟨0, 1, 1⟩ ∧
      (s.entered ⟨1, 2, true⟩).currentWorker 1 = some ⟨1, 2, 1⟩ ∧
      (s.entered ⟨1, 2, true⟩).stack = [⟨1, 2, true⟩, ⟨0, 1, true⟩] := by
  obtain ⟨s, hs⟩ : ∃ s : Relay, s =
      { (Script.runSteps (Script.runner [] 1) twoEngines Script.start).2 with
        stack := [⟨0, 1, true⟩] } := ⟨_, rfl⟩
  have hstack : s.stack = [⟨0, 1, true⟩] := by rw [hs]
  obtain ⟨p, hp⟩ : ∃ p, (s.engine 1).kind = .pooled p := by
    rw [← isSome_poolOf, hs]
    decide +kernel
  obtain ⟨-, hsame, -⟩ := entry_by_number ⟨0, 1, true⟩ ⟨1, 1, true⟩ [] s hstack
  obtain ⟨hother, hcurrent, -⟩ := entry_by_number ⟨0, 1, true⟩ ⟨1, 2, true⟩ [] s hstack
  obtain ⟨hsame, hbound⟩ := hsame 1 p _ (Function.anonymous "log") hp (.refl _)
  obtain ⟨hcurrent, -⟩ := hcurrent 1 p _ (Function.anonymous "log") hp (.refl _)
  rw [hstack] at hother
  exact ⟨s, hstack, hsame, hbound, hcurrent, hother⟩

/-- A listener is registered in the first worker of the second engine, which is entered from inside
the first worker of the first engine, and runs once. -/
def foreignNumber : List Script.Step := twoEngines ++
  [.inWorker "e" [.inWorker "f"
    [.listen "a" "t" .async (.function (Function.anonymous "log")) none]], .emit "a" "t" []]

/-- The listener is bound to the worker of the first engine, where its job runs. -/
theorem foreign_number_shadows :
    let s := (Script.runSteps (Script.runner [] 1) foreignNumber Script.start).2
    ((s.adapter 0).listeners.find "t").map Listener.binding = [.bound ⟨0, 1, 1⟩] ∧
      (s.finishedOf 0).map (fun ended => ended.1.target) =
        [.function (Function.anonymous "log")] ∧
      (s.finishedOf 1).map (fun ended => ended.1.target) = [] := by
  decide +kernel

end Relay
end EventRelay
