import EventRelay.Proofs.Host.Pool

/-!
# EventRelay.Proofs.Host.Lending

Leases of pooled workers one after the other.

* `Pool.lend`, `Pool.lends`: the workers that are leased, and the pool afterwards.
* `lends_of_room`: a pool that keeps idle workers gives out the same one each time.
* `lends_of_full`: a pool that keeps none gives out a new one each time.
-/

namespace EventRelay
namespace Pool

/-- The pool after some leases that left its workers as they were. -/
def counted (p : Pool) (k : Nat) : Pool :=
  { p with acquired := p.acquired + k, released := p.released + k }

/-- The worker of a lease, and the pool after it. -/
def lend (p : Pool) : Nat × Pool :=
  (p.acquire.1, (p.acquire.2.release p.acquire.1).getD p.acquire.2)

/-- The workers of some leases one after the other, and the pool after them. -/
def lends : Nat → Pool → List Nat × Pool
  | 0, p => ([], p)
  | k + 1, p => (p.lend.1 :: (lends k p.lend.2).1, (lends k p.lend.2).2)

/-- A pool that keeps idle workers, after some leases: they used one worker, which is idle again. -/
structure Reused (k : Nat) (p p' : Pool) : Prop where
  maxIdle : p'.maxIdle = p.maxIdle
  idle : p'.idle = if p.idle = [] ∧ 0 < k then [p.created + 1] else p.idle
  leased : p'.leased = p.leased
  created : p'.created = p.created + if p.idle = [] ∧ 0 < k then 1 else 0
  acquired : p'.acquired = p.acquired + k
  released : p'.released = p.released + k

/-- A pool that keeps none: each lease made a worker, which is gone. -/
structure Spent (k : Nat) (p p' : Pool) : Prop where
  maxIdle : p'.maxIdle = p.maxIdle
  idle : p'.idle = []
  leased : p'.leased = p.leased
  created : p'.created = p.created + k
  acquired : p'.acquired = p.acquired + k
  released : p'.released = p.released + k

section

variable {p q : Pool} {n : Nat} {rest : List Nat}

theorem counted_counted (k l : Nat) : (p.counted k).counted l = p.counted (k + l) := by
  simp [counted, Nat.add_assoc]

theorem lends_succ (k : Nat) (h : p.lend = (n, q)) :
    lends (k + 1) p = (n :: (lends k q).1, (lends k q).2) := by
  rw [lends, h]

theorem lend_of_idle (hroom : p.idle.length ≤ p.maxIdle) (hi : p.idle = n :: rest) :
    p.lend = (n, p.counted 1) := by
  have hlt : rest.length < p.maxIdle := by
    rw [hi] at hroom
    exact hroom
  rw [lend, acquire_of_idle hi, release_of_room List.mem_cons_self hlt]
  simp [counted, ← hi]

theorem lend_of_none (hmax : 0 < p.maxIdle) (hi : p.idle = []) :
    p.lend = (p.created + 1,
      { p.counted 1 with idle := [p.created + 1], created := p.created + 1 }) := by
  rw [lend, acquire_of_none hi, release_of_room List.mem_cons_self (by simpa [hi] using hmax)]
  simp [counted, hi]

theorem lend_of_full (hmax : p.maxIdle = 0) (hi : p.idle = []) :
    p.lend = (p.created + 1, { p.counted 1 with created := p.created + 1 }) := by
  rw [lend, acquire_of_none hi, release_of_full List.mem_cons_self (by simp [hmax])]
  simp [counted]

/-- By induction on the leases: the worker that was given back is the next one. -/
theorem lends_of_idle (k : Nat) (hroom : p.idle.length ≤ p.maxIdle) (hi : p.idle = n :: rest) :
    lends k p = (List.replicate k n, p.counted k) := by
  induction k generalizing p with
  | zero => rfl
  | succ k ih =>
    rw [lends_succ k (lend_of_idle hroom hi), ih (p := p.counted 1) hroom hi, counted_counted,
      Nat.add_comm 1 k]
    rfl

theorem lends_of_room (k : Nat) (hmax : 0 < p.maxIdle) (hroom : p.idle.length ≤ p.maxIdle) :
    (lends k p).1 = List.replicate k p.acquire.1 ∧ Reused k p (lends k p).2 := by
  cases hi : p.idle with
  | cons n rest =>
    rw [lends_of_idle k hroom hi, acquire_of_idle hi]
    exact ⟨rfl, by constructor <;> simp [counted, hi]⟩
  | nil =>
    rw [acquire_of_none hi]
    cases k with
    | zero => exact ⟨rfl, by constructor <;> simp [lends]⟩
    | succ k =>
      rw [lends_succ k (lend_of_none hmax hi),
        lends_of_idle (p := { p.counted 1 with
          idle := [p.created + 1], created := p.created + 1 }) k hmax rfl]
      exact ⟨rfl, by constructor <;> simp [counted, hi, Nat.add_assoc, Nat.add_comm 1]⟩

/-- By induction on the leases: no worker is given out again. -/
theorem lends_of_full (k : Nat) (hmax : p.maxIdle = 0) (hi : p.idle = []) :
    lends k p = (List.range' (p.created + 1) k,
      { p.counted k with created := p.created + k }) := by
  induction k generalizing p with
  | zero => rfl
  | succ k ih =>
    rw [lends_succ k (lend_of_full hmax hi),
      ih (p := { p.counted 1 with created := p.created + 1 }) hmax hi]
    simp [counted, List.range'_succ, Nat.add_assoc, Nat.add_comm 1]

theorem spent_lends (k : Nat) (hmax : p.maxIdle = 0) (hi : p.idle = []) :
    Spent k p (lends k p).2 := by
  rw [lends_of_full k hmax hi]
  exact ⟨rfl, hi, rfl, rfl, rfl, rfl⟩

end

end Pool
end EventRelay
