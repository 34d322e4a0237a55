import Mathlib.Data.Finset.Lattice.Fold
import Mathlib.Data.List.Infix
import Mathlib.Order.Bounds.Basic
import Mathlib.Order.Lattice.Nat
import EventRelay.Proofs.Host.Exclusive

/-!
# EventRelay.Proofs.Host.Demand

How many workers a pool makes.

* `Pool.leases`, `Pool.peak`: how many workers are leased after some moves, and the most that were
  at any time. `Run.peak_greatest`: these are the numbers that the pools on the way have.
* `Pool.Thrifty`: what every step keeps. Workers are leased, idle or retired, and as long as the
  peak stays within the room for idle workers, there are as many as the peak.
* `pool_follows_demand`: so it is with the pools of all engines at any point of any run.
-/

namespace EventRelay
namespace Pool

/-! ## Demand -/

namespace Move

/-- How many workers are leased after a move. -/
def leases (n : Nat) : Move → Nat
  | took _ => n + 1
  | pooled _ => n - 1
  | retired _ => n - 1
  | ignored _ => n

/-- Whether a worker that was given back is dropped. -/
def retires : Move → Bool
  | retired _ => true
  | _ => false

end Move

/-- How many workers are leased after some moves of a pool that was empty at the start. -/
def leases (ms : List Move) : Nat := ms.foldl Move.leases 0

/-- The most workers that were leased at the same time. -/
def peak (ms : List Move) : Nat := ms.inits.toFinset.sup leases

section

variable {maxIdle : Nat} {ms : List Move} {m : Move} {p p' : Pool}

theorem leases_snoc (ms : List Move) (m : Move) : leases (ms ++ [m]) = m.leases (leases ms) := by
  simp [leases]

theorem peak_snoc (ms : List Move) (m : Move) :
    peak (ms ++ [m]) = max (peak ms) (leases (ms ++ [m])) := by
  simp [peak, List.inits_append, max_comm]

theorem leases_le_peak (ms : List Move) : leases ms ≤ peak ms :=
  Finset.le_sup (f := leases) (by simp)

theorem Run.leases_eq (h : Run maxIdle ms p) : leases ms = p.leased.length := by
  induction h with
  | start => rfl
  | step _ hs ih =>
    rw [leases_snoc, ih]
    rcases hs.cases with ⟨n, rest, -, rfl, rfl⟩ | ⟨-, rfl, rfl⟩ | ⟨n, hn, -, rfl, rfl⟩ |
      ⟨n, hn, -, rfl, rfl⟩ | ⟨n, -, rfl, rfl⟩
    · rfl
    · rfl
    · exact (List.length_erase_of_mem hn).symm
    · exact (List.length_erase_of_mem hn).symm
    · rfl

/-- The peak is the most that any of the pools on the way had leased. -/
theorem Run.peak_greatest (h : Run maxIdle ms p) :
    IsGreatest {k | ∃ before q, before <+: ms ∧ Run maxIdle before q ∧ q.leased.length = k}
      (peak ms) := by
  constructor
  · obtain ⟨before, hmem, hpeak⟩ := Finset.exists_mem_eq_sup ms.inits.toFinset
      ⟨[], by simp⟩ leases
    obtain ⟨after, hafter⟩ : before <+: ms := by simpa using hmem
    obtain ⟨q, hq⟩ := (hafter ▸ h).before
    exact ⟨before, q, ⟨after, hafter⟩, hq, hq.leases_eq.symm.trans hpeak.symm⟩
  · rintro k ⟨before, q, hbefore, hq, rfl⟩
    rw [← hq.leases_eq]
    exact Finset.le_sup (f := leases) (by simpa using hbefore)

/-! ## What every step keeps -/

/-- A pool makes no more workers than it has to. -/
structure Thrifty (maxIdle : Nat) (ms : List Move) (p : Pool) : Prop where
  /-- Every worker is leased, idle or retired. -/
  accounted : p.created = p.leased.length + p.idle.length + ms.countP Move.retires
  /-- As long as there is room for all that were leased at once, none is retired, and a worker was
  made only when more were leased than ever before. -/
  within_room : peak ms ≤ maxIdle → ms.countP Move.retires = 0 ∧ p.created = peak ms
  /-- Without any room, every acquisition makes a worker. -/
  without_room : maxIdle = 0 → p.created = p.acquired

namespace Thrifty

theorem start (maxIdle : Nat) : Thrifty maxIdle [] (Pool.empty maxIdle) :=
  ⟨rfl, fun _ => ⟨rfl, rfl⟩, fun _ => rfl⟩

theorem step (h : Thrifty maxIdle ms p) (hrun : Run maxIdle ms p) (hs : Step p m p') :
    Thrifty maxIdle (ms ++ [m]) p' := by
  have hmax : p.maxIdle = maxIdle := hrun.sound.maxIdle_eq
  have hroom : p.idle.length ≤ p.maxIdle := hrun.sound.room
  have hleases : leases ms = p.leased.length := hrun.leases_eq
  have hbelow : leases ms ≤ peak ms := leases_le_peak ms
  have hpeak : peak (ms ++ [m]) = max (peak ms) (m.leases (leases ms)) := by
    rw [peak_snoc, leases_snoc]
  have hretired : (ms ++ [m]).countP Move.retires = ms.countP Move.retires + m.retires.toNat := by
    cases hm : m.retires <;> simp [hm]
  obtain ⟨haccounted, hwithin, hwithout⟩ := h
  rcases hs.cases with ⟨n, rest, hi, rfl, rfl⟩ | ⟨hi, rfl, rfl⟩ | ⟨n, hn, hfree, rfl, rfl⟩ |
    ⟨n, hn, hfull, rfl, rfl⟩ | ⟨n, -, rfl, rfl⟩ <;>
    simp only [Move.leases, Move.retires, Bool.toNat_false, Bool.toNat_true, Nat.add_zero]
      at hpeak hretired
  · -- An idle worker is leased: more are leased, but no more than there are workers.
    simp only [hi, List.length_cons] at haccounted hroom
    refine ⟨?_, fun hle => ?_, fun hzero => ?_⟩
    · simp only [List.length_cons, hretired]
      omega
    · obtain ⟨hnone, hmade⟩ := hwithin (by omega)
      dsimp only
      omega
    · omega
  · -- A worker is made: all others are leased, so more are leased than ever before.
    simp only [hi, List.length_nil] at haccounted
    refine ⟨?_, fun hle => ?_, fun hzero => ?_⟩
    · simp only [hi, List.length_cons, List.length_nil, hretired]
      omega
    · obtain ⟨hnone, hmade⟩ := hwithin (by omega)
      dsimp only
      omega
    · have hmade := hwithout hzero
      dsimp only
      omega
  · -- A worker goes back to the idle ones.
    have hleased := List.length_erase_add_one hn
    refine ⟨?_, fun hle => ?_, fun hzero => ?_⟩
    · simp only [List.length_cons, hretired]
      omega
    · obtain ⟨hnone, hmade⟩ := hwithin (by omega)
      dsimp only
      omega
    · omega
  · -- There is no room for it: then more workers were leased at once than may be idle.
    have hleased := List.length_erase_add_one hn
    refine ⟨?_, fun hle => ?_, hwithout⟩
    · simp only [hretired]
      omega
    · obtain ⟨hnone, hmade⟩ := hwithin (by omega)
      omega
  · refine ⟨?_, fun hle => ?_, hwithout⟩
    · omega
    · obtain ⟨hnone, hmade⟩ := hwithin (by omega)
      omega

end Thrifty

/-- By induction on the moves. -/
theorem Run.thrifty (h : Run maxIdle ms p) : Thrifty maxIdle ms p := by
  induction h with
  | start => exact .start maxIdle
  | step hrun hs ih => exact ih.step hrun hs

end

end Pool

namespace Relay

/-- After any acquisitions and releases, every worker that a pool made is leased, idle or was
retired as surplus. While no more workers were leased at once than may be idle, none was retired and
there are as many as were leased at the peak; a pool that keeps no idle workers makes one for every
acquisition. The peak is the most that any pool on the way had leased. At any point of any run, the
pool of an engine is one that its acquisitions and releases led to, with one move for each. -/
theorem pool_follows_demand :
    (∀ maxIdle ms p, Pool.Run maxIdle ms p → Pool.Thrifty maxIdle ms p ∧
      IsGreatest {k | ∃ before q, before <+: ms ∧ Pool.Run maxIdle before q ∧ q.leased.length = k}
        (Pool.peak ms)) ∧
    (∀ t s e p, Path Relay.initial t s → (s.engine e).kind = .pooled p →
      Pool.Run p.config.maxIdle (movesOf e t) p.pool) ∧
    (∀ s s' e p w, (s.engine e).kind = .pooled p → s.acquire e = (.ok w, s') →
      Path s [(e, .took w.number)] s') ∧
    (∀ s e p w, (s.engine e).kind = .pooled p →
      Path s [(e, p.pool.outcome w.number)] (s.release e w)) ∧
    ∀ program depth steps s, ∃ t,
      Path s t (Script.runSteps (Script.runner program depth) steps s).2 := by
  refine ⟨?_, ?_, ?_, ?_, ?_⟩
  · intro maxIdle ms p h
    exact ⟨h.thrifty, h.peak_greatest⟩
  · intro t s e p ht hp
    exact ht.pool_run hp
  · intro s s' e p w hp ha
    exact (acquire_pooled hp ha).2.1
  · intro s e p w hp
    exact (release_pooled hp w).1
  · intro program depth steps s
    exact (Script.runSteps_runs (Script.runner_runs program depth) steps s).path

/-- An engine that keeps two idle workers. -/
def roomy : Relay :=
  Relay.initial.putEngine 0 (Engine.ofKind (.pooled (PooledEngine.fresh ⟨2, "w", none⟩ false)))

/-- Two workers are leased, one of them is given back, and the next acquisition leases it again. -/
theorem pool_follows_demand_roomy :
    ∃ t s p, Path Relay.initial t s ∧ (s.engine 0).kind = .pooled p ∧
      movesOf 0 t = [.took 1, .took 2, .pooled 1, .took 1] ∧
      p.pool.created = Pool.peak (movesOf 0 t) ∧ p.pool.created = 2 ∧
      Path roomy [(0, .took 1)] (roomy.acquire 0).2 ∧
      Path roomy [(0, .ignored 1)] (roomy.release 0 ⟨0, 1, 0⟩) := by
  obtain ⟨hpool, hpath, hacquire, hrelease, -⟩ := pool_follows_demand
  have hstart : Path Relay.initial [] roomy := .single (.addEngine _ (.pooled ⟨2, "w", none⟩ false))
  have h := (((hstart.step (.take 0)).step (.take 0)).step (.giveBack 0 1)).step (.take 0)
  refine ⟨_, _, _, h, rfl, rfl, ?_, rfl, ?_, ?_⟩
  · have hrun := hpath _ _ 0 _ h rfl
    exact ((hpool _ _ _ hrun).1.within_room (by decide)).2
  · exact hacquire roomy _ 0 _ ⟨0, 1, 0⟩ rfl rfl
  · exact hrelease roomy 0 _ ⟨0, 1, 0⟩ rfl

end Relay
end EventRelay
