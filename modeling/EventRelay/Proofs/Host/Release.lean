import EventRelay.Proofs.Host.Exclusive

/-!
# EventRelay.Proofs.Host.Release

Which releases a pooled engine ignores.

* `release_ignored_iff`: those of a number that the engine has not leased at the time. Who gives
  the worker back, for which acquisition, and where it comes from makes no difference.
* `stale_release_ends_lease`: so a second release of one acquisition ends a lease of someone else.
-/

namespace EventRelay
namespace Relay

section

variable {s : Relay} {e e' : EngineId} {p : PooledEngine}

/-- A release changes the engine exactly if the number is leased. -/
theorem release_kind_eq_iff (hp : (s.engine e).kind = .pooled p) (w : Worker) :
    ((s.release e w).engine e).kind = .pooled p ↔ w.number ∉ p.pool.leased := by
  rw [(release_pooled hp w).2, ← Pool.release_getD_eq_iff]
  constructor
  · intro heq
    exact congrArg PooledEngine.pool (EngineKind.pooled.inj heq)
  · intro heq
    rw [heq]

theorem giveBack_engine_of_ne (h : e' ≠ e) (n : Nat) :
    (s.giveBack e n).engine e' = s.engine e' := by
  unfold giveBack
  split
  · exact (engine_putEngine s e' e _).trans (if_neg (Ne.symm h))
  · split
    · exact (engine_putEngine s e' e _).trans (if_neg (Ne.symm h))
    · rfl

end

/-- An engine ignores a release exactly if it has not leased a worker of that number. So a further
release of an acquisition that was given back is ignored as long as every later acquisition of the
number was given back as well; otherwise it ends the lease, and with room for the worker, the next
acquisition hands it out again. -/
theorem release_ignored_iff (t : List PoolMove) (s : Relay) (e : EngineId) (p : PooledEngine)
    (w : Worker) (ht : Path Relay.initial t s) (hp : (s.engine e).kind = .pooled p) :
    let ms := movesOf e t
    let n := w.number
    let ignored := ((s.release e w).engine e).kind = .pooled p
    (ignored ↔ ms.count (.took n) = ms.count (.pooled n) + ms.count (.retired n)) ∧
      (∀ before m after, ms = before ++ m :: after → m = .pooled n ∨ m = .retired n →
        (ignored ↔
          after.count (.took n) = after.count (.pooled n) + after.count (.retired n))) ∧
      (¬ ignored → ∃ pool, ((s.release e w).engine e).kind = .pooled { p with pool := pool } ∧
        n ∉ pool.leased ∧ pool.released = p.pool.released + 1 ∧
        (p.pool.idle.length < p.config.maxIdle → pool.acquire.1 = n)) ∧
      ∀ e', e' ≠ e → (s.release e w).engine e' = s.engine e' := by
  intro ms n ignored
  have hrun : Pool.Run p.config.maxIdle ms p.pool := ht.pool_run hp
  have hmax : p.pool.maxIdle = p.config.maxIdle := hrun.sound.maxIdle_eq
  have hiff : ignored ↔ n ∉ p.pool.leased := release_kind_eq_iff hp w
  have hcount : ignored ↔ ms.count (.took n) = ms.count (.pooled n) + ms.count (.retired n) := by
    have hheld := hrun.exclusive.held n
    rw [hiff]
    split at hheld
    · rename_i hn
      simp only [hn, not_true_eq_false, false_iff]
      omega
    · rename_i hn
      simp only [hn, not_false_eq_true, true_iff]
      exact hheld
  refine ⟨hcount, ?_, ?_, fun e' he => giveBack_engine_of_ne he n⟩
  · intro before m after hms hm
    -- Up to this release the acquisitions of the number are balanced, so what follows decides.
    have hsplit : ms = before ++ [m] ++ after := by
      rw [hms, List.append_assoc, List.singleton_append]
    rw [hsplit] at hrun
    obtain ⟨p₀, hbefore⟩ := hrun.before
    have hgiven := hbefore.count_of_given hm
    rw [hcount, hsplit]
    simp only [List.count_append] at hgiven ⊢
    omega
  · intro hnot
    have hn : n ∈ p.pool.leased := by
      rw [hiff] at hnot
      exact not_not.mp hnot
    obtain ⟨pool, hrelease, hfree, hreleased, hnext⟩ := hrun.exclusive.release hn
    have hkind := (release_pooled hp w).2
    rw [hrelease] at hkind
    exact ⟨pool, hkind, hfree, hreleased, fun hroom => hnext (hmax ▸ hroom)⟩

/-- An engine whose only worker was taken and given back. -/
def givenBack : List Script.Step :=
  [.startEngine "e" (.pooled ⟨.owning, none, some 2, none, none⟩), .acquire "e" "a",
    .release "e" "a"]

theorem release_ignored_again :
    ∃ t s p, s = (Script.runSteps (Script.runner [] 1) givenBack Relay.initial).2 ∧
      Path Relay.initial t s ∧ (s.engine 0).kind = .pooled p ∧ .took 1 ∈ movesOf 0 t ∧
      ((s.release 0 ⟨0, 1, 0⟩).engine 0).kind = .pooled p := by
  obtain ⟨t, ht⟩ :=
    (Script.runSteps_runs (Script.runner_runs [] 1) givenBack Relay.initial).path
  obtain ⟨s, hs⟩ : ∃ s, s = (Script.runSteps (Script.runner [] 1) givenBack Relay.initial).2 :=
    ⟨_, rfl⟩
  have hpool : s.poolOf 0 = some (2, ⟨2, [1], [], 1, 1, 1⟩) := by
    rw [hs]
    decide +kernel
  rw [← hs] at ht
  obtain ⟨p, hp, -, heq⟩ := pooled_of_poolOf hpool
  have hpools := (ht.pool_run hp).exclusive
  have hheld := hpools.held 1
  have htook : .took 1 ∈ movesOf 0 t := (hpools.issued 1).mpr (by simp [heq])
  rw [heq, if_neg List.not_mem_nil, Nat.add_zero] at hheld
  exact ⟨t, s, p, hs, ht, hp, htook,
    (release_ignored_iff t s 0 p ⟨0, 1, 0⟩ ht hp).1.mpr hheld⟩

/-- Then the worker is taken by someone else. -/
def takenAgain : List Script.Step := givenBack ++ [.acquire "e" "b"]

/-- The second release for the first acquisition ends the lease of the second one, and the worker
is handed out once more. -/
theorem stale_release_ends_lease :
    let s := (Script.runSteps (Script.runner [] 1) takenAgain Relay.initial).2
    let s' := (Script.runStep (Script.runner [] 1) (.release "e" "a") s).2
    Names.look "b" s.names.workers = some ⟨0, 1, 0⟩ ∧
      s.poolOf 0 = some (2, ⟨2, [], [1], 1, 2, 1⟩) ∧
      s'.poolOf 0 = some (2, ⟨2, [1], [], 1, 2, 2⟩) ∧ (s'.take 0).1 = ⟨0, 1, 0⟩ := by
  decide +kernel

end Relay
end EventRelay
