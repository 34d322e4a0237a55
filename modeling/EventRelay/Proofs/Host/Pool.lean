import Mathlib.Data.List.Count
import Mathlib.Data.List.Induction
import Mathlib.Data.List.Nodup
import EventRelay.Host.Pool

/-!
# EventRelay.Proofs.Host.Pool

What holds of a pool after any acquisitions and releases.

* `Pool.Move`: an acquisition or a release, and what became of it. `Pool.Step`: what one does.
* `Pool.Run`: the pools that moves lead to from an empty one.
* `Pool.Latest`: a worker was pooled after all others of a list.
* `Pool.Sound`: what every step keeps, by one lemma for each kind of move.
* `Pool.Exclusive`: what holders see of it. No worker is in two hands, no number is used twice.
* `Pool.release_getD_eq_iff`, `Pool.Exclusive.release`: a release goes by the number alone, so it
  ends a lease whoever holds it.
-/

namespace EventRelay
namespace Pool

/-! ## Moves -/

/-- An acquisition or a release of a worker, and what became of it. -/
inductive Move where
  | took (n : Nat)
  /-- The worker was leased and stays idle. -/
  | pooled (n : Nat)
  /-- The worker was leased, and there was no room for it. -/
  | retired (n : Nat)
  /-- The worker was not leased. -/
  | ignored (n : Nat)
  deriving DecidableEq

/-- What becomes of a release. -/
def outcome (p : Pool) (n : Nat) : Move :=
  if n ∈ p.leased then
    if p.idle.length < p.maxIdle then .pooled n else .retired n
  else .ignored n

/-- One acquisition, or one release of any number. -/
inductive Step (p : Pool) : Move → Pool → Prop where
  | acquire : Step p (.took p.acquire.1) p.acquire.2
  | release (n : Nat) : Step p (p.outcome n) ((p.release n).getD p)

/-- The moves of a pool that was empty at the start, the oldest first. -/
inductive Run (maxIdle : Nat) : List Move → Pool → Prop where
  | start : Run maxIdle [] (Pool.empty maxIdle)
  | step {ms : List Move} {m : Move} {p p' : Pool} :
      Run maxIdle ms p → Step p m p' → Run maxIdle (ms ++ [m]) p'

section

variable {p : Pool} {n : Nat} {rest : List Nat}

theorem acquire_of_idle (h : p.idle = n :: rest) :
    p.acquire =
      (n, { p with idle := rest, leased := n :: p.leased, acquired := p.acquired + 1 }) := by
  simp [acquire, h]

theorem acquire_of_none (h : p.idle = []) :
    p.acquire = (p.created + 1,
      { p with
        leased := (p.created + 1) :: p.leased
        created := p.created + 1
        acquired := p.acquired + 1 }) := by
  simp [acquire, h]

theorem acquire_leased (p : Pool) : p.acquire.2.leased = p.acquire.1 :: p.leased := by
  unfold acquire
  split <;> rfl

theorem acquire_counts (p : Pool) :
    p.acquire.2.acquired = p.acquired + 1 ∧ p.acquire.2.released = p.released := by
  unfold acquire
  split <;> exact ⟨rfl, rfl⟩

theorem release_of_room (hn : n ∈ p.leased) (hroom : p.idle.length < p.maxIdle) :
    p.release n = some { p with
      leased := p.leased.erase n, released := p.released + 1, idle := n :: p.idle } := by
  simp [release, hn, hroom]

theorem release_of_full (hn : n ∈ p.leased) (hfull : ¬ p.idle.length < p.maxIdle) :
    p.release n = some { p with leased := p.leased.erase n, released := p.released + 1 } := by
  simp [release, hn, hfull]

/-- The release of a leased worker ends the lease, whether there is room for it or not. -/
theorem release_of_leased (hn : n ∈ p.leased) :
    ∃ p', p.release n = some p' ∧ p'.leased = p.leased.erase n ∧ p'.acquired = p.acquired ∧
      p'.released = p.released + 1 := by
  by_cases hroom : p.idle.length < p.maxIdle
  · exact ⟨_, release_of_room hn hroom, rfl, rfl, rfl⟩
  · exact ⟨_, release_of_full hn hroom, rfl, rfl, rfl⟩

theorem release_of_not_leased (hn : n ∉ p.leased) : p.release n = none := by
  simp [release, hn]

end

/-- Every step is one of these five. -/
theorem Step.cases {p p' : Pool} {m : Move} (h : Step p m p') :
    (∃ n rest, p.idle = n :: rest ∧ m = .took n ∧
      p' = { p with idle := rest, leased := n :: p.leased, acquired := p.acquired + 1 }) ∨
    (p.idle = [] ∧ m = .took (p.created + 1) ∧
      p' = { p with
        leased := (p.created + 1) :: p.leased
        created := p.created + 1
        acquired := p.acquired + 1 }) ∨
    (∃ n ∈ p.leased, p.idle.length < p.maxIdle ∧ m = .pooled n ∧
      p' = { p with
        leased := p.leased.erase n, released := p.released + 1, idle := n :: p.idle }) ∨
    (∃ n ∈ p.leased, p.maxIdle ≤ p.idle.length ∧ m = .retired n ∧
      p' = { p with leased := p.leased.erase n, released := p.released + 1 }) ∨
    (∃ n, n ∉ p.leased ∧ m = .ignored n ∧ p' = p) := by
  cases h with
  | acquire =>
    cases hi : p.idle with
    | nil =>
      rw [acquire_of_none hi]
      exact .inr (.inl ⟨rfl, rfl, by rw [hi]⟩)
    | cons n rest =>
      rw [acquire_of_idle hi]
      exact .inl ⟨n, rest, rfl, rfl, rfl⟩
  | release n =>
    unfold outcome
    by_cases hn : n ∈ p.leased
    · by_cases hroom : p.idle.length < p.maxIdle
      · rw [release_of_room hn hroom, if_pos hn, if_pos hroom]
        exact .inr (.inr (.inl ⟨n, hn, hroom, rfl, rfl⟩))
      · rw [release_of_full hn hroom, if_pos hn, if_neg hroom]
        exact .inr (.inr (.inr (.inl ⟨n, hn, Nat.not_lt.mp hroom, rfl, rfl⟩)))
    · rw [release_of_not_leased hn, if_neg hn]
      exact .inr (.inr (.inr (.inr ⟨n, hn, rfl, rfl⟩)))

/-! ## The worker pooled last -/

/-- A worker was pooled, and none of some workers was pooled after it. -/
def Latest (ms : List Move) (n : Nat) (among : List Nat) : Prop :=
  ∃ before after, ms = before ++ .pooled n :: after ∧ ∀ k ∈ among, .pooled k ∉ after

namespace Latest

variable {ms : List Move} {m : Move} {n : Nat} {among : List Nat}

theorem now (ms : List Move) (n : Nat) (among : List Nat) :
    Latest (ms ++ [.pooled n]) n among :=
  ⟨ms, [], rfl, fun _ _ => List.not_mem_nil⟩

/-- It stays so until one of them is pooled. -/
theorem later (h : Latest ms n among) (hm : ∀ k ∈ among, m ≠ .pooled k) :
    Latest (ms ++ [m]) n among := by
  obtain ⟨before, after, rfl, hafter⟩ := h
  refine ⟨before, after ++ [m], by simp, fun k hk hmem => ?_⟩
  rcases List.mem_append.mp hmem with hmem | hmem
  · exact hafter k hk hmem
  · exact hm k hk (List.mem_singleton.mp hmem).symm

end Latest

/-- The idle workers stand in the order in which they were pooled, the last in front. -/
def Stacked (ms : List Move) (idle : List Nat) : Prop :=
  ∀ n back, n :: back <:+ idle → Latest ms n (n :: back)

namespace Stacked

variable {ms : List Move} {m : Move} {idle : List Nat}

theorem later (h : Stacked ms idle) (hm : ∀ k ∈ idle, m ≠ .pooled k) :
    Stacked (ms ++ [m]) idle := by
  intro n back hback
  exact (h n back hback).later fun k hk => hm k (hback.subset hk)

theorem pop {n : Nat} (h : Stacked ms (n :: idle)) : Stacked ms idle := by
  intro k back hback
  exact h k back (hback.trans (List.suffix_cons n idle))

theorem push {n : Nat} (h : Stacked ms idle) (hn : n ∉ idle) :
    Stacked (ms ++ [.pooled n]) (n :: idle) := by
  intro k back hback
  rcases List.suffix_cons_iff.mp hback with heq | hback
  · cases heq
    exact .now ms n (n :: idle)
  · refine (h k back hback).later fun j hj heq => hn ?_
    cases heq
    exact hback.subset hj

end Stacked

/-! ## What every step keeps -/

/-- What holds of a pool after its moves. -/
structure Sound (maxIdle : Nat) (ms : List Move) (p : Pool) : Prop where
  maxIdle_eq : p.maxIdle = maxIdle
  distinct : (p.idle ++ p.leased).Nodup
  room : p.idle.length ≤ p.maxIdle
  issued : ∀ n, .took n ∈ ms ↔ 1 ≤ n ∧ n ≤ p.created
  known : ∀ n ∈ p.idle ++ p.leased, n ≤ p.created
  stacked : Stacked ms p.idle
  held : ∀ n, ms.count (.took n) =
    ms.count (.pooled n) + ms.count (.retired n) + p.leased.count n
  balance : p.acquired = p.released + p.leased.length

namespace Sound

variable {maxIdle n : Nat} {ms : List Move} {m : Move} {p p' : Pool} {rest : List Nat}

theorem start (maxIdle : Nat) : Sound maxIdle [] (Pool.empty maxIdle) where
  maxIdle_eq := rfl
  distinct := List.nodup_nil
  room := Nat.zero_le _
  issued n := by
    simp only [List.not_mem_nil, false_iff, Pool.empty]
    omega
  known := nofun
  stacked := fun n back h => by simp [Pool.empty] at h
  held _ := rfl
  balance := rfl

theorem not_idle (h : Sound maxIdle ms p) (hn : n ∈ p.leased) : n ∉ p.idle := by
  intro hidle
  exact (List.nodup_append.mp h.distinct).2.2 n hidle n hn rfl

theorem leased_nodup (h : Sound maxIdle ms p) : p.leased.Nodup :=
  (List.nodup_append.mp h.distinct).2.1

/-- The idle worker in front moves over to the leased ones. -/
theorem reuse (h : Sound maxIdle ms p) (hi : p.idle = n :: rest) :
    Sound maxIdle (ms ++ [.took n])
      { p with idle := rest, leased := n :: p.leased, acquired := p.acquired + 1 } where
  maxIdle_eq := h.maxIdle_eq
  distinct := by
    have hd := h.distinct
    rw [hi] at hd
    exact List.nodup_middle.mpr hd
  room := by
    have hr := h.room
    rw [hi, List.length_cons] at hr
    exact Nat.le_of_succ_le hr
  issued k := by
    have hn : 1 ≤ n ∧ n ≤ p.created := by
      refine ⟨?_, h.known n (by simp [hi])⟩
      obtain ⟨before, after, hms, -⟩ := h.stacked n rest (hi ▸ List.suffix_rfl)
      have hheld := h.held n
      have hpooled : 0 < ms.count (.pooled n) := List.count_pos_iff.mpr (by simp [hms])
      have htook : .took n ∈ ms := List.count_pos_iff.mp (by omega)
      exact ((h.issued n).mp htook).1
    rw [List.mem_append, List.mem_singleton, h.issued k]
    constructor
    · rintro (hk | hk)
      · exact hk
      · cases hk
        exact hn
    · exact .inl
  known k hk := by
    refine h.known k ?_
    rw [hi]
    simpa [or_left_comm] using hk
  stacked := by
    have hs := h.stacked
    rw [hi] at hs
    exact hs.pop.later fun k _ => nofun
  held k := by
    have hk := h.held k
    by_cases heq : n = k
    · subst heq
      simp [List.count_append, hk]
      omega
    · simp [List.count_append, heq, hk]
  balance := by
    have hb := h.balance
    simp only [List.length_cons]
    omega

/-- A worker is made, and its number is a new one. -/
theorem create (h : Sound maxIdle ms p) (hi : p.idle = []) :
    Sound maxIdle (ms ++ [.took (p.created + 1)])
      { p with
        leased := (p.created + 1) :: p.leased
        created := p.created + 1
        acquired := p.acquired + 1 } where
  maxIdle_eq := h.maxIdle_eq
  distinct := by
    have hnew : p.created + 1 ∉ p.leased := by
      intro hmem
      have := h.known _ (List.mem_append_right _ hmem)
      omega
    have hd := h.leased_nodup
    rw [hi]
    exact List.nodup_cons.mpr ⟨hnew, hd⟩
  room := h.room
  issued k := by
    rw [List.mem_append, List.mem_singleton, h.issued k, Move.took.injEq]
    dsimp only
    omega
  known k hk := by
    dsimp only at hk ⊢
    rw [hi, List.nil_append] at hk
    rcases List.mem_cons.mp hk with hk | hk
    · omega
    · have := h.known k (List.mem_append_right _ hk)
      omega
  stacked := h.stacked.later fun k _ => nofun
  held k := by
    have hk := h.held k
    by_cases heq : p.created + 1 = k
    · subst heq
      simp [List.count_append, hk]
      omega
    · simp [List.count_append, heq, hk]
  balance := by
    have hb := h.balance
    simp only [List.length_cons]
    omega

/-- What a lease that ends leaves of the leased workers. -/
theorem count_erase (hn : n ∈ p.leased) (k : Nat) :
    p.leased.count k = (p.leased.erase n).count k + if n = k then 1 else 0 := by
  by_cases heq : n = k
  · subst heq
    have hpos : 0 < p.leased.count n := List.count_pos_iff.mpr hn
    rw [List.count_erase_self, if_pos rfl]
    omega
  · rw [List.count_erase_of_ne (Ne.symm heq), if_neg heq, Nat.add_zero]

/-- A leased worker moves over to the idle ones. -/
theorem pool (h : Sound maxIdle ms p) (hn : n ∈ p.leased) (hroom : p.idle.length < p.maxIdle) :
    Sound maxIdle (ms ++ [.pooled n])
      { p with leased := p.leased.erase n, released := p.released + 1, idle := n :: p.idle } where
  maxIdle_eq := h.maxIdle_eq
  distinct := by
    have hperm : (n :: p.idle ++ p.leased.erase n).Perm (p.idle ++ p.leased) :=
      List.perm_middle.symm.trans ((List.perm_cons_erase hn).symm.append_left p.idle)
    exact hperm.nodup_iff.mpr h.distinct
  room := hroom
  issued k := by simp [h.issued k]
  known k hk := by
    refine h.known k ?_
    rcases List.mem_append.mp hk with hk | hk
    · rcases List.mem_cons.mp hk with rfl | hk
      · exact List.mem_append_right _ hn
      · exact List.mem_append_left _ hk
    · exact List.mem_append_right _ (List.mem_of_mem_erase hk)
  stacked := h.stacked.push (h.not_idle hn)
  held k := by
    have hk := h.held k
    have he := count_erase hn k
    simp only [List.count_append, List.count_cons, List.count_nil, beq_iff_eq, Move.pooled.injEq,
      reduceCtorEq, if_false]
    omega
  balance := by
    have hb := h.balance
    have hl := List.length_erase_add_one hn
    dsimp only
    omega

/-- A leased worker is dropped. -/
theorem retire (h : Sound maxIdle ms p) (hn : n ∈ p.leased) :
    Sound maxIdle (ms ++ [.retired n])
      { p with leased := p.leased.erase n, released := p.released + 1 } where
  maxIdle_eq := h.maxIdle_eq
  distinct := by
    have hsub : (p.idle ++ p.leased.erase n).Sublist (p.idle ++ p.leased) :=
      List.erase_sublist.append_left p.idle
    exact h.distinct.sublist hsub
  room := h.room
  issued k := by simp [h.issued k]
  known k hk := by
    refine h.known k ?_
    rcases List.mem_append.mp hk with hk | hk
    · exact List.mem_append_left _ hk
    · exact List.mem_append_right _ (List.mem_of_mem_erase hk)
  stacked := h.stacked.later fun k _ => nofun
  held k := by
    have hk := h.held k
    have he := count_erase hn k
    simp only [List.count_append, List.count_cons, List.count_nil, beq_iff_eq, Move.retired.injEq,
      reduceCtorEq, if_false]
    omega
  balance := by
    have hb := h.balance
    have hl := List.length_erase_add_one hn
    dsimp only
    omega

theorem ignore (h : Sound maxIdle ms p) (n : Nat) : Sound maxIdle (ms ++ [.ignored n]) p where
  maxIdle_eq := h.maxIdle_eq
  distinct := h.distinct
  room := h.room
  issued k := by simp [h.issued k]
  known := h.known
  stacked := h.stacked.later fun k _ => nofun
  held k := by
    have hk := h.held k
    simpa [List.count_append, List.count_cons] using hk
  balance := h.balance

theorem step (h : Sound maxIdle ms p) (hs : Step p m p') : Sound maxIdle (ms ++ [m]) p' := by
  rcases hs.cases with ⟨n, rest, hi, rfl, rfl⟩ | ⟨hi, rfl, rfl⟩ | ⟨n, hn, hroom, rfl, rfl⟩ |
    ⟨n, hn, -, rfl, rfl⟩ | ⟨n, -, rfl, rfl⟩
  · exact h.reuse hi
  · exact h.create hi
  · exact h.pool hn hroom
  · exact h.retire hn
  · exact h.ignore n

end Sound

/-- By induction on the moves. -/
theorem Run.sound {maxIdle : Nat} {ms : List Move} {p : Pool} (h : Run maxIdle ms p) :
    Sound maxIdle ms p := by
  induction h with
  | start => exact .start maxIdle
  | step _ hs ih => exact ih.step hs

/-! ## What holders see -/

/-- No worker is in two hands, and no number is used for two workers. -/
structure Exclusive (maxIdle : Nat) (ms : List Move) (p : Pool) : Prop where
  /-- Idle and leased workers are all different. -/
  distinct : (p.idle ++ p.leased).Nodup
  room : p.idle.length ≤ maxIdle
  /-- The numbers handed out are those of the workers made. -/
  issued : ∀ n, .took n ∈ ms ↔ 1 ≤ n ∧ n ≤ p.created
  /-- A leased worker was handed out once more than it was given back, and no other one was. -/
  held : ∀ n, ms.count (.took n) =
    ms.count (.pooled n) + ms.count (.retired n) + if n ∈ p.leased then 1 else 0
  balance : p.acquired = p.released + p.leased.length
  /-- The worker that is handed out next is not leased. -/
  grants_free : p.acquire.1 ∉ p.leased
  /-- It is the idle worker that was pooled last, if there is one. -/
  grants_idle : ∀ n rest, p.idle = n :: rest →
    p.acquire.1 = n ∧ p.acquire.2.idle = rest ∧ p.acquire.2.created = p.created ∧
      Latest ms n p.idle
  /-- Otherwise it is new, and so is its number. -/
  grants_new : p.idle = [] →
    p.acquire.2.created = p.created + 1 ∧ p.acquire.1 = p.created + 1 ∧ .took p.acquire.1 ∉ ms

theorem Run.exclusive {maxIdle : Nat} {ms : List Move} {p : Pool} (h : Run maxIdle ms p) :
    Exclusive maxIdle ms p := by
  have hp := h.sound
  have hnew : p.created + 1 ∉ p.leased := by
    intro hmem
    have := hp.known _ (List.mem_append_right _ hmem)
    omega
  exact {
    distinct := hp.distinct
    room := hp.maxIdle_eq ▸ hp.room
    issued := hp.issued
    held := by
      intro n
      rw [hp.held n, hp.leased_nodup.count]
    balance := hp.balance
    grants_free := by
      cases hi : p.idle with
      | nil =>
        rw [acquire_of_none hi]
        exact hnew
      | cons n rest =>
        rw [acquire_of_idle hi]
        intro hleased
        exact hp.not_idle hleased (by simp [hi])
    grants_idle := by
      intro n rest hi
      rw [acquire_of_idle hi]
      exact ⟨rfl, rfl, rfl, hi ▸ hp.stacked n rest (hi ▸ List.suffix_rfl)⟩
    grants_new := by
      intro hi
      rw [acquire_of_none hi]
      refine ⟨rfl, rfl, fun htook => ?_⟩
      have := ((hp.issued _).mp htook).2
      omega }

/-! ## Releases go by the number -/

section

variable {maxIdle n : Nat} {ms ms' : List Move} {m : Move} {p p' : Pool}

/-- A release does nothing exactly if no worker of the number is leased. -/
theorem release_getD_eq_iff : (p.release n).getD p = p ↔ n ∉ p.leased := by
  constructor
  · intro heq hn
    have hreleased : ((p.release n).getD p).released = p.released + 1 := by
      by_cases hroom : p.idle.length < p.maxIdle
      · rw [release_of_room hn hroom]
        rfl
      · rw [release_of_full hn hroom]
        rfl
    rw [heq] at hreleased
    omega
  · intro hn
    rw [release_of_not_leased hn]
    rfl

/-- A release of a leased worker ends the lease, and the worker is the next to be handed out if
there is room for it. -/
theorem Exclusive.release (h : Exclusive maxIdle ms p) (hn : n ∈ p.leased) :
    ∃ p', p.release n = some p' ∧ n ∉ p'.leased ∧ p'.released = p.released + 1 ∧
      (p.idle.length < p.maxIdle → p'.acquire.1 = n) := by
  have hnodup : p.leased.Nodup := (List.nodup_append.mp h.distinct).2.1
  by_cases hroom : p.idle.length < p.maxIdle
  · exact ⟨_, release_of_room hn hroom, hnodup.not_mem_erase, rfl, fun _ => rfl⟩
  · exact ⟨_, release_of_full hn hroom, hnodup.not_mem_erase, rfl, fun h => absurd h hroom⟩

theorem Run.last (h : Run maxIdle (ms ++ [m]) p') : ∃ p, Run maxIdle ms p ∧ Step p m p' := by
  generalize hl : ms ++ [m] = l at h
  cases h with
  | start => simp at hl
  | step hrun hstep =>
    obtain ⟨rfl, hm⟩ := List.append_inj' hl rfl
    cases hm
    exact ⟨_, hrun, hstep⟩

/-- A pool went through every beginning of its moves. -/
theorem Run.before (h : Run maxIdle (ms ++ ms') p) : ∃ p₀, Run maxIdle ms p₀ := by
  induction ms' using List.reverseRecOn generalizing p with
  | nil => exact ⟨p, List.append_nil ms ▸ h⟩
  | append_singleton ms' m ih =>
    rw [← List.append_assoc] at h
    obtain ⟨p₁, hrun, -⟩ := h.last
    exact ih hrun

/-- Once a worker was given back, it was handed out as often as it was given back. -/
theorem Run.count_of_given (h : Run maxIdle (ms ++ [m]) p) (hm : m = .pooled n ∨ m = .retired n) :
    (ms ++ [m]).count (.took n) =
      (ms ++ [m]).count (.pooled n) + (ms ++ [m]).count (.retired n) := by
  obtain ⟨p₀, hrun, hstep⟩ := h.last
  have hnodup := hrun.sound.leased_nodup
  have hfree : n ∉ p.leased := by
    rcases hstep.cases with ⟨k, rest, -, rfl, -⟩ | ⟨-, rfl, -⟩ | ⟨k, -, -, rfl, rfl⟩ |
      ⟨k, -, -, rfl, rfl⟩ | ⟨k, -, rfl, -⟩
    · simp at hm
    · simp at hm
    · obtain rfl : k = n := by simpa using hm
      exact hnodup.not_mem_erase
    · obtain rfl : k = n := by simpa using hm
      exact hnodup.not_mem_erase
    · simp at hm
  have hheld := h.exclusive.held n
  rwa [if_neg hfree, Nat.add_zero] at hheld

end

end Pool
end EventRelay
