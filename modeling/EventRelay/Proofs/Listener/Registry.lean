import Mathlib.Data.String.Basic
import EventRelay.Listener.Registry

/-!
# EventRelay.Proofs.Listener.Registry

Registries as maps from events to lists of listeners.

* `Tidy`: the events of a registry increase, and none of them has an empty list. Every operation
  keeps a registry tidy.
* `Tidy.find_add`, `Tidy.find_removeFirst`, `Tidy.find_clear`: what an operation does to `find`.
* `Tidy.mem_events`: the events are those that have listeners.
* `Tidy.ext`: a tidy registry is determined by its `find`.
-/

namespace EventRelay
namespace Registry

/-- Lists by event, in the order of the events and without empty ones. -/
structure TidyLists (lists : List (String × List Listener)) : Prop where
  increasing : lists.Pairwise fun a b => a.1 < b.1
  nonempty : ∀ e ∈ lists, e.2 ≠ []

section

variable {event other : String} {ls : List Listener} {lists rest : List (String × List Listener)}

theorem findIn_cons_self : findIn event ((event, ls) :: rest) = ls := if_pos rfl

theorem findIn_cons_of_ne (h : event ≠ other) :
    findIn other ((event, ls) :: rest) = findIn other rest := if_neg h

theorem findIn_of_lt (h : ∀ e ∈ rest, event < e.1) : findIn event rest = [] := by
  induction rest with
  | nil => rfl
  | cons e rest ih =>
    obtain ⟨hlt, hrest⟩ := List.forall_mem_cons.mp h
    rw [findIn_cons_of_ne hlt.ne']
    exact ih hrest

namespace TidyLists

theorem nil : TidyLists [] := ⟨.nil, nofun⟩

theorem cons (hlt : ∀ e ∈ rest, event < e.1) (hne : ls ≠ []) (h : TidyLists rest) :
    TidyLists ((event, ls) :: rest) :=
  ⟨List.pairwise_cons.mpr ⟨hlt, h.increasing⟩, List.forall_mem_cons.mpr ⟨hne, h.nonempty⟩⟩

theorem tail (h : TidyLists ((event, ls) :: rest)) : TidyLists rest :=
  ⟨h.increasing.of_cons, fun e he => h.nonempty e (List.mem_cons_of_mem _ he)⟩

theorem head_lt (h : TidyLists ((event, ls) :: rest)) : ∀ e ∈ rest, event < e.1 :=
  (List.pairwise_cons.mp h.increasing).1

theorem head_ne_nil (h : TidyLists ((event, ls) :: rest)) : ls ≠ [] :=
  h.nonempty (event, ls) List.mem_cons_self

/-- The first event occurs nowhere else. -/
theorem findIn_tail (h : TidyLists ((event, ls) :: rest)) : findIn event rest = [] :=
  findIn_of_lt h.head_lt

theorem mem_iff (h : TidyLists lists) : event ∈ lists.map Prod.fst ↔ findIn event lists ≠ [] := by
  induction lists with
  | nil => simp [findIn]
  | cons e rest ih =>
    obtain ⟨first, ls⟩ := e
    rw [List.map_cons, List.mem_cons]
    by_cases heq : first = event
    · subst heq
      rw [findIn_cons_self]
      simp [h.head_ne_nil]
    · rw [findIn_cons_of_ne heq, ← ih h.tail]
      exact or_iff_right fun hne => heq hne.symm

theorem head_le (h : TidyLists ((event, ls) :: rest))
    (hm : findIn other ((event, ls) :: rest) ≠ []) : event ≤ other := by
  rcases List.mem_cons.mp (h.mem_iff.mpr hm) with rfl | hm
  · exact le_refl _
  · obtain ⟨e, he, rfl⟩ := List.mem_map.mp hm
    exact (h.head_lt e he).le

/-- By induction: lists with the same view start with the same event, and their tails have the
same view again. -/
theorem ext {l₁ l₂ : List (String × List Listener)} (h₁ : TidyLists l₁) (h₂ : TidyLists l₂)
    (h : ∀ event, findIn event l₁ = findIn event l₂) : l₁ = l₂ := by
  induction l₁ generalizing l₂ with
  | nil =>
    cases l₂ with
    | nil => rfl
    | cons e rest =>
      have hnil : findIn e.1 (e :: rest) = [] := (h e.1).symm
      rw [findIn_cons_self] at hnil
      exact absurd hnil h₂.head_ne_nil
  | cons e₁ rest₁ ih =>
    obtain ⟨event₁, ls₁⟩ := e₁
    cases l₂ with
    | nil =>
      have hnil := h event₁
      rw [findIn_cons_self] at hnil
      exact absurd hnil h₁.head_ne_nil
    | cons e₂ rest₂ =>
      obtain ⟨event₂, ls₂⟩ := e₂
      have heq : event₁ = event₂ := by
        apply le_antisymm
        · refine h₁.head_le ?_
          rw [h event₂, findIn_cons_self]
          exact h₂.head_ne_nil
        · refine h₂.head_le ?_
          rw [← h event₁, findIn_cons_self]
          exact h₁.head_ne_nil
      subst heq
      have hls : ls₁ = ls₂ := by
        have := h event₁
        rwa [findIn_cons_self, findIn_cons_self] at this
      have hrest : rest₁ = rest₂ := by
        apply ih h₁.tail h₂.tail
        intro event
        by_cases he : event₁ = event
        · subst he
          rw [h₁.findIn_tail, h₂.findIn_tail]
        · have := h event
          rwa [findIn_cons_of_ne he, findIn_cons_of_ne he] at this
      rw [hls, hrest]

end TidyLists

/-! ## Adding a listener -/

variable {l : Listener}

theorem lt_of_mem_addIn {bound : String} (hevent : bound < event)
    (h : ∀ e ∈ lists, bound < e.1) : ∀ e ∈ addIn event l lists, bound < e.1 := by
  induction lists with
  | nil => simpa [addIn] using hevent
  | cons e rest ih =>
    obtain ⟨hfirst, hrest⟩ := List.forall_mem_cons.mp h
    simp only [addIn]
    split
    · exact List.forall_mem_cons.mpr ⟨hevent, h⟩
    split
    · exact List.forall_mem_cons.mpr ⟨hfirst, hrest⟩
    · exact List.forall_mem_cons.mpr ⟨hfirst, ih hrest⟩

theorem TidyLists.addIn (h : TidyLists lists) : TidyLists (addIn event l lists) := by
  induction lists with
  | nil => exact .cons nofun (List.cons_ne_nil _ _) .nil
  | cons e rest ih =>
    obtain ⟨first, ls⟩ := e
    simp only [Registry.addIn]
    split
    · rename_i hlt
      refine .cons ?_ (List.cons_ne_nil _ _) h
      exact List.forall_mem_cons.mpr ⟨hlt, fun e he => hlt.trans (h.head_lt e he)⟩
    split
    · exact .cons h.head_lt (by simp) h.tail
    · rename_i hnlt hne
      have hlt : first < event := lt_of_le_of_ne (not_lt.mp hnlt) (Ne.symm hne)
      exact .cons (lt_of_mem_addIn hlt h.head_lt) h.head_ne_nil (ih h.tail)

theorem TidyLists.findIn_addIn (h : TidyLists lists) (other : String) :
    findIn other (Registry.addIn event l lists) =
      if other = event then findIn event lists ++ [l] else findIn other lists := by
  induction lists with
  | nil =>
    simp only [Registry.addIn, findIn, List.nil_append, eq_comm (a := other)]
  | cons e rest ih =>
    obtain ⟨first, ls⟩ := e
    simp only [Registry.addIn]
    by_cases hother : other = event
    · subst hother
      rw [if_pos rfl]
      split
      · rename_i hlt
        have hnone : findIn other ((first, ls) :: rest) = [] :=
          findIn_of_lt (List.forall_mem_cons.mpr ⟨hlt, fun e he => hlt.trans (h.head_lt e he)⟩)
        rw [findIn_cons_self, hnone, List.nil_append]
      split
      · rename_i heq
        subst heq
        rw [findIn_cons_self, findIn_cons_self]
      · rename_i hne
        rw [findIn_cons_of_ne (Ne.symm hne), findIn_cons_of_ne (Ne.symm hne), ih h.tail,
          if_pos rfl]
    · rw [if_neg hother]
      split
      · rw [findIn_cons_of_ne (Ne.symm hother)]
      split
      · rename_i heq
        subst heq
        rw [findIn_cons_of_ne (Ne.symm hother), findIn_cons_of_ne (Ne.symm hother)]
      · simp only [findIn, ih h.tail, if_neg hother]

/-! ## Replacing the listeners of an event -/

theorem lt_of_mem_putIn {bound : String} (h : ∀ e ∈ lists, bound < e.1) :
    ∀ e ∈ putIn event ls lists, bound < e.1 := by
  induction lists with
  | nil => exact h
  | cons e rest ih =>
    obtain ⟨hfirst, hrest⟩ := List.forall_mem_cons.mp h
    simp only [putIn]
    split
    · split
      · exact hrest
      · exact List.forall_mem_cons.mpr ⟨hfirst, hrest⟩
    · exact List.forall_mem_cons.mpr ⟨hfirst, ih hrest⟩

theorem TidyLists.putIn (h : TidyLists lists) : TidyLists (putIn event ls lists) := by
  induction lists with
  | nil => exact .nil
  | cons e rest ih =>
    obtain ⟨first, old⟩ := e
    simp only [Registry.putIn]
    split
    · split
      · exact h.tail
      · rename_i hne
        exact .cons h.head_lt (fun hnil => hne (by rw [hnil]; rfl)) h.tail
    · exact .cons (lt_of_mem_putIn h.head_lt) h.head_ne_nil (ih h.tail)

/-- An event that has no listeners gets none in this way. -/
theorem TidyLists.findIn_putIn (h : TidyLists lists) (hls : findIn event lists = [] → ls = [])
    (other : String) :
    findIn other (Registry.putIn event ls lists) =
      if other = event then ls else findIn other lists := by
  induction lists with
  | nil =>
    rw [hls rfl]
    simp [Registry.putIn, findIn]
  | cons e rest ih =>
    obtain ⟨first, old⟩ := e
    simp only [Registry.putIn]
    split
    · rename_i heq
      subst heq
      by_cases hother : other = first
      · subst hother
        rw [if_pos rfl]
        split
        · rename_i hempty
          rw [h.findIn_tail, List.isEmpty_iff.mp hempty]
        · exact findIn_cons_self
      · rw [if_neg hother]
        split
        · rw [findIn_cons_of_ne (Ne.symm hother)]
        · rw [findIn_cons_of_ne (Ne.symm hother), findIn_cons_of_ne (Ne.symm hother)]
    · rename_i hne
      rw [findIn_cons_of_ne hne] at hls
      have hrest := ih h.tail hls
      by_cases hother : other = event
      · subst hother
        rw [findIn_cons_of_ne hne, hrest, if_pos rfl, if_pos rfl]
      · simp only [findIn, hrest, if_neg hother]

end

/-! ## Registries -/

/-- The events of a registry increase, and each of them has listeners. -/
def Tidy (r : Registry) : Prop := TidyLists r.lists

namespace Tidy

variable {r : Registry}

theorem empty : Tidy .empty := TidyLists.nil

theorem add (h : r.Tidy) (event : String) (l : Listener) : (r.add event l).Tidy :=
  TidyLists.addIn h

theorem removeFirst (h : r.Tidy) (event : String) (p : Listener → Bool) :
    (r.removeFirst event p).2.Tidy := by
  unfold Registry.removeFirst
  split
  · exact TidyLists.putIn h
  · exact h

theorem clear (h : r.Tidy) (event : String) : (r.clear event).2.Tidy := TidyLists.putIn h

theorem find_add (h : r.Tidy) (event : String) (l : Listener) (other : String) :
    (r.add event l).find other =
      if other = event then r.find event ++ [l] else r.find other :=
  TidyLists.findIn_addIn h other

theorem find_removeFirst (h : r.Tidy) (event : String) (p : Listener → Bool) (other : String) :
    (r.removeFirst event p).2.find other =
      if other = event then (r.find event).eraseP p else r.find other := by
  unfold Registry.removeFirst
  split
  · refine TidyLists.findIn_putIn h (fun hnil => ?_) other
    have hfind : r.find event = [] := hnil
    rw [hfind]
    rfl
  · rename_i hnone
    have hkeep : (r.find event).eraseP p = r.find event :=
      List.eraseP_of_forall_not fun l hl hp => hnone (List.any_eq_true.mpr ⟨l, hl, hp⟩)
    rw [hkeep]
    split
    · rename_i heq
      rw [heq]
    · rfl

theorem find_clear (h : r.Tidy) (event other : String) :
    (r.clear event).2.find other = if other = event then [] else r.find other :=
  TidyLists.findIn_putIn h (fun _ => rfl) other

theorem events_increasing (h : r.Tidy) : r.events.Pairwise (· < ·) :=
  List.pairwise_map.mpr h.increasing

theorem mem_events (h : r.Tidy) {event : String} : event ∈ r.events ↔ 0 < r.count event := by
  rw [count, List.length_pos_iff]
  exact TidyLists.mem_iff h

theorem ext {r₁ r₂ : Registry} (h₁ : r₁.Tidy) (h₂ : r₂.Tidy)
    (h : ∀ event, r₁.find event = r₂.find event) : r₁ = r₂ := by
  obtain ⟨lists₁⟩ := r₁
  obtain ⟨lists₂⟩ := r₂
  exact congrArg mk (TidyLists.ext h₁ h₂ h)

end Tidy

/-- A removal succeeds exactly if there is a listener to remove. -/
theorem removeFirst_fst (r : Registry) (event : String) (p : Listener → Bool) :
    (r.removeFirst event p).1 = (r.find event).any p := by
  unfold removeFirst
  split
  · rename_i h
    exact h.symm
  · rename_i h
    exact (Bool.eq_false_iff.mpr h).symm

end Registry
end EventRelay
