import Mathlib.Data.List.Nodup
import EventRelay.Adapter.TypeSpace

/-!
# EventRelay.Proofs.Adapter.Slots

When a slot table can be made, and what it holds.

* `Descriptor.slots`: the table that a descriptor should have, one slot per method in declaration
  order.
* `generate_of_nodup`, `generate_of_not_nodup`: a type is generated, with exactly this table, if
  and only if no two methods share name and signature; otherwise the first method that repeats an
  earlier one is blamed.
-/

namespace EventRelay

/-- What no two slots of a type may share. -/
def Method.key (m : Method) : String × String := (m.name, m.signature)

namespace Descriptor

/-- The keys of the methods, in declaration order. -/
def keys (d : Descriptor) : List (String × String) := d.methods.map Method.key

/-- The slots of the methods, in declaration order. -/
def slots (d : Descriptor) : List Slot := d.methods.mapIdx Slot.ofMethod

/-- `m` is the first method that repeats an earlier one. -/
def FirstRepeated (d : Descriptor) (m : Method) : Prop :=
  ∃ before after, d.methods = before ++ m :: after ∧ (before.map Method.key).Nodup ∧
    m.key ∈ before.map Method.key

theorem slots_map_key (d : Descriptor) :
    d.slots.map (fun s => (s.name, s.signature)) = d.keys := by
  apply List.ext_getElem?
  intro i
  cases h : d.methods[i]? <;>
    simp [slots, keys, h, Slot.ofMethod, Slot.name, Method.key]

theorem getElem?_slots (d : Descriptor) (i : Nat) :
    d.slots[i]? = d.methods[i]?.map (Slot.ofMethod i) := by
  simp [slots]

end Descriptor

/-- Without a repetition the table is made. `seen` are the keys of the methods before these. -/
theorem slotsOf_of_nodup (interface : String) (ms : List Method) :
    ∀ (index : Nat) (seen : List (String × String)), (ms.map Method.key).Nodup →
      (∀ m ∈ ms, m.key ∉ seen) →
      slotsOf interface ms index seen =
        .ok (ms.mapIdx fun i m => Slot.ofMethod (index + i) m) := by
  induction ms with
  | nil => intro index seen _ _; rfl
  | cons m rest ih =>
    intro index seen hnd hseen
    rw [List.map_cons, List.nodup_cons] at hnd
    have hm : (m.name, m.signature) ∉ seen := hseen m (List.mem_cons_self ..)
    have hrest : ∀ m' ∈ rest, m'.key ∉ (m.name, m.signature) :: seen := by
      intro m' hm' hin
      rcases List.mem_cons.mp hin with heq | hin
      · exact hnd.1 (List.mem_map.mpr ⟨m', hm', heq⟩)
      · exact hseen m' (List.mem_cons_of_mem _ hm') hin
    simp only [slotsOf, if_neg hm, ih (index + 1) _ hnd.2 hrest]
    simp [List.mapIdx_cons, Nat.add_assoc, Nat.add_comm 1]

/-- With a repetition the first method that repeats one is blamed. -/
theorem slotsOf_of_not_nodup (interface : String) (ms : List Method) :
    ∀ (index : Nat) (seen : List (String × String)),
      (¬ (ms.map Method.key).Nodup ∨ ∃ m ∈ ms, m.key ∈ seen) →
      ∃ before m after, ms = before ++ m :: after ∧ (before.map Method.key).Nodup ∧
        (∀ m' ∈ before, m'.key ∉ seen) ∧ (m.key ∈ seen ∨ m.key ∈ before.map Method.key) ∧
        slotsOf interface ms index seen = .error (.duplicateSlot interface m.name m.signature) := by
  induction ms with
  | nil => intro index seen h; simp at h
  | cons m rest ih =>
    intro index seen h
    by_cases hm : (m.name, m.signature) ∈ seen
    · exact ⟨[], m, rest, rfl, List.nodup_nil, by simp, .inl hm, by simp [slotsOf, hm]⟩
    · have hrest : ¬ (rest.map Method.key).Nodup ∨ ∃ m' ∈ rest, m'.key ∈ m.key :: seen := by
        rw [List.map_cons, List.nodup_cons] at h
        rcases h with h | ⟨m', hm', hin⟩
        · by_cases hk : m.key ∈ rest.map Method.key
          · obtain ⟨m', hm', heq⟩ := List.mem_map.mp hk
            exact .inr ⟨m', hm', heq ▸ List.mem_cons_self ..⟩
          · exact .inl fun hnd => h ⟨hk, hnd⟩
        · rcases List.mem_cons.mp hm' with rfl | hm'
          · exact absurd hin hm
          · exact .inr ⟨m', hm', List.mem_cons_of_mem _ hin⟩
      obtain ⟨before, d, after, rfl, hnd, hseen, hd, heq⟩ := ih (index + 1) _ hrest
      refine ⟨m :: before, d, after, rfl, ?_, ?_, ?_, ?_⟩
      · rw [List.map_cons, List.nodup_cons]
        refine ⟨fun hin => ?_, hnd⟩
        obtain ⟨m', hm', he⟩ := List.mem_map.mp hin
        exact hseen m' hm' (he ▸ List.mem_cons_self ..)
      · intro m' hm' hin
        rcases List.mem_cons.mp hm' with rfl | hm'
        · exact hm hin
        · exact hseen m' hm' (List.mem_cons_of_mem _ hin)
      · rcases hd with hd | hd
        · rcases List.mem_cons.mp hd with hd | hd
          · exact .inr (by rw [hd]; exact List.mem_cons_self ..)
          · exact .inl hd
        · exact .inr (List.mem_cons_of_mem _ hd)
      · have heq' : slotsOf interface (before ++ d :: after) (index + 1)
            ((m.name, m.signature) :: seen) =
              .error (.duplicateSlot interface d.name d.signature) := heq
        simp [slotsOf, hm, heq']

namespace AdapterType

theorem generate_of_nodup {d : Descriptor} (name : String) (h : d.keys.Nodup) :
    generate name d = .ok ⟨name, d, d.slots⟩ := by
  simp only [generate, slotsOf_of_nodup d.name d.methods 0 [] h (by simp), Nat.zero_add]
  rfl

theorem generate_of_not_nodup {d : Descriptor} (name : String) (h : ¬ d.keys.Nodup) :
    ∃ m, d.FirstRepeated m ∧
      generate name d = .error (.duplicateSlot d.name m.name m.signature) := by
  obtain ⟨before, m, after, heq, hnd, _, hm, hs⟩ :=
    slotsOf_of_not_nodup d.name d.methods 0 [] (.inl h)
  exact ⟨m, ⟨before, after, heq, hnd, by simpa using hm⟩, by simp [generate, hs]⟩

/-- A generated type carries its name, its descriptor and the table of it. -/
theorem generate_eq_ok_iff {name : String} {d : Descriptor} {t : AdapterType} :
    generate name d = .ok t ↔ t = ⟨name, d, d.slots⟩ ∧ d.keys.Nodup := by
  by_cases h : d.keys.Nodup
  · rw [generate_of_nodup name h]
    simp [h, eq_comm]
  · obtain ⟨m, _, hm⟩ := generate_of_not_nodup name h
    simp [hm, h]

end AdapterType

end EventRelay
