import Mathlib
import EventRelay.Proofs.Adapter.Slots

/-!
# EventRelay.Proofs.Adapter.TypeSpace

One type per descriptor, over any sequence of calls.

* `Synthesized`: the four things that one call can do. `Sound.synthesized` shows that there are
  no others, as long as the space is `Sound`; a call keeps it so.
* `after`, `answers`: a sequence of calls in a fresh process.
* `Consistent`: what links the cache, the installed types and the serial number to the calls.
* `synthesis_faithful`: what callers see of it.
-/

namespace EventRelay
namespace TypeSpace

theorem serialName_inj {m n : Nat} : serialName m = serialName n ↔ m = n := by
  refine ⟨fun h => ?_, fun h => h ▸ rfl⟩
  have h' : Nat.repr m = Nat.repr n := (String.append_right_inj _).mp h
  exact Nat.repr_inj.mp h'

/-- Every type is what its descriptor generates, and no installed name is newer than the serial
number. -/
structure Sound (space : TypeSpace) : Prop where
  generated : ∀ t ∈ space.cache, AdapterType.generate t.name t.descriptor = .ok t
  numbered : ∀ t ∈ space.installed, ∃ n, n ≤ space.serial ∧ t.name = serialName n

/-- What a call does to a space, and what it answers. -/
inductive Synthesized (space : TypeSpace) (d : Descriptor) :
    Except AdapterError AdapterType × TypeSpace → Prop where
  /-- The descriptor cannot be adapted. -/
  | refused (e : ConstructionError) :
      d.validate = .error e → Synthesized space d (.error (.construction e), space)
  /-- There is a type already. -/
  | known (t : AdapterType) :
      d.validate = .ok () → t ∈ space.cache → t.descriptor = d →
      Synthesized space d (.ok t, space)
  /-- A method repeats another; the number is used up. -/
  | repeated (m : Method) :
      d.validate = .ok () → (∀ t ∈ space.cache, t.descriptor ≠ d) → d.FirstRepeated m →
      ¬ d.keys.Nodup →
      Synthesized space d (.error (.generation (.duplicateSlot d.name m.name m.signature)),
        { space with serial := space.serial + 1 })
  /-- A new type, under the next number. -/
  | made (t : AdapterType) :
      d.validate = .ok () → (∀ t ∈ space.cache, t.descriptor ≠ d) → d.keys.Nodup →
      t = ⟨serialName (space.serial + 1), d, d.slots⟩ →
      Synthesized space d
        (.ok t, ⟨space.cache ++ [t], space.installed ++ [t], space.serial + 1⟩)

theorem cached?_eq_none {space : TypeSpace} {d : Descriptor} (h : space.cached? d = none) :
    ∀ t ∈ space.cache, t.descriptor ≠ d := by
  intro t ht heq
  have := List.find?_eq_none.mp h t ht
  simp [heq] at this

theorem cached?_eq_some {space : TypeSpace} {d : Descriptor} {t : AdapterType}
    (h : space.cached? d = some t) : t ∈ space.cache ∧ t.descriptor = d :=
  ⟨List.mem_of_find?_eq_some h, by simpa using List.find?_some h⟩

namespace Sound

variable {space : TypeSpace}

theorem empty : TypeSpace.empty.Sound :=
  ⟨fun _ h => absurd h List.not_mem_nil, fun _ h => absurd h List.not_mem_nil⟩

/-- The next name is free. -/
theorem lookup_next (h : space.Sound) : space.lookup (serialName (space.serial + 1)) = none := by
  refine List.find?_eq_none.mpr fun t ht => ?_
  obtain ⟨n, hn, hname⟩ := h.numbered t ht
  rw [hname, beq_iff_eq, serialName_inj]
  omega

theorem synthesized (h : space.Sound) (d : Descriptor) :
    Synthesized space d (space.synthesize d) := by
  unfold synthesize
  cases hv : d.validate with
  | error e => exact .refused e hv
  | ok _ =>
    cases hc : space.cached? d with
    | some t => exact .known t hv (cached?_eq_some hc).1 (cached?_eq_some hc).2
    | none =>
      have hnew := cached?_eq_none hc
      by_cases hk : d.keys.Nodup
      · have hl : ({ space with serial := space.serial + 1 } : TypeSpace).lookup
            (serialName (space.serial + 1)) = none := h.lookup_next
        simp only [create, AdapterType.generate_of_nodup _ hk, install, hl]
        exact .made _ hv hnew hk rfl
      · obtain ⟨m, hm, hg⟩ := AdapterType.generate_of_not_nodup (serialName (space.serial + 1)) hk
        simp only [create, hg]
        exact .repeated m hv hnew hm hk

theorem synthesize (h : space.Sound) (d : Descriptor) : (space.synthesize d).2.Sound := by
  have hs := h.synthesized d
  generalize space.synthesize d = out at hs ⊢
  have hgrow : ∀ t ∈ space.installed, ∃ n, n ≤ space.serial + 1 ∧ t.name = serialName n := by
    intro t ht
    obtain ⟨n, hn, hname⟩ := h.numbered t ht
    exact ⟨n, by omega, hname⟩
  cases hs with
  | refused => exact h
  | known => exact h
  | repeated => exact ⟨h.generated, hgrow⟩
  | made t _ _ hk ht =>
    subst ht
    constructor
    · intro t ht
      rcases List.mem_append.mp ht with ht | ht
      · exact h.generated t ht
      · rw [List.mem_singleton.mp ht]
        exact AdapterType.generate_of_nodup _ hk
    · intro t ht
      rcases List.mem_append.mp ht with ht | ht
      · exact hgrow t ht
      · rw [List.mem_singleton.mp ht]
        exact ⟨space.serial + 1, le_refl _, rfl⟩

end Sound

/-! ## Sequences of calls -/

/-- A call: what was asked for, and the answer. -/
abbrev Call := Descriptor × Except AdapterError AdapterType

/-- The space of a fresh process after calls, the latest in front. -/
def after : List Descriptor → TypeSpace
  | [] => empty
  | d :: earlier => ((after earlier).synthesize d).2

/-- The calls with their answers, the latest in front. -/
def answers : List Descriptor → List Call
  | [] => []
  | d :: earlier => (d, ((after earlier).synthesize d).1) :: answers earlier

/-- The descriptor of a call that got a type. -/
def accepted? (c : Call) : Option Descriptor :=
  match c.2 with
  | .ok _ => some c.1
  | .error _ => none

/-- The descriptors that were asked for and got a type. -/
def accepted (calls : List Descriptor) : List Descriptor := (answers calls).filterMap accepted?

/-- How many calls passed validation for a descriptor that had no type yet. -/
def misses : List Descriptor → Nat
  | [] => 0
  | d :: earlier =>
    if d.validate.isOk ∧ d ∉ accepted earlier then misses earlier + 1 else misses earlier

theorem mem_accepted {calls : List Descriptor} {d : Descriptor} :
    d ∈ accepted calls ↔ ∃ t, (d, .ok t) ∈ answers calls := by
  simp only [accepted, List.mem_filterMap]
  constructor
  · rintro ⟨⟨d', answer⟩, hmem, h⟩
    cases answer with
    | error e => cases h
    | ok t => cases h; exact ⟨t, hmem⟩
  · rintro ⟨t, ht⟩
    exact ⟨_, ht, rfl⟩

/-- What links a space to the calls it comes from, of which `used` took a number. -/
structure Consistent (log : List Call) (used : Nat) (space : TypeSpace) : Prop where
  sound : space.Sound
  installed_eq : space.installed = space.cache
  mem_log : ∀ d t, (d, .ok t) ∈ log ↔ t ∈ space.cache ∧ t.descriptor = d
  descriptors : (space.cache.map AdapterType.descriptor).Nodup
  names : (space.cache.map AdapterType.name).Nodup
  serial_eq : space.serial = used
  no_collision : ∀ d name, (d, .error (.generation (.nameCollision name))) ∉ log

namespace Consistent

variable {log : List Call} {used : Nat} {space : TypeSpace}

theorem start : Consistent [] 0 TypeSpace.empty where
  sound := .empty
  installed_eq := rfl
  mem_log _ _ := by simp [TypeSpace.empty]
  descriptors := List.nodup_nil
  names := List.nodup_nil
  serial_eq := rfl
  no_collision _ _ := List.not_mem_nil

/-- A call that fails may take a number, and changes nothing else. -/
theorem fail (h : Consistent log used space) (d : Descriptor) {e : AdapterError}
    (he : ∀ name, e ≠ .generation (.nameCollision name)) {used' : Nat} {space' : TypeSpace}
    (hs : space'.Sound) (hcache : space'.cache = space.cache)
    (hinstalled : space'.installed = space.installed) (hserial : space'.serial = used') :
    Consistent ((d, .error e) :: log) used' space' where
  sound := hs
  installed_eq := by rw [hinstalled, hcache, h.installed_eq]
  mem_log d' t := by rw [hcache, ← h.mem_log d' t]; simp
  descriptors := hcache ▸ h.descriptors
  names := hcache ▸ h.names
  serial_eq := hserial
  no_collision d' name hmem := by
    rcases List.mem_cons.mp hmem with heq | hmem
    · cases heq; exact he name rfl
    · exact h.no_collision d' name hmem

/-- A call that is answered from the cache changes nothing. -/
theorem hit (h : Consistent log used space) {t : AdapterType} (ht : t ∈ space.cache) :
    Consistent ((t.descriptor, .ok t) :: log) used space where
  __ := h
  mem_log d' t' := by
    rw [List.mem_cons, h.mem_log d' t']
    constructor
    · rintro (heq | hmem)
      · cases heq; exact ⟨ht, rfl⟩
      · exact hmem
    · exact .inr
  no_collision d' name hmem := by
    rcases List.mem_cons.mp hmem with heq | hmem
    · cases heq
    · exact h.no_collision d' name hmem

/-- The next name is not among those of the cache. -/
theorem serialName_not_mem (h : Consistent log used space) :
    serialName (space.serial + 1) ∉ space.cache.map AdapterType.name := by
  intro hmem
  obtain ⟨t, ht, hname⟩ := List.mem_map.mp hmem
  obtain ⟨n, hn, hname'⟩ := h.sound.numbered t (h.installed_eq ▸ ht)
  have := serialName_inj.mp (hname'.symm.trans hname)
  omega

/-- A call that makes a type takes a number and adds the type to cache and installed types. -/
theorem grow (h : Consistent log used space) {t : AdapterType}
    (hname : t.name = serialName (space.serial + 1))
    (hnew : ∀ t' ∈ space.cache, t'.descriptor ≠ t.descriptor)
    (hs : Sound ⟨space.cache ++ [t], space.installed ++ [t], space.serial + 1⟩) :
    Consistent ((t.descriptor, .ok t) :: log) (used + 1)
      ⟨space.cache ++ [t], space.installed ++ [t], space.serial + 1⟩ where
  sound := hs
  installed_eq := by rw [h.installed_eq]
  mem_log d' t' := by
    rw [List.mem_cons, h.mem_log d' t', List.mem_append, List.mem_singleton]
    constructor
    · rintro (heq | ⟨hmem, heq⟩)
      · cases heq; exact ⟨.inr rfl, rfl⟩
      · exact ⟨.inl hmem, heq⟩
    · rintro ⟨hmem | rfl, heq⟩
      · exact .inr ⟨hmem, heq⟩
      · exact .inl (by rw [heq])
  descriptors := by
    rw [List.map_append, List.nodup_append]
    refine ⟨h.descriptors, List.nodup_singleton _, ?_⟩
    rintro _ hmem _ hmem' rfl
    obtain ⟨t', ht', heq⟩ := List.mem_map.mp hmem
    exact hnew t' ht' (heq.trans (List.mem_singleton.mp hmem'))
  names := by
    rw [List.map_append, List.nodup_append]
    refine ⟨h.names, List.nodup_singleton _, ?_⟩
    rintro _ hmem _ hmem' rfl
    rw [List.mem_singleton.mp hmem', hname] at hmem
    exact h.serialName_not_mem hmem
  serial_eq := by rw [← h.serial_eq]
  no_collision d' name hmem := by
    rcases List.mem_cons.mp hmem with heq | hmem
    · cases heq
    · exact h.no_collision d' name hmem

end Consistent

/-- A descriptor was accepted exactly if there is a type for it. -/
theorem Consistent.mem_accepted_iff {calls : List Descriptor} {used : Nat} {space : TypeSpace}
    (h : Consistent (answers calls) used space) {d : Descriptor} :
    d ∈ accepted calls ↔ ∃ t ∈ space.cache, t.descriptor = d := by
  rw [mem_accepted]
  exact exists_congr fun t => h.mem_log d t

theorem misses_of_invalid {d : Descriptor} {e : ConstructionError} (earlier : List Descriptor)
    (h : d.validate = .error e) : misses (d :: earlier) = misses earlier := by
  simp [misses, h, Except.isOk, Except.toBool]

theorem misses_of_mem {d : Descriptor} {earlier : List Descriptor} (h : d ∈ accepted earlier) :
    misses (d :: earlier) = misses earlier := by
  simp [misses, h]

theorem misses_of_not_mem {d : Descriptor} {earlier : List Descriptor}
    (hv : d.validate = .ok ()) (h : d ∉ accepted earlier) :
    misses (d :: earlier) = misses earlier + 1 := by
  simp [misses, h, hv, Except.isOk, Except.toBool]

/-- Every sequence of calls leaves a consistent space. -/
theorem consistent (calls : List Descriptor) :
    Consistent (answers calls) (misses calls) (after calls) := by
  induction calls with
  | nil => exact .start
  | cons d calls ih =>
    have hsound := ih.sound.synthesize d
    have hs := ih.sound.synthesized d
    have hnone : (∀ t ∈ (after calls).cache, t.descriptor ≠ d) → d ∉ accepted calls := by
      intro hnew hd
      obtain ⟨t, ht, heq⟩ := ih.mem_accepted_iff.mp hd
      exact hnew t ht heq
    simp only [answers, after]
    generalize (after calls).synthesize d = out at hs hsound
    cases hs with
    | refused e hv =>
      rw [misses_of_invalid calls hv]
      exact ih.fail d (by simp) hsound rfl rfl ih.serial_eq
    | known t hv ht heq =>
      rw [misses_of_mem (ih.mem_accepted_iff.mpr ⟨t, ht, heq⟩), ← heq]
      exact ih.hit ht
    | repeated m hv hnew hm hk =>
      rw [misses_of_not_mem hv (hnone hnew)]
      exact ih.fail d (by simp) hsound rfl rfl (by rw [← ih.serial_eq])
    | made t hv hnew hk ht =>
      rw [misses_of_not_mem hv (hnone hnew)]
      subst ht
      exact ih.grow rfl hnew hsound

/-! ## What callers see -/

/-- What a sequence of calls in a fresh process, the latest in front, answers and leaves behind. -/
structure Faithful (calls : List Descriptor) : Prop where
  /-- Two answers are the same type exactly if the descriptors are the same. -/
  same_iff : ∀ {d₁ t₁ d₂ t₂}, (d₁, .ok t₁) ∈ answers calls → (d₂, .ok t₂) ∈ answers calls →
    (t₁ = t₂ ↔ d₁ = d₂)
  carries : ∀ {d t}, (d, .ok t) ∈ answers calls → t.descriptor = d
  /-- There is a slot for each method and no other, in declaration order. -/
  slot : ∀ {d t}, (d, .ok t) ∈ answers calls → t.slots.length = d.methods.length ∧
    ∀ (i : Nat) (m : Method), d.methods[i]? = some m →
      t.slots[i]? = some ⟨i, m, m.signature, .ofType m.ret⟩
  slots_nodup : ∀ {d t}, (d, .ok t) ∈ answers calls →
    (t.slots.map fun slot => (slot.name, slot.signature)).Nodup
  /-- Different types have different names. -/
  names : ∀ {d₁ t₁ d₂ t₂}, (d₁, .ok t₁) ∈ answers calls → (d₂, .ok t₂) ∈ answers calls →
    t₁.name = t₂.name → t₁ = t₂
  lookup_iff : ∀ {name t}, (after calls).lookup name = some t ↔
    t.name = name ∧ (t.descriptor, .ok t) ∈ answers calls
  installedCount : (after calls).installedCount = (accepted calls).dedup.length
  no_collision : ∀ d name, (d, .error (.generation (.nameCollision name))) ∉ answers calls
  /-- A further call that fails leaves all types as they are. -/
  failure : ∀ {d e}, ((after calls).synthesize d).1 = .error e →
    ((after calls).synthesize d).2.cache = (after calls).cache ∧
      ((after calls).synthesize d).2.installed = (after calls).installed
  /-- A further call that makes a type numbers it by the calls that took a number before. -/
  number : ∀ {d t}, ((after calls).synthesize d).1 = .ok t → d ∉ accepted calls →
    t.name = "EventAdapter" ++ toString (misses calls + 1)

namespace Consistent

variable {calls : List Descriptor} {used : Nat} {space : TypeSpace}

/-- A type that was answered is the one that its descriptor generates. -/
theorem eq_of_mem_log (h : Consistent (answers calls) used space) {d : Descriptor}
    {t : AdapterType} (hmem : (d, .ok t) ∈ answers calls) :
    t = ⟨t.name, d, d.slots⟩ ∧ d.keys.Nodup := by
  obtain ⟨ht, rfl⟩ := (h.mem_log d t).mp hmem
  exact AdapterType.generate_eq_ok_iff.mp (h.sound.generated t ht)

theorem installed_length (h : Consistent (answers calls) used space) :
    space.installed.length = (accepted calls).dedup.length := by
  have hperm : (space.cache.map AdapterType.descriptor).Perm (accepted calls).dedup := by
    refine (List.perm_ext_iff_of_nodup h.descriptors (List.nodup_dedup _)).mpr fun d => ?_
    rw [List.mem_dedup, h.mem_accepted_iff, List.mem_map]
  rw [h.installed_eq, ← List.length_map AdapterType.descriptor]
  exact hperm.length_eq

theorem lookup_iff (h : Consistent (answers calls) used space) {name : String}
    {t : AdapterType} :
    space.lookup name = some t ↔ t.name = name ∧ (t.descriptor, .ok t) ∈ answers calls := by
  rw [h.mem_log t.descriptor t, lookup, h.installed_eq]
  constructor
  · intro hfind
    exact ⟨by simpa using List.find?_some hfind, List.mem_of_find?_eq_some hfind, rfl⟩
  · rintro ⟨rfl, hmem, -⟩
    cases hfind : space.cache.find? (fun t' => t'.name == t.name) with
    | none => exact absurd (List.find?_eq_none.mp hfind t hmem) (by simp)
    | some t' =>
      have hname : t'.name = t.name := by simpa using List.find?_some hfind
      rw [List.inj_on_of_nodup_map h.names (List.mem_of_find?_eq_some hfind) hmem hname]

end Consistent

/-- Types are made once per descriptor and found by their names, over any sequence of calls. -/
theorem synthesis_faithful (calls : List Descriptor) : Faithful calls := by
  have h := consistent calls
  refine ⟨?_, ?_, ?_, ?_, ?_, h.lookup_iff, h.installed_length, h.no_collision, ?_, ?_⟩
  · intro d₁ t₁ d₂ t₂ h₁ h₂
    obtain ⟨ht₁, rfl⟩ := (h.mem_log d₁ t₁).mp h₁
    obtain ⟨ht₂, rfl⟩ := (h.mem_log d₂ t₂).mp h₂
    exact ⟨fun heq => heq ▸ rfl, List.inj_on_of_nodup_map h.descriptors ht₁ ht₂⟩
  · intro d t hmem
    exact ((h.mem_log d t).mp hmem).2
  · intro d t hmem
    rw [(h.eq_of_mem_log hmem).1]
    refine ⟨by simp [Descriptor.slots], fun i m hm => ?_⟩
    rw [Descriptor.getElem?_slots, hm]
    rfl
  · intro d t hmem
    obtain ⟨heq, hnd⟩ := h.eq_of_mem_log hmem
    rw [heq, Descriptor.slots_map_key]
    exact hnd
  · intro d₁ t₁ d₂ t₂ h₁ h₂ hname
    exact List.inj_on_of_nodup_map h.names ((h.mem_log d₁ t₁).mp h₁).1
      ((h.mem_log d₂ t₂).mp h₂).1 hname
  · intro d e he
    have hs := h.sound.synthesized d
    generalize (after calls).synthesize d = out at hs he ⊢
    cases hs with
    | refused => exact ⟨rfl, rfl⟩
    | known => cases he
    | repeated => exact ⟨rfl, rfl⟩
    | made => cases he
  · intro d t ht hd
    have hs := h.sound.synthesized d
    generalize (after calls).synthesize d = out at hs ht
    cases hs with
    | refused => cases ht
    | known t' hv ht' heq => exact absurd (h.mem_accepted_iff.mpr ⟨t', ht', heq⟩) hd
    | repeated => cases ht
    | made t' hv hnew hk heq =>
      cases ht
      rw [heq, ← h.serial_eq]
      rfl

end TypeSpace
end EventRelay
