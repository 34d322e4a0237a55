import EventRelay.Proofs.Interface.Typed

/-!
# EventRelay.Proofs.Adapter.Verdict

What becomes of a descriptor, whatever was adapted before it.

* `FirstAt`: the first element of a list with a property.
* `Descriptor.FirstUnfit`: the parameter that is blamed, the first unfit one of the first method
  that has any. `of_validate_eq_error` says that validation finds it.
* `Descriptor.HasRepeat`: a method repeats the name and the signature of an earlier one.
* `Judged`: the four outcomes, each exactly where it belongs, and whom they name.
* `Sound.synthesize_content`: the outcome but for the name depends on the descriptor alone.
-/

namespace EventRelay

open Interface (Reachable)

/-! ## First elements -/

section

variable {α : Type} {p : α → Prop} {a b : α} {xs : List α} {i : Nat}

/-- `a` is the first element of a list with a property, and stands at the index. -/
def FirstAt (p : α → Prop) (xs : List α) (i : Nat) (a : α) : Prop :=
  ∃ before after, xs = before ++ a :: after ∧ before.length = i ∧ (∀ b ∈ before, ¬ p b) ∧ p a

theorem firstAt_cons_of_pos (h : p b) : FirstAt p (b :: xs) i a ↔ i = 0 ∧ a = b := by
  constructor
  · rintro ⟨before, after, hsplit, hlength, hbefore, ha⟩
    cases before with
    | nil =>
      cases hsplit
      exact ⟨hlength.symm, rfl⟩
    | cons c before =>
      obtain ⟨rfl, -⟩ := List.cons.inj hsplit
      exact absurd h (hbefore b List.mem_cons_self)
  · rintro ⟨rfl, rfl⟩
    exact ⟨[], xs, rfl, rfl, nofun, h⟩

theorem firstAt_cons_of_neg (h : ¬ p b) :
    FirstAt p (b :: xs) i a ↔ ∃ j, i = j + 1 ∧ FirstAt p xs j a := by
  constructor
  · rintro ⟨before, after, hsplit, rfl, hbefore, ha⟩
    cases before with
    | nil =>
      cases hsplit
      exact absurd ha h
    | cons c before =>
      obtain ⟨-, rfl⟩ := List.cons.inj hsplit
      exact ⟨before.length, rfl, before, after, rfl, rfl,
        fun b hb => hbefore b (List.mem_cons_of_mem _ hb), ha⟩
  · rintro ⟨_, rfl, before, after, rfl, rfl, hbefore, ha⟩
    exact ⟨b :: before, after, rfl, rfl, List.forall_mem_cons.mpr ⟨h, hbefore⟩, ha⟩

theorem FirstAt.mem (h : FirstAt p xs i a) : a ∈ xs ∧ p a := by
  obtain ⟨before, after, rfl, -, -, ha⟩ := h
  exact ⟨by simp, ha⟩

end

/-! ## Parameters -/

/-- A type that no parameter may have: neither a named type nor an array. -/
inductive TypeRef.Unfit : TypeRef → Prop where
  | void : Unfit .void
  | primitive (kind : Primitive) : Unfit (.primitive kind)

theorem TypeRef.unfit_iff {t : TypeRef} : t.Unfit ↔ t.isReference = false := by
  constructor
  · rintro (_ | _) <;> rfl
  · intro h
    cases t with
    | void => exact .void
    | primitive kind => exact .primitive kind
    | reference | array => cases h

namespace Method

/-- Some parameter is unfit. -/
def Unfit (m : Method) : Prop := ∃ t ∈ m.params, t.Unfit

theorem firstPrimitive?_eq_some_iff {ts : List TypeRef} {start i : Nat} {t : TypeRef} :
    firstPrimitive? ts start = some (i, t) ↔
      ∃ j, i = start + j ∧ FirstAt TypeRef.Unfit ts j t := by
  induction ts generalizing start with
  | nil =>
    refine iff_of_false nofun ?_
    rintro ⟨_, _, hfirst⟩
    cases hfirst.mem.1
  | cons t' rest ih =>
    rw [firstPrimitive?]
    cases href : t'.isReference with
    | false =>
      simp only [firstAt_cons_of_pos (TypeRef.unfit_iff.mpr href)]
      grind
    | true =>
      have hfit : ¬ t'.Unfit := by simp [TypeRef.unfit_iff, href]
      simp only [firstAt_cons_of_neg hfit, if_true, ih]
      grind

theorem firstPrimitive?_eq_none_iff {ts : List TypeRef} {start : Nat} :
    firstPrimitive? ts start = none ↔ ∀ t ∈ ts, ¬ t.Unfit := by
  induction ts generalizing start with
  | nil => exact iff_of_true rfl nofun
  | cons t rest ih =>
    rw [firstPrimitive?, List.forall_mem_cons, TypeRef.unfit_iff]
    cases t.isReference with
    | false => simp
    | true => simp [ih]

theorem primitiveParameter?_eq_some_iff {m : Method} {i : Nat} {t : TypeRef} :
    m.primitiveParameter? = some (i, t) ↔ FirstAt TypeRef.Unfit m.params i t := by
  simp [primitiveParameter?, firstPrimitive?_eq_some_iff]

theorem primitiveParameter?_eq_none_iff {m : Method} :
    m.primitiveParameter? = none ↔ ¬ m.Unfit := by
  simp [primitiveParameter?, firstPrimitive?_eq_none_iff, Unfit]

end Method

namespace Descriptor

variable {d : Descriptor}

/-- Some parameter of some method is unfit. -/
def HasUnfit (d : Descriptor) : Prop := ∃ m ∈ d.methods, m.Unfit

/-- `m` is the first method with an unfit parameter, and `t` the first such parameter of it. -/
def FirstUnfit (d : Descriptor) (m : Method) (index : Nat) (t : TypeRef) : Prop :=
  (∃ k, FirstAt Method.Unfit d.methods k m) ∧ FirstAt TypeRef.Unfit m.params index t

theorem FirstUnfit.hasUnfit {m : Method} {i : Nat} {t : TypeRef} (h : d.FirstUnfit m i t) :
    d.HasUnfit := by
  obtain ⟨⟨_, hfirst⟩, -⟩ := h
  exact ⟨m, hfirst.mem⟩

theorem firstPrimitive?_eq_none_iff {ms : List Method} :
    firstPrimitive? ms = none ↔ ∀ m ∈ ms, ¬ m.Unfit := by
  induction ms with
  | nil => exact iff_of_true rfl nofun
  | cons m rest ih =>
    rw [firstPrimitive?, List.forall_mem_cons, ← Method.primitiveParameter?_eq_none_iff]
    cases m.primitiveParameter? with
    | none => simp [ih]
    | some found => simp

/-- By induction on the methods: the first one that has an unfit parameter decides. -/
theorem of_firstPrimitive?_eq_some {ms : List Method} {m : Method} {i : Nat} {t : TypeRef}
    (h : firstPrimitive? ms = some (m, i, t)) :
    (∃ k, FirstAt Method.Unfit ms k m) ∧ FirstAt TypeRef.Unfit m.params i t := by
  induction ms with
  | nil => cases h
  | cons m' rest ih =>
    rw [firstPrimitive?] at h
    cases hm : m'.primitiveParameter? with
    | none =>
      rw [hm] at h
      obtain ⟨⟨k, hk⟩, hfirst⟩ := ih h
      exact ⟨⟨k + 1, (firstAt_cons_of_neg (Method.primitiveParameter?_eq_none_iff.mp hm)).mpr
        ⟨k, rfl, hk⟩⟩, hfirst⟩
    | some found =>
      rw [hm] at h
      cases h
      have hfirst := Method.primitiveParameter?_eq_some_iff.mp hm
      exact ⟨⟨0, (firstAt_cons_of_pos ⟨_, hfirst.mem⟩).mpr ⟨rfl, rfl⟩⟩, hfirst⟩

theorem validate_eq_ok_iff : d.validate = .ok () ↔ d.kind = .interface ∧ ¬ d.HasUnfit := by
  have hnone : firstPrimitive? d.methods = none ↔ ¬ d.HasUnfit := by
    rw [firstPrimitive?_eq_none_iff]
    simp [HasUnfit]
  rw [← hnone, validate, isInterface]
  cases d.kind with
  | plainClass => simp
  | interface =>
    cases firstPrimitive? d.methods <;> simp

theorem of_validate_eq_error {e : ConstructionError} (h : d.validate = .error e) :
    (d.kind = .plainClass ∧ e = .notAnInterface d.name) ∨
    (d.kind = .interface ∧ ∃ m i t, d.FirstUnfit m i t ∧
      e = .primitiveParameter d.name m.name i t.text) := by
  rw [validate, isInterface] at h
  cases hkind : d.kind with
  | plainClass =>
    rw [hkind] at h
    cases h
    exact .inl ⟨rfl, rfl⟩
  | interface =>
    rw [hkind] at h
    cases hfirst : firstPrimitive? d.methods with
    | none =>
      rw [hfirst] at h
      cases h
    | some found =>
      rw [hfirst] at h
      cases h
      exact .inr ⟨rfl, _, _, _, of_firstPrimitive?_eq_some hfirst, rfl⟩

/-! ## Repetitions -/

/-- A method has the name and the signature of an earlier one. -/
def HasRepeat (d : Descriptor) : Prop :=
  ∃ before m after, d.methods = before ++ m :: after ∧
    ∃ m' ∈ before, m'.name = m.name ∧ m'.signature = m.signature

theorem FirstRepeated.hasRepeat {m : Method} (h : d.FirstRepeated m) : d.HasRepeat := by
  obtain ⟨before, after, hsplit, -, hmem⟩ := h
  obtain ⟨m', hm', hkey⟩ := List.mem_map.mp hmem
  exact ⟨before, m, after, hsplit, m', hm', Prod.mk.inj hkey⟩

theorem not_hasRepeat (hnd : d.keys.Nodup) : ¬ d.HasRepeat := by
  rintro ⟨before, m, after, hsplit, m', hm', hname, hsignature⟩
  rw [keys, hsplit, List.map_append, List.map_cons, List.nodup_append] at hnd
  exact hnd.2.2 m'.key (List.mem_map_of_mem hm') m.key List.mem_cons_self
    (Prod.mk.injEq .. ▸ ⟨hname, hsignature⟩)

end Descriptor

/-! ## Outcomes -/

/-- What becomes of a descriptor. -/
structure Judged (d : Descriptor) (answer : Except AdapterError AdapterType) : Prop where
  /-- A class is refused whatever its methods are. -/
  notAnInterface : (∃ name, answer = .error (.construction (.notAnInterface name))) ↔
    d.kind = .plainClass
  /-- An unfit parameter comes before all repetitions. -/
  primitiveParameter : (∃ interface method index found,
      answer = .error (.construction (.primitiveParameter interface method index found))) ↔
    d.kind = .interface ∧ d.HasUnfit
  duplicateSlot : (∃ interface method signature,
      answer = .error (.generation (.duplicateSlot interface method signature))) ↔
    d.kind = .interface ∧ ¬ d.HasUnfit ∧ d.HasRepeat
  adapted : (∃ t, answer = .ok t) ↔ d.kind = .interface ∧ ¬ d.HasUnfit ∧ ¬ d.HasRepeat
  names : ∀ name, answer = .error (.construction (.notAnInterface name)) → name = d.name
  blames : ∀ interface method index found,
    answer = .error (.construction (.primitiveParameter interface method index found)) →
      interface = d.name ∧ ∃ m t, d.FirstUnfit m index t ∧ method = m.name ∧ found = t.text
  blamesRepeat : ∀ interface method signature,
    answer = .error (.generation (.duplicateSlot interface method signature)) →
      interface = d.name ∧ ∃ m, d.FirstRepeated m ∧ method = m.name ∧ signature = m.signature
  /-- The type has a slot for each method and no other. -/
  made : ∀ t, answer = .ok t → t.descriptor = d ∧ t.slots = d.slots

namespace Judged

variable {d : Descriptor}

theorem plainClass (h : d.kind = .plainClass) :
    Judged d (.error (.construction (.notAnInterface d.name))) where
  notAnInterface := by simp [h]
  primitiveParameter := by simp [h]
  duplicateSlot := by simp [h]
  adapted := by simp [h]
  names name heq := by
    cases heq
    rfl
  blames := nofun
  blamesRepeat := nofun
  made := nofun

theorem unfit (h : d.kind = .interface) {m : Method} {i : Nat} {t : TypeRef}
    (hfirst : d.FirstUnfit m i t) :
    Judged d (.error (.construction (.primitiveParameter d.name m.name i t.text))) where
  notAnInterface := by simp [h]
  primitiveParameter := by simp [h, hfirst.hasUnfit]
  duplicateSlot := by simp [hfirst.hasUnfit]
  adapted := by simp [hfirst.hasUnfit]
  names := nofun
  blames interface method index found heq := by
    cases heq
    exact ⟨rfl, m, t, hfirst, rfl, rfl⟩
  blamesRepeat := nofun
  made := nofun

theorem repeated (h : d.kind = .interface) (hfit : ¬ d.HasUnfit) {m : Method}
    (hfirst : d.FirstRepeated m) :
    Judged d (.error (.generation (.duplicateSlot d.name m.name m.signature))) where
  notAnInterface := by simp [h]
  primitiveParameter := by simp [hfit]
  duplicateSlot := by simp [h, hfit, hfirst.hasRepeat]
  adapted := by simp [hfirst.hasRepeat]
  names := nofun
  blames := nofun
  blamesRepeat interface method signature heq := by
    cases heq
    exact ⟨rfl, m, hfirst, rfl, rfl⟩
  made := nofun

theorem ok (h : d.kind = .interface) (hfit : ¬ d.HasUnfit) (hnd : d.keys.Nodup) (name : String) :
    Judged d (.ok ⟨name, d, d.slots⟩) where
  notAnInterface := by simp [h]
  primitiveParameter := by simp [hfit]
  duplicateSlot := by simp [Descriptor.not_hasRepeat hnd]
  adapted := by simp [h, hfit, Descriptor.not_hasRepeat hnd]
  names := nofun
  blames := nofun
  blamesRepeat := nofun
  made t heq := by
    cases heq
    exact ⟨rfl, rfl⟩

end Judged

/-- All of a type but its name. -/
def AdapterType.content (t : AdapterType) : Descriptor × List Slot := (t.descriptor, t.slots)

/-- The answer for a descriptor, but for the name of the type. -/
def Descriptor.outcome (d : Descriptor) : Except AdapterError (Descriptor × List Slot) :=
  match d.validate with
  | .error e => .error (.construction e)
  | .ok _ =>
    match slotsOf d.name d.methods 0 [] with
    | .error e => .error (.generation e)
    | .ok slots => .ok (d, slots)

namespace TypeSpace

variable {space : TypeSpace}

theorem Sound.judged (h : space.Sound) (d : Descriptor) : Judged d (space.synthesize d).1 := by
  have hs := h.synthesized d
  generalize space.synthesize d = out at hs
  cases hs with
  | refused e hv =>
    rcases Descriptor.of_validate_eq_error hv with ⟨hkind, rfl⟩ | ⟨hkind, m, i, t, hfirst, rfl⟩
    · exact .plainClass hkind
    · exact .unfit hkind hfirst
  | known t hv ht hd =>
    subst hd
    obtain ⟨hkind, hfit⟩ := Descriptor.validate_eq_ok_iff.mp hv
    obtain ⟨heq, hnd⟩ := AdapterType.generate_eq_ok_iff.mp (h.generated t ht)
    rw [heq]
    exact .ok hkind hfit hnd t.name
  | repeated m hv _ hm _ =>
    obtain ⟨hkind, hfit⟩ := Descriptor.validate_eq_ok_iff.mp hv
    exact .repeated hkind hfit hm
  | made t hv _ hnd ht =>
    obtain ⟨hkind, hfit⟩ := Descriptor.validate_eq_ok_iff.mp hv
    subst ht
    exact .ok hkind hfit hnd _

/-- The answer to a call, but for the name, depends on the descriptor alone. -/
theorem Sound.synthesize_content (h : space.Sound) (d : Descriptor) :
    (space.synthesize d).1.map AdapterType.content = d.outcome := by
  unfold TypeSpace.synthesize Descriptor.outcome
  cases d.validate with
  | error e => rfl
  | ok _ =>
    cases hcached : space.cached? d with
    | some t =>
      obtain ⟨ht, rfl⟩ := cached?_eq_some hcached
      have hgenerated := h.generated t ht
      rw [AdapterType.generate] at hgenerated
      split at hgenerated
      · rename_i slots hslots
        have heq : t.slots = slots := congrArg AdapterType.slots (Except.ok.inj hgenerated).symm
        rw [hslots, ← heq]
        rfl
      · cases hgenerated
    | none =>
      simp only [create, AdapterType.generate]
      cases slotsOf d.name d.methods 0 [] with
      | error e => rfl
      | ok slots =>
        have hfree : ({ space with serial := space.serial + 1 } : TypeSpace).lookup
            (serialName (space.serial + 1)) = none := h.lookup_next
        simp only [install, hfree]
        rfl

end TypeSpace

/-- In every process, whatever was adapted before, a descriptor is judged by its own content: its
kind first, then its parameters, then its repetitions. Another process at another time answers the
same but for the name of the type. -/
theorem synthesis_judged {space : TypeSpace} (h : Reachable space) (d : Descriptor) :
    Judged d (space.synthesize d).1 ∧
      ∀ {other : TypeSpace}, Reachable other →
        (other.synthesize d).1.map AdapterType.content =
          (space.synthesize d).1.map AdapterType.content :=
  ⟨h.sound.judged d, fun hother => by
    rw [hother.sound.synthesize_content, h.sound.synthesize_content]⟩

/-- A repetition before two unfit parameters, after calls with parts of the descriptor. -/
theorem synthesis_judged_defects :
    let m : Method := ⟨"on", [.object], .void⟩
    let n : Method := ⟨"ask", [.object, .array (.primitive .int), .void, .primitive .int], .void⟩
    let d : Descriptor := ⟨.interface, "L", [m, m, n]⟩
    let space : TypeSpace := ((TypeSpace.empty.synthesize ⟨.interface, "L", [m]⟩).2.synthesize
      ⟨.interface, "L", [m, m]⟩).2
    Reachable space ∧ Judged d (space.synthesize d).1 ∧
      (space.synthesize d).1 = .error (.construction (.primitiveParameter "L" "ask" 2 "void")) ∧
      (space.synthesize ⟨.interface, "L", [m, m]⟩).1.map AdapterType.content =
        (TypeSpace.empty.synthesize ⟨.interface, "L", [m, m]⟩).1.map AdapterType.content := by
  intro m n d space
  have hspace : Reachable space := (Reachable.fresh.after _).after _
  have hblamed : (space.synthesize d).1 =
      .error (.construction (.primitiveParameter "L" "ask" 2 "void")) := by decide +kernel
  exact ⟨hspace, (synthesis_judged hspace d).1, hblamed, (synthesis_judged .fresh _).2 hspace⟩

end EventRelay
