import EventRelay.Proofs.Adapter.Slots
import EventRelay.Proofs.Emission.Failure

/-!
# EventRelay.Proofs.Adapter.Call

Calls by name and calls by slot, on adapters of generated types.

* `Descriptor.Means`: the methods that a call by name and argument count can mean.
  `resolve_of_unique`, `resolve_of_none`, `resolve_of_two`: what the slot table makes of them.
* `forward_of_arity`: the body of a slot is the emission of its event, and a result that depends on
  the declared return type alone.
* `InvocationError.Unsent`: the failures of a call that comes to no emission.
* `calls_agree`: a call by name does what the call of its only slot does, and both answer with the
  neutral value of the return type.
-/

namespace EventRelay

/-- A call by name and argument count can mean the method at `i`. -/
def Descriptor.Means (d : Descriptor) (method : String) (count i : Nat) : Prop :=
  ∃ m, d.methods[i]? = some m ∧ m.name = method ∧ m.arity = count

/-! ## Slots of a generated type -/

namespace AdapterType

variable {name : String} {d : Descriptor} {type : AdapterType} {method : String} {count i j : Nat}

theorem descriptor_of_generate (h : generate name d = .ok type) : type.descriptor = d := by
  rw [(generate_eq_ok_iff.mp h).1]

theorem slots_of_generate (h : generate name d = .ok type) : type.slots = d.slots := by
  rw [(generate_eq_ok_iff.mp h).1]

theorem slot_of_generate (h : generate name d = .ok type) {m : Method}
    (hm : d.methods[i]? = some m) : type.slot i = .ok (Slot.ofMethod i m) := by
  simp only [slot, slots_of_generate h, Descriptor.getElem?_slots, hm, Option.map_some]

theorem slot_of_generate_none (h : generate name d = .ok type) (hi : d.methods.length ≤ i) :
    type.slot i = .error (.noSuchSlot d.name i) := by
  have hm : d.methods[i]? = none := List.getElem?_eq_none hi
  simp only [slot, slots_of_generate h, Descriptor.getElem?_slots, hm, Option.map_none,
    descriptor_of_generate h]

theorem mem_candidates (h : generate name d = .ok type) {slot : Slot} :
    slot ∈ type.candidates method count ↔
      ∃ i m, d.methods[i]? = some m ∧ m.name = method ∧ m.arity = count ∧
        slot = Slot.ofMethod i m := by
  rw [candidates, slots_of_generate h, List.mem_filter, List.mem_iff_getElem?]
  simp only [Descriptor.getElem?_slots, Option.map_eq_some_iff, Bool.and_eq_true, beq_iff_eq]
  constructor
  · rintro ⟨⟨i, m, hm, rfl⟩, hname, hcount⟩
    exact ⟨i, m, hm, hname, hcount, rfl⟩
  · rintro ⟨i, m, hm, hname, hcount, rfl⟩
    exact ⟨⟨i, m, hm, rfl⟩, hname, hcount⟩

/-- Slots differ at least by their indices. -/
theorem candidates_nodup (h : generate name d = .ok type) :
    (type.candidates method count).Nodup := by
  have hslots : d.slots.Nodup := by
    refine List.nodup_iff_injective_getElem.mpr ?_
    intro i j hij
    have hi := congrArg Slot.index hij
    simpa [Descriptor.slots, Slot.ofMethod, ← Fin.ext_iff] using hi
  rw [candidates, slots_of_generate h]
  exact hslots.filter _

theorem resolve_of_none (h : generate name d = .ok type) (hnone : ∀ i, ¬ d.Means method count i) :
    type.resolve method count = .error (.noSuchMethod d.name method count) := by
  have hc : type.candidates method count = [] := by
    refine List.eq_nil_iff_forall_not_mem.mpr fun slot hslot => ?_
    obtain ⟨i, m, hm, hname, hcount, -⟩ := (mem_candidates h).mp hslot
    exact hnone i ⟨m, hm, hname, hcount⟩
  rw [resolve, hc, descriptor_of_generate h]

theorem resolve_of_unique (h : generate name d = .ok type) {m : Method}
    (hm : d.methods[i]? = some m) (hname : m.name = method) (hcount : m.arity = count)
    (honly : ∀ j, d.Means method count j → j = i) :
    type.resolve method count = .ok (Slot.ofMethod i m) := by
  have hc : type.candidates method count = [Slot.ofMethod i m] := by
    refine List.perm_singleton.mp ?_
    refine (List.perm_ext_iff_of_nodup (candidates_nodup h) (List.nodup_singleton _)).mpr ?_
    intro slot
    rw [mem_candidates h, List.mem_singleton]
    constructor
    · rintro ⟨j, mj, hmj, hnamej, hcountj, rfl⟩
      obtain rfl := honly j ⟨mj, hmj, hnamej, hcountj⟩
      rw [Option.some.inj (hmj.symm.trans hm)]
    · rintro rfl
      exact ⟨i, m, hm, hname, hcount, rfl⟩
  rw [resolve, hc]

theorem resolve_of_two (h : generate name d = .ok type) (hi : d.Means method count i)
    (hj : d.Means method count j) (hij : i ≠ j) :
    type.resolve method count = .error (.ambiguous d.name method count) := by
  obtain ⟨mi, hmi, hnamei, hcounti⟩ := hi
  obtain ⟨mj, hmj, hnamej, hcountj⟩ := hj
  have hi : Slot.ofMethod i mi ∈ type.candidates method count :=
    (mem_candidates h).mpr ⟨i, mi, hmi, hnamei, hcounti, rfl⟩
  have hj : Slot.ofMethod j mj ∈ type.candidates method count :=
    (mem_candidates h).mpr ⟨j, mj, hmj, hnamej, hcountj, rfl⟩
  have hne : Slot.ofMethod i mi ≠ Slot.ofMethod j mj := fun heq => hij (congrArg Slot.index heq)
  rw [resolve, descriptor_of_generate h]
  match hc : type.candidates method count with
  | [] => simp [hc] at hi
  | [slot] =>
    rw [hc, List.mem_singleton] at hi hj
    exact absurd (hi.trans hj.symm) hne
  | _ :: _ :: _ => rfl

end AdapterType

/-! ## Failures before any emission -/

/-- The failures of a call that comes to no emission. -/
inductive InvocationError.Unsent : InvocationError → Prop where
  | arity (method : String) (expected found : Nat) : Unsent (.arity method expected found)
  | noSuchMethod (interface method : String) (count : Nat) :
      Unsent (.noSuchMethod interface method count)
  | ambiguous (interface method : String) (count : Nat) : Unsent (.ambiguous interface method count)
  | noSuchSlot (interface : String) (index : Nat) : Unsent (.noSuchSlot interface index)

namespace Relay

variable {x : Runner} {a : AdapterId} {slot : Slot} {args : List Value} {s : Relay}

/-- The value that a slot answers with was fixed when its method was declared. -/
theorem forward_of_arity (h : args.length = slot.arity) :
    forward x a slot args s =
      ((emit x a slot.name args s).1.map fun _ => slot.policy.neutral,
        (emit x a slot.name args s).2) := by
  rw [forward, if_neg (by simp [h])]
  generalize emit x a slot.name args s = out
  obtain ⟨exit, s'⟩ := out
  cases exit <;> rfl

theorem forward_of_ne_arity (h : args.length ≠ slot.arity) :
    forward x a slot args s = (.error (.arity slot.name slot.arity args.length), s) :=
  if_pos h

/-- An emission does not fail as a call does. -/
theorem forward_not_unsent {e : InvocationError} (he : e.Unsent) (h : args.length = slot.arity) :
    (forward x a slot args s).1 ≠ .error e := by
  intro hfwd
  rw [forward_of_arity h] at hfwd
  have hemit (h : (emit x a slot.name args s).1 = .error e) :
      ∃ c, e = .listener slot.name c ∨ e = .worker c := emit_error h
  generalize (emit x a slot.name args s).1 = exit at hfwd hemit
  cases exit with
  | error e' =>
    cases hfwd
    obtain ⟨c, rfl | rfl⟩ := hemit rfl
    · cases he
    · cases he
  | ok | panic | halt => cases hfwd

theorem forward_unsent {e : InvocationError} (he : e.Unsent)
    (h : (forward x a slot args s).1 = .error e) (x' : Runner) :
    forward x' a slot args s = (.error e, s) := by
  by_cases hn : args.length = slot.arity
  · exact absurd h (forward_not_unsent he hn)
  · rw [forward_of_ne_arity hn] at h ⊢
    cases h
    rfl

theorem forward_ok {v : Value} (h : (forward x a slot args s).1 = .ok v) :
    args.length = slot.arity ∧ v = slot.policy.neutral := by
  by_cases hn : args.length = slot.arity
  · rw [forward_of_arity hn] at h
    generalize (emit x a slot.name args s).1 = exit at h
    cases exit with
    | ok =>
      cases h
      exact ⟨hn, rfl⟩
    | error | panic | halt => cases h
  · rw [forward_of_ne_arity hn] at h
    cases h

/-! ## Both ways to call -/

/-- What the two ways to call an adapter do, by the methods that its interface declares. -/
structure Callable (x : Runner) (d : Descriptor) (a : AdapterId) (s : Relay) : Prop where
  agree : ∀ {method args i}, d.Means method args.length i →
    (∀ j, d.Means method args.length j → j = i) →
    call x a method args s = callSlot x a i args s
  noSuchMethod : ∀ {method args}, (∀ i, ¬ d.Means method args.length i) →
    call x a method args s = (.error (.noSuchMethod d.name method args.length), s)
  ambiguous : ∀ {method args i j}, d.Means method args.length i → d.Means method args.length j →
    i ≠ j → call x a method args s = (.error (.ambiguous d.name method args.length), s)
  /-- A call by name has found the argument count already. -/
  not_arity : ∀ {method args} (name expected found),
    (call x a method args s).1 ≠ .error (.arity name expected found)
  /-- Every slot can be called by its index, also where a call by name is ambiguous. -/
  emits : ∀ {args i} {m : Method}, d.methods[i]? = some m → args.length = m.arity →
    callSlot x a i args s =
      ((emit x a m.name args s).1.map fun _ => (ReturnPolicy.ofType m.ret).neutral,
        (emit x a m.name args s).2)
  /-- The index comes first, whatever the arguments. -/
  noSuchSlot : ∀ {args i}, d.methods.length ≤ i →
    callSlot x a i args s = (.error (.noSuchSlot d.name i), s)
  arity : ∀ {args i} {m : Method}, d.methods[i]? = some m → args.length ≠ m.arity →
    callSlot x a i args s = (.error (.arity m.name m.arity args.length), s)
  /-- These failures leave the state as it is, and no function has a part in them. -/
  unsent : ∀ {method args i e}, e.Unsent →
    ((call x a method args s).1 = .error e →
      ∀ x', call x' a method args s = (.error e, s)) ∧
    ((callSlot x a i args s).1 = .error e → ∀ x', callSlot x' a i args s = (.error e, s))
  /-- A result is that of the return type, whatever the listeners returned. -/
  result : ∀ {method args v}, (call x a method args s).1 = .ok v →
    ∃ (i : Nat) (m : Method), d.methods[i]? = some m ∧ m.name = method ∧
      m.arity = args.length ∧ v = (ReturnPolicy.ofType m.ret).neutral
  slotResult : ∀ {args i v}, (callSlot x a i args s).1 = .ok v →
    ∃ m : Method, d.methods[i]? = some m ∧ m.arity = args.length ∧
      v = (ReturnPolicy.ofType m.ret).neutral

section

variable {name : String} {d : Descriptor} {method : String} {i j : Nat}

theorem callSlot_eq (h : AdapterType.generate name d = .ok (s.adapter a).type) {m : Method}
    (hm : d.methods[i]? = some m) :
    callSlot x a i args s = forward x a (Slot.ofMethod i m) args s := by
  simp only [callSlot, AdapterType.slot_of_generate h hm]

theorem callSlot_none (h : AdapterType.generate name d = .ok (s.adapter a).type)
    (hi : d.methods.length ≤ i) :
    callSlot x a i args s = (.error (.noSuchSlot d.name i), s) := by
  simp only [callSlot, AdapterType.slot_of_generate_none h hi]

/-- A call by name means no method, one, or more than one. -/
theorem call_cases (h : AdapterType.generate name d = .ok (s.adapter a).type) (method : String)
    (args : List Value) :
    (∀ x, call x a method args s = (.error (.noSuchMethod d.name method args.length), s)) ∨
    (∀ x, call x a method args s = (.error (.ambiguous d.name method args.length), s)) ∨
    ∃ i m, d.methods[i]? = some m ∧ m.name = method ∧ m.arity = args.length ∧
      ∀ x, call x a method args s = forward x a (Slot.ofMethod i m) args s := by
  by_cases hsome : ∃ i, d.Means method args.length i
  · obtain ⟨i, hi⟩ := hsome
    by_cases hother : ∃ j, d.Means method args.length j ∧ i ≠ j
    · obtain ⟨j, hj, hij⟩ := hother
      refine .inr (.inl fun x => ?_)
      simp only [call, AdapterType.resolve_of_two h hi hj hij]
    · have honly : ∀ j, d.Means method args.length j → j = i := by
        intro j hj
        by_contra hji
        exact hother ⟨j, hj, fun hij => hji hij.symm⟩
      obtain ⟨m, hm, hname, hcount⟩ := hi
      refine .inr (.inr ⟨i, m, hm, hname, hcount, fun x => ?_⟩)
      simp only [call, AdapterType.resolve_of_unique h hm hname hcount honly]
  · refine .inl fun x => ?_
    simp only [call, AdapterType.resolve_of_none h fun i hi => hsome ⟨i, hi⟩]

theorem callSlot_cases (h : AdapterType.generate name d = .ok (s.adapter a).type) (i : Nat)
    (args : List Value) :
    (∀ x, callSlot x a i args s = (.error (.noSuchSlot d.name i), s)) ∨
    ∃ m, d.methods[i]? = some m ∧
      ∀ x, callSlot x a i args s = forward x a (Slot.ofMethod i m) args s := by
  cases hm : d.methods[i]? with
  | none => exact .inl fun x => callSlot_none h (List.getElem?_eq_none_iff.mp hm)
  | some m => exact .inr ⟨m, rfl, fun x => callSlot_eq h hm⟩

theorem call_unsent (h : AdapterType.generate name d = .ok (s.adapter a).type)
    {e : InvocationError} (he : e.Unsent) (hcall : (call x a method args s).1 = .error e)
    (x' : Runner) : call x' a method args s = (.error e, s) := by
  rcases call_cases h method args with hno | htwo | ⟨i, m, -, -, -, hfwd⟩
  · rw [hno x] at hcall
    cases hcall
    exact hno x'
  · rw [htwo x] at hcall
    cases hcall
    exact htwo x'
  · rw [hfwd x] at hcall
    rw [hfwd x']
    exact forward_unsent he hcall x'

theorem callSlot_unsent (h : AdapterType.generate name d = .ok (s.adapter a).type)
    {e : InvocationError} (he : e.Unsent) (hcall : (callSlot x a i args s).1 = .error e)
    (x' : Runner) : callSlot x' a i args s = (.error e, s) := by
  rcases callSlot_cases h i args with hno | ⟨m, -, hfwd⟩
  · rw [hno x] at hcall
    cases hcall
    exact hno x'
  · rw [hfwd x] at hcall
    rw [hfwd x']
    exact forward_unsent he hcall x'

end

/-- On an adapter of a generated type, the two ways to call agree wherever both can name a method,
and neither shows anything of what the listeners return. -/
theorem calls_agree {name : String} {d : Descriptor} {type : AdapterType}
    (ht : AdapterType.generate name d = .ok type) {a : AdapterId} {s : Relay}
    (ha : (s.adapter a).type = type) (x : Runner) : Callable x d a s := by
  have h : AdapterType.generate name d = .ok (s.adapter a).type := ha ▸ ht
  constructor
  · intro method args i hi honly
    obtain ⟨m, hm, hname, hcount⟩ := hi
    rw [callSlot_eq h hm]
    simp only [call, AdapterType.resolve_of_unique h hm hname hcount honly]
  · intro method args hnone
    simp only [call, AdapterType.resolve_of_none h hnone]
  · intro method args i j hi hj hij
    simp only [call, AdapterType.resolve_of_two h hi hj hij]
  · intro method args name' expected found hcall
    rcases call_cases h method args with hno | htwo | ⟨i, m, -, -, hcount, hfwd⟩
    · rw [hno x] at hcall
      cases hcall
    · rw [htwo x] at hcall
      cases hcall
    · -- The argument count was part of what the name was looked up by.
      rw [hfwd x] at hcall
      exact forward_not_unsent (.arity ..) hcount.symm hcall
  · intro args i m hm hcount
    rw [callSlot_eq h hm]
    exact forward_of_arity hcount
  · intro args i hi
    exact callSlot_none h hi
  · intro args i m hm hcount
    rw [callSlot_eq h hm]
    exact forward_of_ne_arity hcount
  · intro method args i e he
    exact ⟨fun hcall => call_unsent h he hcall, fun hcall => callSlot_unsent h he hcall⟩
  · intro method args v hcall
    rcases call_cases h method args with hno | htwo | ⟨i, m, hm, hname, hcount, hfwd⟩
    · rw [hno x] at hcall
      cases hcall
    · rw [htwo x] at hcall
      cases hcall
    · rw [hfwd x] at hcall
      exact ⟨i, m, hm, hname, hcount, (forward_ok hcall).2⟩
  · intro args i v hcall
    rcases callSlot_cases h i args with hno | ⟨m, hm, hfwd⟩
    · rw [hno x] at hcall
      cases hcall
    · rw [hfwd x] at hcall
      obtain ⟨hcount, hv⟩ := forward_ok hcall
      exact ⟨m, hm, hcount.symm, hv⟩

/-- Questions with two arguments, and of two kinds with one. -/
def desk : Descriptor :=
  ⟨.interface, "Desk",
    [⟨"ask", [.object], .primitive .int⟩, ⟨"ask", [.object, .object], .primitive .boolean⟩,
      ⟨"ask", [.primitive .int], .void⟩]⟩

def deskType : AdapterType := ⟨"DeskAdapter", desk, desk.slots⟩

theorem calls_agree_desk :
    let x : Runner := ⟨fun _ _ s => (.ok (.int 7), s), 0, fun _ _ _ => false, fun _ s => s⟩
    let answer : Value := .function ⟨"f1", some "answer", "desk"⟩
    let s := ((initial.addAdapter 0 deskType).2.listen 0 "ask" answer .sync).2
    AdapterType.generate "DeskAdapter" desk = .ok deskType ∧ (s.adapter 0).type = deskType ∧
      call x 0 "ask" [.null, .null] s = callSlot x 0 1 [.null, .null] s ∧
      call x 0 "ask" [.null] s = (.error (.ambiguous "Desk" "ask" 1), s) ∧
      callSlot x 0 2 [.null] s = ((emit x 0 "ask" [.null] s).1.map fun _ => .null,
        (emit x 0 "ask" [.null] s).2) ∧
      (emit x 0 "ask" [.null] s).1 = .ok () := by
  intro x answer s
  have ht : AdapterType.generate "DeskAdapter" desk = .ok deskType := by decide +kernel
  have ha : (s.adapter 0).type = deskType := by rfl
  have h := calls_agree ht ha x
  have honly : ∀ j, desk.Means "ask" 2 j → j = 1 := by
    rintro j ⟨m, hm, -, hcount⟩
    match j with
    | 0 | 2 =>
      cases hm
      cases hcount
    | 1 => rfl
    | j + 3 => simp [desk] at hm
  refine ⟨ht, ha, h.agree ⟨_, rfl, rfl, rfl⟩ honly, ?_, ?_, by rfl⟩
  · exact h.ambiguous (i := 0) (j := 2) ⟨_, rfl, rfl, rfl⟩ ⟨_, rfl, rfl, rfl⟩ (by decide)
  · exact h.emits (m := ⟨"ask", [.primitive .int], .void⟩) rfl rfl

end Relay

end EventRelay
