import EventRelay.Adapter.Call
import EventRelay.Interface.Catalogue
import EventRelay.Proofs.Adapter.TypeSpace
import EventRelay.Proofs.Emission.Failure

/-!
# EventRelay.Proofs.Interface.Typed

Adapters whose interface a trait declares do not fail by themselves.

* `Shape.neutral`: the typed value that means that nothing real is available.
* `decode_neutral`: what the return policy of a declared type returns reads as this value, so
  that the declared types, the policies and the conversions agree.
* `Clash`: two methods that share event and signature, the only obstacle to an adapter.
* `newAdapter_of_sound`: an adapter is made without a clash, and refused with one.
* `Answered`: how a call through the trait ends, given how its emission does.
* `Dependable`, `dependable_of_ofTrait`: all of it, for every trait that declares an interface.
-/

namespace EventRelay

/-- The typed value that means that nothing real is available. There is none for text, which no
declared method returns. -/
def Shape.neutral : (s : Shape) → Option s.Carrier
  | value => some (.null : Value)
  | unit => some ()
  | bool => some true
  | char => some '\x00'
  | string => none
  | single => some ⟨0⟩
  | double => some Numeric.Double.zero
  | int type => some ⟨0, by cases type <;> decide⟩
  | option _ => some none

namespace Interface

open Source (Ty)

/-! ## Neutral values -/

/-- A value reads as the neutral one of a shape. -/
def ReadsNeutral (s : Shape) (v : Value) : Prop :=
  ∃ typed, s.decode v = .ok typed ∧ s.neutral = some typed

theorem readsNeutral_option (s : Shape) : ReadsNeutral (.option s) .null :=
  ⟨none, by cases s <;> rfl, rfl⟩

/-- Every type that is no reference returns its own neutral value. -/
theorem readsNeutral_primitive :
    ∀ row ∈ primitives, ReadsNeutral row.shape (ReturnPolicy.ofType (.primitive row.kind)).neutral
      := by
  simp only [primitives, List.forall_mem_cons]
  exact ⟨⟨_, rfl, rfl⟩, ⟨_, rfl, rfl⟩, ⟨_, rfl, rfl⟩, ⟨_, rfl, rfl⟩, ⟨_, rfl, rfl⟩, ⟨_, rfl, rfl⟩,
    ⟨_, rfl, rfl⟩, ⟨_, rfl, rfl⟩, ⟨_, rfl, rfl⟩, ⟨_, rfl, rfl⟩, ⟨_, rfl, rfl⟩, ⟨_, rfl, rfl⟩,
    ⟨_, rfl, rfl⟩, ⟨_, rfl, rfl⟩, List.forall_mem_nil _⟩

theorem shape_of_primitive {t : Ty} {row : PrimitiveRow} (h : t.primitive? = some row) :
    t.shape = row.shape ∧ row ∈ primitives := by
  unfold Ty.primitive? at h
  split at h
  · rename_i lead name style
    refine ⟨?_, List.mem_of_find?_eq_some h⟩
    have hp : (Ty.path lead name none style).primitive? = some row := h
    simp only [Ty.shape, hp]
  · cases h

theorem shape_of_optional {t : Ty} (h : t.optionInner?.isSome = true) :
    ∃ inner, t.shape = .option inner := by
  unfold Ty.optionInner? at h
  split at h
  · rename_i lead name inner style
    split at h
    · rename_i hopt
      exact ⟨inner.shape, by simp only [Ty.shape, hopt, if_true]⟩
    · cases h
  · cases h

theorem shape_of_isValue {t : Ty} (h : t.isValue = true) : t.shape = .value := by
  have hlast : t.lastSegment? = some "Value" := by simpa [Ty.isValue] using h
  cases t with
  | path lead name args style =>
    obtain rfl : name = "Value" := by simpa [Ty.lastSegment?] using hlast
    match args with
    | none => rfl
    | some [] => rfl
    | some [inner] => rfl
    | some (_ :: _ :: _) => rfl
  | callable lead name signature => rfl
  | lifetime | ref | unit | paren | other | constant => cases hlast

/-- A declared return type, its policy and the conversion of its values agree. -/
theorem decode_neutral {m : DeclaredMethod} (h : returnType m.ret = .ok m.declared) :
    ReadsNeutral m.shape (ReturnPolicy.ofType m.declared).neutral := by
  obtain ⟨name, event, params, ret, declared, kept⟩ := m
  simp only [DeclaredMethod.shape, returnType] at h ⊢
  split at h
  · cases h
    exact ⟨(), rfl, rfl⟩
  · cases h
    exact ⟨(), rfl, rfl⟩
  · rename_i t _
    dsimp only
    split at h
    · rename_i row hrow
      cases h
      obtain ⟨hshape, hmem⟩ := shape_of_primitive hrow
      exact hshape ▸ readsNeutral_primitive row hmem
    · split at h
      · rename_i href
        cases h
        rcases Bool.or_eq_true_iff.mp href with hopt | hval
        · obtain ⟨inner, hshape⟩ := shape_of_optional hopt
          exact hshape ▸ readsNeutral_option inner
        · exact shape_of_isValue hval ▸ ⟨.null, rfl, rfl⟩
      · cases h

/-! ## Descriptors -/

theorem returnType_of_ofTrait {interface : String} {source : TraitMethod} {m : DeclaredMethod}
    (h : DeclaredMethod.ofTrait interface source = .ok m) : returnType m.ret = .ok m.declared := by
  unfold DeclaredMethod.ofTrait at h
  split at h
  · cases h
  dsimp only at h
  split at h
  · cases h
  split at h
  · cases h
  split at h
  · cases h
  split at h
  · cases h
  split at h
  · cases h
  · rename_i declared hret
    cases h
    exact hret

namespace Declaration

/-- By induction on the items: every declared method is that of some trait method. -/
theorem methodsOf_returnType {interface : String} {items : List TraitItem}
    {methods : List DeclaredMethod} (h : methodsOf interface items = .ok methods) :
    ∀ m ∈ methods, returnType m.ret = .ok m.declared := by
  induction items generalizing methods with
  | nil => cases h; exact List.forall_mem_nil _
  | cons item rest ih =>
    cases item with
    | other => cases h
    | method source =>
      simp only [methodsOf] at h
      split at h
      · cases h
      rename_i first hfirst
      split at h
      · cases h
      · rename_i others hothers
        cases h
        exact List.forall_mem_cons.mpr ⟨returnType_of_ofTrait hfirst, ih hothers⟩

theorem returnType_of_mem {known : TraitArguments} {t : Trait} {d : Declaration}
    (h : ofTrait known t = .ok d) {m : DeclaredMethod} (hm : m ∈ d.methods) :
    returnType m.ret = .ok m.declared := by
  unfold ofTrait at h
  split at h
  · cases h
  dsimp only at h
  split at h
  · cases h
  · rename_i methods hmethods
    cases h
    exact methodsOf_returnType hmethods m hm

theorem firstPrimitive?_references (names : List String) (start : Nat) :
    Method.firstPrimitive? (names.map TypeRef.reference) start = none := by
  induction names generalizing start with
  | nil => rfl
  | cons name rest ih => exact ih (start + 1)

/-- Every parameter of a declared method is a reference. -/
theorem validate_descriptor (d : Declaration) : d.descriptor.validate = .ok () := by
  have hmethod (m : DeclaredMethod) : m.method.primitiveParameter? = none := by
    have := firstPrimitive?_references (m.params.map Ty.referenceName) 0
    rwa [List.map_map] at this
  have hnone (ms : List DeclaredMethod) :
      Descriptor.firstPrimitive? (ms.map DeclaredMethod.method) = none := by
    induction ms with
    | nil => rfl
    | cons m rest ih => simp only [List.map_cons, Descriptor.firstPrimitive?, hmethod, ih]
  simp only [Descriptor.validate, descriptor, hnone]
  rfl

/-- Two methods have the same event and the same signature. -/
def Clash (d : Declaration) : Prop :=
  ∃ (i j : Nat) (m m' : DeclaredMethod),
    i < j ∧ d.methods[i]? = some m ∧ d.methods[j]? = some m' ∧
      m.event = m'.event ∧ m.method.signature = m'.method.signature

theorem clash_iff (d : Declaration) : d.Clash ↔ ¬ d.descriptor.keys.Nodup := by
  have hkeys (i : Nat) :
      d.descriptor.keys[i]? = d.methods[i]?.map fun m => (m.event, m.method.signature) := by
    simp [descriptor, Descriptor.keys, Method.key, DeclaredMethod.method, Function.comp_def]
  rw [List.nodup_iff_getElem?_ne_getElem?]
  push Not
  constructor
  · rintro ⟨i, j, m, m', hij, hi, hj, hevent, hsig⟩
    have hlen : j < d.methods.length := (List.getElem?_eq_some_iff.mp hj).1
    refine ⟨i, j, hij, by simpa [Descriptor.keys, descriptor] using hlen, ?_⟩
    rw [hkeys, hkeys, hi, hj, Option.map_some, Option.map_some, hevent, hsig]
  · rintro ⟨i, j, hij, hlen, heq⟩
    have hj : j < d.methods.length := by simpa [Descriptor.keys, descriptor] using hlen
    have hi : i < d.methods.length := by omega
    rw [hkeys, hkeys, List.getElem?_eq_getElem hi, List.getElem?_eq_getElem hj] at heq
    obtain ⟨hevent, hsig⟩ := Prod.mk.inj (Option.some.inj heq)
    exact ⟨i, j, _, _, hij, List.getElem?_eq_getElem hi, List.getElem?_eq_getElem hj, hevent,
      hsig⟩

end Declaration

/-! ## Construction -/

/-- The type spaces of a process: fresh, or with the catalogue in it, and after any descriptors. -/
inductive Reachable : TypeSpace → Prop where
  | fresh : Reachable .empty
  | catalogue : Reachable Catalogue.space
  | after {space : TypeSpace} (d : Descriptor) :
      Reachable space → Reachable (space.synthesize d).2

theorem Reachable.sound {space : TypeSpace} (h : Reachable space) : space.Sound := by
  induction h with
  | fresh => exact .empty
  | catalogue =>
    refine ⟨fun t ht => ?_, fun _ ht => absurd ht List.not_mem_nil⟩
    obtain ⟨d, -, hd⟩ := List.mem_filterMap.mp ht
    split at hd
    · rename_i t' hgen
      cases hd
      obtain ⟨heq, hk⟩ := AdapterType.generate_eq_ok_iff.mp hgen
      exact AdapterType.generate_eq_ok_iff.mpr ⟨by rw [heq], by rw [heq]; exact hk⟩
    · cases hd
  | after d _ ih => exact ih.synthesize d

end Interface

namespace Relay

open Interface

theorem addAdapter_type (s : Relay) (e : EngineId) (type : AdapterType) :
    ((s.addAdapter e type).2.adapter (s.addAdapter e type).1).type = type := by
  simp [addAdapter, adapter, putAdapter, Table.get_put]

/-- A valid descriptor is adapted if its methods differ, and refused otherwise. -/
theorem newAdapter_of_sound {s : Relay} (hs : s.types.Sound) (e : EngineId) {d : Descriptor}
    (hv : d.validate = .ok ()) :
    (d.keys.Nodup ∧ ∃ a name, (s.newAdapter e d).1 = .ok a ∧
      ((s.newAdapter e d).2.adapter a).type = ⟨name, d, d.slots⟩) ∨
    (¬ d.keys.Nodup ∧ ∃ m, d.FirstRepeated m ∧ (s.newAdapter e d).1 =
      .error (.generation (.duplicateSlot d.name m.name m.signature))) := by
  have h := hs.synthesized d
  unfold newAdapter synthesize
  generalize s.types.synthesize d = out at h
  cases h with
  | refused error hv' => cases hv.symm.trans hv'
  | known t _ ht hd =>
    obtain ⟨heq, hk⟩ := AdapterType.generate_eq_ok_iff.mp (hs.generated t ht)
    subst hd
    exact .inl ⟨hk, _, t.name, rfl, (addAdapter_type s e t).trans heq⟩
  | repeated m _ _ hm hk => exact .inr ⟨hk, m, hm, rfl⟩
  | made t _ _ hk ht => exact .inl ⟨hk, _, _, rfl, (addAdapter_type _ e t).trans ht⟩

end Relay

/-! ## Calls -/

namespace Interface

open Relay
open Source (Ty)

/-- How a call of a trait method ends, given how its emission does. -/
inductive Answered (m : DeclaredMethod) :
    Exit InvocationError Unit → Exit Fault m.shape.Carrier → Prop where
  | neutral (typed : m.shape.Carrier) :
      m.shape.neutral = some typed → Answered m (.ok ()) (.ok typed)
  | listener (c : Cause) :
      Answered m (.error (.listener m.event c)) (.panic (.thrown (.listener m.event c)))
  | worker (c : Cause) : Answered m (.error (.worker c)) (.panic (.thrown (.worker c)))
  | panic (p : Panic) : Answered m (.panic p) (.panic p)
  | halt (h : Halt) : Answered m (.halt h) (.halt h)

/-- The slot of a method takes as many arguments as the method and reads its own result. -/
theorem callDeclared_answered {d : Declaration} {name : String} {m : DeclaredMethod} {k : Nat}
    {args : List Value} {s : Relay} {b : AdapterId} (x : Runner)
    (hret : returnType m.ret = .ok m.declared)
    (htype : (s.adapter b).type = ⟨name, d.descriptor, d.descriptor.slots⟩)
    (hm : d.methods[k]? = some m) (hargs : args.length = m.params.length) :
    let emitted := emit x b m.event (List.zipWith convertArgument m.params args) s
    (callDeclared x b k m args s).2 = emitted.2 ∧
      Answered m emitted.1 (callDeclared x b k m args s).1 := by
  have hslot : (s.adapter b).type.slot k = .ok (Slot.ofMethod k m.method) := by
    have hm' : d.descriptor.methods[k]? = some m.method := by
      simp [Declaration.descriptor, hm]
    rw [htype]
    simp only [AdapterType.slot, Descriptor.getElem?_slots, hm', Option.map_some]
  have harity : (List.zipWith convertArgument m.params args).length =
      (Slot.ofMethod k m.method).arity := by
    simp [Slot.arity, Slot.ofMethod, Method.arity, DeclaredMethod.method, hargs]
  have hcall : callSlot x b k (List.zipWith convertArgument m.params args) s =
      forward x b (Slot.ofMethod k m.method) (List.zipWith convertArgument m.params args) s := by
    simp only [callSlot, hslot]
  have herror {err : InvocationError} (h : (emit x b m.event
      (List.zipWith convertArgument m.params args) s).1 = .error err) :
      ∃ c, err = .listener m.event c ∨ err = .worker c := emit_error h
  obtain ⟨typed, hdecode, hneutral⟩ := decode_neutral hret
  have hname : (Slot.ofMethod k m.method).name = m.event := rfl
  have hpolicy : (Slot.ofMethod k m.method).policy = .ofType m.declared := rfl
  simp only [callDeclared, hcall, forward, harity, hname, hpolicy, ne_eq, not_true_eq_false,
    if_false]
  generalize emit x b m.event (List.zipWith convertArgument m.params args) s = emitted
    at herror ⊢
  obtain ⟨exit, s'⟩ := emitted
  cases exit with
  | ok _ =>
    dsimp only
    rw [hdecode]
    exact ⟨rfl, .neutral typed hneutral⟩
  | error err =>
    obtain ⟨c, rfl | rfl⟩ := herror rfl
    · exact ⟨rfl, .listener c⟩
    · exact ⟨rfl, .worker c⟩
  | panic p => exact ⟨rfl, .panic p⟩
  | halt h => exact ⟨rfl, .halt h⟩

theorem convertArgument_of_decode {t : Ty} {v : Value} {typed : t.shape.Carrier}
    (h : t.shape.decode v = .ok typed) : convertArgument t v = t.shape.encode typed := by
  simp only [convertArgument, h]

/-- Adapters of a declared interface do not fail by themselves. -/
structure Dependable (d : Declaration) : Prop where
  valid : d.descriptor.validate = .ok ()
  /-- Without a clash there is an adapter. -/
  made : ∀ (s : Relay) (e : EngineId), Reachable s.types → ¬ d.Clash →
    ∃ a, (s.newAdapter e d.descriptor).1 = .ok a
  /-- With one there is none, and the first method that repeats another is blamed for it. -/
  refused : ∀ (s : Relay) (e : EngineId), Reachable s.types → d.Clash →
    ∃ m, d.descriptor.FirstRepeated m ∧ (s.newAdapter e d.descriptor).1 =
      .error (.generation (.duplicateSlot d.interface m.name m.signature))
  /-- A call of the `k`-th method through any adapter of the type that was made, in any state and
  with any arguments, emits the event of the method with the arguments, and ends as the emission
  does. -/
  call : ∀ (s₀ : Relay) (e : EngineId) (a : AdapterId), Reachable s₀.types →
      (s₀.newAdapter e d.descriptor).1 = .ok a →
    ∀ (s : Relay) (b : AdapterId),
      (s.adapter b).type = ((s₀.newAdapter e d.descriptor).2.adapter a).type →
    ∀ (x : Runner) (k : Nat) (m : DeclaredMethod) (args : List Value),
      d.methods[k]? = some m → args.length = m.params.length →
      let converted := List.zipWith convertArgument m.params args
      let emitted := emit x b m.event converted s
      (callDeclared x b k m args s).2 = emitted.2 ∧
        Answered m emitted.1 (callDeclared x b k m args s).1 ∧
        (∀ p, emitted.1 = .panic p → x.Raises p) ∧
        converted.length = m.params.length ∧
        ∀ (i : Nat) (t : Ty) (v : Value) (typed : t.shape.Carrier), m.params[i]? = some t →
          args[i]? = some v → t.shape.decode v = .ok typed →
          converted[i]? = some (t.shape.encode typed)

/-- Every trait that declares an interface has dependable adapters. -/
theorem dependable_of_ofTrait {known : TraitArguments} {t : Trait} {d : Declaration}
    (h : Declaration.ofTrait known t = .ok d) : Dependable d where
  valid := d.validate_descriptor
  made s e hs hclash := by
    rcases newAdapter_of_sound hs.sound e d.validate_descriptor with ⟨-, a, name, ha, -⟩ | ⟨hk, -⟩
    · exact ⟨a, ha⟩
    · exact absurd (d.clash_iff.mpr hk) hclash
  refused s e hs hclash := by
    rcases newAdapter_of_sound hs.sound e d.validate_descriptor with ⟨hk, -⟩ | ⟨-, m, hrep, hm⟩
    · exact absurd hk (d.clash_iff.mp hclash)
    · exact ⟨m, hrep, hm⟩
  call s₀ e a hs₀ ha s b hb x k m args hm hargs := by
    have htype : ∃ name, (s.adapter b).type = ⟨name, d.descriptor, d.descriptor.slots⟩ := by
      rcases newAdapter_of_sound hs₀.sound e d.validate_descriptor with
        ⟨-, a', name, ha', htype⟩ | ⟨-, m', -, hm'⟩
      · obtain rfl : a = a' := by cases ha.symm.trans ha'; rfl
        exact ⟨name, hb.trans htype⟩
      · cases ha.symm.trans hm'
    obtain ⟨name, htype⟩ := htype
    obtain ⟨hstate, hanswer⟩ := callDeclared_answered x
      (Declaration.returnType_of_mem h (List.mem_of_getElem? hm)) htype hm hargs
    refine ⟨hstate, hanswer, fun p hp => emit_panic hp, by simp [hargs], ?_⟩
    intro i t v typed ht hv hdecode
    rw [List.getElem?_zipWith, ht, hv, ← convertArgument_of_decode hdecode]

/-- A trait with two methods that share an event and differ in their parameters. -/
def overloads : Trait :=
  let text : Ty := .name "String"
  let count : Ty := .path "" "Option" (some [.path "" "Option" (some [.name "i64"]) .plain]) .plain
  let method (name : String) (params : List Ty) (ret : Ty) : TraitItem :=
    .method ⟨name, some .shared, params, some ret, false, false, [.event (.ok (some "go"))]⟩
  ⟨"Overloads", "pub", false,
    [method "ask" [text] (.name "bool"), method "tell" [text, text] count]⟩

/-- A function that fails. -/
def failing : Script.Program := [("bad", .body [.fail "no"] none)]

/-- A listener hears the call of the first method, and another one makes it fail. -/
theorem dependable_overloads :
    let x := Script.runner failing 9
    ∃ d m a s s', Declaration.ofTrait .none overloads = .ok d ∧ Dependable d ∧
      d.methods[0]? = some m ∧ (Relay.initial.newAdapter 0 d.descriptor).1 = .ok a ∧
      s = ((Relay.initial.newAdapter 0 d.descriptor).2.listen a "go"
        (.function (Function.anonymous "f")) .sync).2 ∧
      s' = (s.listen a "go" (.function (Function.anonymous "bad")) .sync).2 ∧
      (∃ typed, m.shape.neutral = some typed ∧ (callDeclared x a 0 m [.str "?"] s).1 = .ok typed) ∧
      (callDeclared x a 0 m [.str "?"] s).2.log.map (fun call => call.map Value.text) =
        [["f", "?"]] ∧
      (callDeclared x a 0 m [.str "?"] s').1 = .panic (.thrown (.listener "go" (.text "no"))) := by
  intro x
  obtain ⟨d, hd⟩ : ∃ d, Declaration.ofTrait .none overloads = .ok d := ⟨_, rfl⟩
  have hdep : Dependable d := dependable_of_ofTrait hd
  obtain ⟨m, hm⟩ : ∃ m, d.methods[0]? = some m := by
    cases hd
    exact ⟨_, rfl⟩
  have hnodup : d.descriptor.keys.Nodup := by
    cases hd
    decide
  obtain ⟨a, ha⟩ := hdep.made Relay.initial 0 .fresh fun hclash => d.clash_iff.mp hclash hnodup
  obtain ⟨s, hs⟩ : ∃ s, s = ((Relay.initial.newAdapter 0 d.descriptor).2.listen a "go"
    (.function (Function.anonymous "f")) .sync).2 := ⟨_, rfl⟩
  obtain ⟨s', hs'⟩ : ∃ s', s' = (s.listen a "go" (.function (Function.anonymous "bad")) .sync).2 :=
    ⟨_, rfl⟩
  have hsame : (s.adapter a).type =
        ((Relay.initial.newAdapter 0 d.descriptor).2.adapter a).type ∧
      (s'.adapter a).type = ((Relay.initial.newAdapter 0 d.descriptor).2.adapter a).type := by
    cases hd
    cases ha
    rw [hs', hs]
    decide +kernel
  obtain ⟨hparams, hevent, hok, hlog, hfailed⟩ : m.params.length = 1 ∧ m.event = "go" ∧
      (emit x a m.event (List.zipWith convertArgument m.params [.str "?"]) s).1 = .ok () ∧
      (emit x a m.event (List.zipWith convertArgument m.params [.str "?"]) s).2.log.map
        (fun call => call.map Value.text) = [["f", "?"]] ∧
      (emit x a m.event (List.zipWith convertArgument m.params [.str "?"]) s').1 =
        .error (.listener m.event (.text "no")) := by
    cases hd
    cases hm
    cases ha
    rw [hs', hs]
    decide +kernel
  obtain ⟨hstate, hanswer, -⟩ :=
    hdep.call Relay.initial 0 a .fresh ha s a hsame.1 x 0 m [.str "?"] hm hparams.symm
  obtain ⟨-, hanswer', -⟩ :=
    hdep.call Relay.initial 0 a .fresh ha s' a hsame.2 x 0 m [.str "?"] hm hparams.symm
  refine ⟨d, m, a, s, s', hd, hdep, hm, ha, hs, hs', ?_, hstate ▸ hlog, ?_⟩
  · rw [hok] at hanswer
    generalize (callDeclared x a 0 m [.str "?"] s).1 = answer at hanswer ⊢
    cases hanswer with
    | neutral typed hneutral => exact ⟨typed, hneutral, rfl⟩
  · rw [hfailed] at hanswer'
    generalize (callDeclared x a 0 m [.str "?"] s').1 = answer at hanswer' ⊢
    cases hanswer' with
    | listener c => rw [hevent]

end Interface
end EventRelay
