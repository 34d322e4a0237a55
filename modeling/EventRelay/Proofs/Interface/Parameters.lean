import EventRelay.Interface.Declaration

/-!
# EventRelay.Proofs.Interface.Parameters

Which parameter types a method may have, and how they are declared.

* `Ty.layers`, `Ty.base`: the optional layers around a type, and what they are around.
  `strip_layers` says that nothing else is taken away and nothing is left to take.
* `Ty.Fits`: the parameter types, by their layers and their base.
* `checkParam_eq_ok_iff`, `referenceName_eq`: the check and the name, by induction on the layers.
* `ofTrait_isOk_iff`: all that has to hold for a method to be declared.
* `parameters_by_base`: a method is declared exactly if its parameters fit, each under a name that
  depends on its base alone.
* `bare_text_declared`: text that is not borrowed goes by the name of borrowed text.
-/

namespace EventRelay
namespace Source
namespace Ty

open Interface

variable {t inner : Ty}

/-! ## Optional layers -/

/-- The number of optional layers around a type. -/
def layers : Ty → Nat
  | path _ name (some [inner]) _ => if isOptional name inner then layers inner + 1 else 0
  | _ => 0

/-- What the optional layers are around. -/
def base : Ty → Ty
  | path lead name (some [inner]) style =>
    if isOptional name inner then base inner else path lead name (some [inner]) style
  | t => t

/-- Takes a number of optional layers away, if there are so many. -/
def strip (t : Ty) : Nat → Option Ty
  | 0 => some t
  | k + 1 => t.optionInner?.bind fun inner => inner.strip k

/-- Only a path with one argument is an optional layer. -/
theorem eq_path_of_inner (h : t.optionInner? = some inner) :
    ∃ lead name style, t = path lead name (some [inner]) style ∧ isOptional name inner = true := by
  unfold optionInner? at h
  split at h
  · rename_i lead name arg style
    split at h
    · rename_i hopt
      cases h
      exact ⟨lead, name, style, rfl, hopt⟩
    · cases h
  · cases h

theorem layers_of_inner (h : t.optionInner? = some inner) : t.layers = inner.layers + 1 := by
  obtain ⟨lead, name, style, rfl, hopt⟩ := eq_path_of_inner h
  rw [layers, if_pos hopt]

theorem base_of_inner (h : t.optionInner? = some inner) : t.base = inner.base := by
  obtain ⟨lead, name, style, rfl, hopt⟩ := eq_path_of_inner h
  rw [base, if_pos hopt]

theorem not_optional {lead name : String} {style : ListStyle}
    (h : (path lead name (some [inner]) style).optionInner? = none) :
    ¬ isOptional name inner = true := by
  intro hopt
  rw [optionInner?, if_pos hopt] at h
  cases h

theorem layers_of_none (h : t.optionInner? = none) : t.layers = 0 := by
  unfold layers
  split
  · rw [if_neg (not_optional h)]
  · rfl

theorem base_of_none (h : t.optionInner? = none) : t.base = t := by
  unfold base
  split
  · rw [if_neg (not_optional h)]
  · rfl

/-- Induction on the optional layers. -/
theorem layered {motive : Ty → Prop} (bare : ∀ t, t.optionInner? = none → motive t)
    (layer : ∀ t inner, t.optionInner? = some inner → motive inner → motive t) (t : Ty) :
    motive t := by
  fun_induction base t with
  | case1 lead name arg style hopt ih => exact layer _ arg (by rw [optionInner?, if_pos hopt]) ih
  | case2 lead name arg style hopt => exact bare _ (by rw [optionInner?, if_neg hopt])
  | case3 t hpath =>
    refine bare t ?_
    unfold optionInner?
    split
    · exact absurd rfl (hpath _ _ _ _)
    · rfl

theorem strip_layers (t : Ty) : t.strip t.layers = some t.base ∧ t.base.optionInner? = none := by
  induction t using layered with
  | bare t h =>
    rw [layers_of_none h, base_of_none h]
    exact ⟨rfl, h⟩
  | layer t inner h ih =>
    rw [layers_of_inner h, base_of_inner h, strip, h]
    exact ih

/-! ## The check -/

def IsBorrowed (t : Ty) : Prop := ∃ elem mutable lifetime, t = ref elem mutable lifetime

/-- Borrowed text, by the last segment of what is borrowed. -/
def IsBorrowedText (t : Ty) : Prop :=
  ∃ elem mutable lifetime, t = ref elem mutable lifetime ∧ elem.lastSegment? = some "str"

/-- A path without arguments whose last segment is one of the names. -/
def IsNamed (names : List String) (t : Ty) : Prop :=
  ∃ lead name style, t = path lead name none style ∧ name ∈ names

/-- The parameter types: borrowed text, or what is not borrowed, and without optional layers is no
primitive, and under them no whole number type that is wider than values can hold. -/
def Fits (k : Nat) (b : Ty) : Prop :=
  b.IsBorrowedText ∨ ¬ b.IsBorrowed ∧
    (k = 0 ∧ b.primitive? = none ∨ 1 ≤ k ∧ ¬ b.IsNamed ["u64", "isize", "usize"])

theorem IsBorrowedText.isBorrowed (h : t.IsBorrowedText) : t.IsBorrowed := by
  obtain ⟨elem, mutable, lifetime, rfl, -⟩ := h
  exact ⟨elem, mutable, lifetime, rfl⟩

theorem IsNamed.not_borrowed {names : List String} (h : t.IsNamed names) : ¬ t.IsBorrowed := by
  obtain ⟨lead, name, style, rfl, -⟩ := h
  rintro ⟨_, _, _, heq⟩
  cases heq

theorem name_not_borrowed (n : String) : ¬ (name n).IsBorrowed := by
  rintro ⟨_, _, _, heq⟩
  cases heq

theorem optionInner?_of_primitive {row : PrimitiveRow} (h : t.primitive? = some row) :
    t.optionInner? = none := by
  unfold primitive? at h
  split at h
  · rfl
  · cases h

theorem primitive?_of_inner (h : t.optionInner? = some inner) : t.primitive? = none := by
  obtain ⟨lead, name, style, rfl, -⟩ := eq_path_of_inner h
  rfl

theorem isUnconvertible_iff : t.isUnconvertible = true ↔ t.IsNamed ["u64", "isize", "usize"] := by
  constructor
  · intro h
    unfold isUnconvertible at h
    split at h
    · rename_i row hrow
      unfold primitive? at hrow
      split at hrow
      · rename_i lead name style
        have hname : row.name = name := by simpa using List.find?_some hrow
        refine ⟨lead, name, style, rfl, ?_⟩
        rw [← hname]
        exact List.contains_iff_mem.mp h
      · cases hrow
    · cases h
  · rintro ⟨lead, name, style, rfl, hname⟩
    simp only [List.mem_cons, List.not_mem_nil, or_false] at hname
    rcases hname with rfl | rfl | rfl <;> rfl

theorem checkParam_of_inner (h : t.optionInner? = some inner) :
    t.checkParam = if inner.isUnconvertible then .error .tooWide else inner.checkParam := by
  obtain ⟨lead, name, style, rfl, hopt⟩ := eq_path_of_inner h
  rw [checkParam, if_pos hopt]

theorem checkParam_of_not_borrowed (h : t.optionInner? = none) (hb : ¬ t.IsBorrowed) :
    t.checkParam = .ok () := by
  unfold checkParam
  split
  · exact absurd ⟨_, _, _, rfl⟩ hb
  · rw [if_neg (not_optional h)]
  · rfl

theorem checkParam_of_borrowed (h : t.IsBorrowed) :
    t.checkParam = .ok () ↔ t.IsBorrowedText := by
  obtain ⟨elem, mutable, lifetime, rfl⟩ := h
  rw [checkParam]
  by_cases hstr : elem.lastSegment? = some "str"
  · simp [hstr, IsBorrowedText]
  · simp [hstr, IsBorrowedText]

theorem checkParam_eq_ok_iff (t : Ty) : t.checkParam = .ok () ↔
    t.base.IsBorrowedText ∨
      ¬ t.base.IsBorrowed ∧ (t.layers = 0 ∨ ¬ t.base.IsNamed ["u64", "isize", "usize"]) := by
  induction t using layered with
  | bare t h =>
    rw [layers_of_none h, base_of_none h]
    by_cases hb : t.IsBorrowed
    · simp [checkParam_of_borrowed hb, hb]
    · simp [checkParam_of_not_borrowed h hb, hb]
  | layer t inner h ih =>
    rw [checkParam_of_inner h, layers_of_inner h, base_of_inner h]
    cases hinner : inner.optionInner? with
    | none =>
      rw [layers_of_none hinner, base_of_none hinner] at ih
      rw [base_of_none hinner]
      by_cases hwide : inner.isUnconvertible = true
      · have hnamed := isUnconvertible_iff.mp hwide
        have htext : ¬ inner.IsBorrowedText := fun htext => hnamed.not_borrowed htext.isBorrowed
        simp [hwide, hnamed, htext]
      · rw [if_neg hwide, ih]
        rw [isUnconvertible_iff] at hwide
        simp [hwide]
    | some arg =>
      have hnarrow : ¬ inner.isUnconvertible = true := by
        simp [isUnconvertible, primitive?_of_inner hinner]
      rw [if_neg hnarrow, ih, layers_of_inner hinner]
      simp

theorem fits_iff (t : Ty) :
    t.primitive? = none ∧ t.checkParam = .ok () ↔ Fits t.layers t.base := by
  rw [checkParam_eq_ok_iff, Fits]
  cases h : t.optionInner? with
  | none =>
    rw [layers_of_none h, base_of_none h]
    have htext (htext : t.IsBorrowedText) : t.primitive? = none := by
      obtain ⟨elem, mutable, lifetime, rfl⟩ := htext.isBorrowed
      rfl
    simp only [true_or, and_true, true_and]
    grind
  | some inner =>
    rw [layers_of_inner h, primitive?_of_inner h]
    simp

/-! ## The name -/

/-- The name under which a base is declared. -/
def declaredName (b : Ty) : String :=
  match b with
  | ref _ _ _ => "java.lang.String"
  | b =>
    match b.primitive? with
    | some row => row.boxed
    | none => b.plainName

/-- The names of bases: primitives are boxed, text, any value, lists and maps have names of their
own, and all else is declared by its own text. -/
inductive DeclaredAs : Ty → String → Prop where
  | boxed {b : Ty} {row : PrimitiveRow} : b.primitive? = some row → DeclaredAs b row.boxed
  | borrowed {b : Ty} : b.IsBorrowed → DeclaredAs b "java.lang.String"
  | text {b : Ty} : b.lastSegment? = some "String" ∨ b.lastSegment? = some "str" →
      DeclaredAs b "java.lang.String"
  | any {b : Ty} : b.lastSegment? = some "Value" → DeclaredAs b "java.lang.Object"
  | list {b : Ty} : b.lastSegment? = some "Vec" → DeclaredAs b "java.util.List"
  | map {b : Ty} : b.lastSegment? = some "BTreeMap" ∨ b.lastSegment? = some "HashMap" →
      DeclaredAs b "java.util.Map"
  | own {b : Ty} : ¬ b.IsBorrowed → b.primitive? = none →
      (∀ name ∈ ["String", "str", "Value", "Vec", "BTreeMap", "HashMap"],
        b.lastSegment? ≠ some name) → DeclaredAs b b.text

theorem declaredName_of_not_borrowed (h : ¬ t.IsBorrowed) (hp : t.primitive? = none) :
    t.declaredName = t.plainName := by
  unfold declaredName
  split
  · exact absurd ⟨_, _, _, rfl⟩ h
  · rw [hp]

theorem declaredName_of_primitive {row : PrimitiveRow} (h : t.primitive? = some row) :
    t.declaredName = row.boxed := by
  unfold declaredName
  split
  · cases h
  · rw [h]

/-- Names that only stand for themselves are no primitives. -/
theorem not_primitive_of_named {name : String} (h : t.lastSegment? = some name)
    (hname : name ∈ ["String", "str", "Value", "Vec", "BTreeMap", "HashMap"]) :
    ¬ t.IsBorrowed ∧ t.primitive? = none := by
  constructor
  · rintro ⟨_, _, _, rfl⟩
    cases h
  · unfold primitive?
    split
    · obtain rfl := Option.some.inj h
      revert hname
      simp only [List.mem_cons, List.not_mem_nil, or_false]
      rintro (rfl | rfl | rfl | rfl | rfl | rfl) <;> rfl
    · rfl

theorem declaredName_of_named {name : String} (h : t.lastSegment? = some name)
    (hname : name ∈ ["String", "str", "Value", "Vec", "BTreeMap", "HashMap"]) :
    t.declaredName = t.plainName :=
  declaredName_of_not_borrowed (not_primitive_of_named h hname).1
    (not_primitive_of_named h hname).2

theorem declaredAs_declaredName (b : Ty) : DeclaredAs b b.declaredName := by
  by_cases hb : b.IsBorrowed
  · obtain ⟨elem, mutable, lifetime, rfl⟩ := hb
    exact .borrowed ⟨_, _, _, rfl⟩
  cases hp : b.primitive? with
  | some row =>
    rw [declaredName_of_primitive hp]
    exact .boxed hp
  | none =>
    rw [declaredName_of_not_borrowed hb hp]
    unfold plainName
    split
    · rename_i h
      exact .text (.inl h)
    · rename_i h
      exact .text (.inr h)
    · rename_i h
      exact .any h
    · rename_i h
      exact .list h
    · rename_i h
      exact .map (.inl h)
    · rename_i h
      exact .map (.inr h)
    · exact .own hb hp (by simp_all)

/-- Every base has exactly one name. -/
theorem declaredAs_iff {b : Ty} {name : String} : DeclaredAs b name ↔ name = b.declaredName := by
  refine ⟨fun h => ?_, fun h => h ▸ declaredAs_declaredName b⟩
  cases h with
  | boxed hp => rw [declaredName_of_primitive hp]
  | borrowed hb =>
    obtain ⟨elem, mutable, lifetime, rfl⟩ := hb
    rfl
  | text h => rcases h with h | h <;> simp [declaredName_of_named h, plainName, h]
  | any h | list h => simp [declaredName_of_named h, plainName, h]
  | map h => rcases h with h | h <;> simp [declaredName_of_named h, plainName, h]
  | own hb hp hnames =>
    rw [declaredName_of_not_borrowed hb hp, plainName]
    simp only [List.forall_mem_cons] at hnames
    split <;> simp_all

theorem referenceName_of_inner (h : t.optionInner? = some inner) : t.referenceName =
    match inner.primitive? with
    | some row => row.boxed
    | none => inner.referenceName := by
  obtain ⟨lead, name, style, rfl, hopt⟩ := eq_path_of_inner h
  rw [referenceName]
  exact if_pos hopt

theorem referenceName_of_not_borrowed (h : t.optionInner? = none) (hb : ¬ t.IsBorrowed) :
    t.referenceName = t.plainName := by
  unfold referenceName
  split
  · exact absurd ⟨_, _, _, rfl⟩ hb
  · rw [if_neg (not_optional h)]
  · rfl

/-- The name of borrowed text. -/
theorem referenceName_of_text (h : t.lastSegment? = some "str") :
    t.referenceName = "java.lang.String" := by
  have hb : ¬ t.IsBorrowed := by
    rintro ⟨_, _, _, rfl⟩
    cases h
  have hnone : t.optionInner? = none := by
    cases hinner : t.optionInner? with
    | none => rfl
    | some inner =>
      obtain ⟨lead, name, style, rfl, hopt⟩ := eq_path_of_inner hinner
      obtain rfl : name = "str" := Option.some.inj h
      cases hopt
  rw [referenceName_of_not_borrowed hnone hb, plainName, h]
  rfl

/-- By induction on the layers, the name of a parameter is that of its base. A primitive is boxed
under the innermost layer, and there is one since it is no parameter by itself. -/
theorem referenceName_eq (hp : t.primitive? = none)
    (hb : t.base.IsBorrowed → t.base.IsBorrowedText) :
    t.referenceName = t.base.declaredName := by
  induction t using layered with
  | bare t h =>
    rw [base_of_none h] at hb ⊢
    by_cases hborrowed : t.IsBorrowed
    · obtain ⟨elem, mutable, lifetime, rfl, helem⟩ := hb hborrowed
      rw [referenceName, referenceName_of_text helem, declaredName]
    · rw [referenceName_of_not_borrowed h hborrowed, declaredName_of_not_borrowed hborrowed hp]
  | layer t inner h ih =>
    rw [base_of_inner h] at hb ⊢
    rw [referenceName_of_inner h]
    cases hinner : inner.primitive? with
    | some row =>
      rw [base_of_none (optionInner?_of_primitive hinner), declaredName_of_primitive hinner]
    | none => exact ih hinner hb

/-- The name of a parameter depends on its base alone. -/
theorem referenceName_of_fits (h : Fits t.layers t.base) :
    t.referenceName = t.base.declaredName := by
  refine referenceName_eq (fits_iff t |>.mpr h).1 fun hb => ?_
  rcases h with h | ⟨h, -⟩
  · exact h
  · exact absurd hb h

/-- A further optional layer around a parameter. -/
theorem fits_of_inner (h : t.optionInner? = some inner) (hf : Fits inner.layers inner.base) :
    Fits t.layers t.base := by
  rw [layers_of_inner h, base_of_inner h]
  refine hf.imp_right fun ⟨hb, hkind⟩ => ⟨hb, .inr ⟨Nat.le_add_left 1 _, ?_⟩⟩
  rcases hkind with ⟨-, hp⟩ | ⟨-, hnarrow⟩
  · intro hnamed
    have hwide := isUnconvertible_iff.mpr hnamed
    simp [isUnconvertible, hp] at hwide
  · exact hnarrow

end Ty
end Source

namespace Interface

open Source (Ty)

/-! ## Methods -/

theorem checkParams_eq_ok_iff {interface event : String} {ts : List Ty} {start : Nat} :
    checkParams interface event ts start = .ok () ↔ ∀ t ∈ ts, Ty.Fits t.layers t.base := by
  induction ts generalizing start with
  | nil => exact iff_of_true rfl nofun
  | cons t rest ih =>
    have hrest : checkParams interface event rest (start + 1) = .ok () ↔
        ∀ t ∈ rest, Ty.Fits t.layers t.base := ih
    rw [checkParams, List.forall_mem_cons, ← Ty.fits_iff, ← hrest]
    cases t.primitive? with
    | some row => simp
    | none =>
      cases t.checkParam with
      | error e => simp
      | ok _ => simp

/-- All that is asked of a method but for its parameters. -/
structure TraitMethod.Regular (m : TraitMethod) : Prop where
  attributes : ∃ named, eventName m.attributes none = .ok named
  notAsync : m.isAsync = false
  notGeneric : m.isGeneric = false
  shared : m.receiver = some .shared
  returns : ∃ declared, returnType m.ret = .ok declared

namespace DeclaredMethod

variable {interface : String} {m : TraitMethod} {d : DeclaredMethod}

theorem of_ofTrait_eq_ok (h : ofTrait interface m = .ok d) :
    m.Regular ∧ (∀ t ∈ m.params, Ty.Fits t.layers t.base) ∧ d.params = m.params := by
  unfold ofTrait at h
  split at h
  · cases h
  rename_i named hnamed
  dsimp only at h
  split at h
  · cases h
  rename_i hasync
  split at h
  · cases h
  rename_i hgeneric
  split at h
  · cases h
  rename_i hreceiver
  split at h
  · cases h
  rename_i hparams
  split at h
  · cases h
  rename_i declared hret
  cases h
  exact ⟨⟨⟨named, hnamed⟩, Bool.not_eq_true _ ▸ hasync, Bool.not_eq_true _ ▸ hgeneric,
    Decidable.not_not.mp hreceiver, declared, hret⟩, checkParams_eq_ok_iff.mp hparams, rfl⟩

theorem ofTrait_isOk_iff : (∃ d, ofTrait interface m = .ok d) ↔
    m.Regular ∧ ∀ t ∈ m.params, Ty.Fits t.layers t.base := by
  constructor
  · rintro ⟨d, h⟩
    obtain ⟨hm, hparams, -⟩ := of_ofTrait_eq_ok h
    exact ⟨hm, hparams⟩
  · rintro ⟨⟨⟨named, hnamed⟩, hasync, hgeneric, hreceiver, declared, hret⟩, hfits⟩
    have hparams (event : String) : checkParams interface event m.params 0 = .ok () :=
      checkParams_eq_ok_iff.mpr hfits
    simp [ofTrait, hnamed, hasync, hgeneric, hreceiver, hparams, hret]

/-- Every parameter is declared as a named reference. -/
theorem method_params_of_ofTrait (h : ofTrait interface m = .ok d) :
    d.method.params = m.params.map fun t => .reference t.base.declaredName := by
  obtain ⟨-, hfits, hparams⟩ := of_ofTrait_eq_ok h
  rw [method, hparams]
  exact List.map_congr_left fun t ht =>
    congrArg TypeRef.reference (Ty.referenceName_of_fits (hfits t ht))

end DeclaredMethod

/-- A regular method is declared exactly if its parameters fit, by their optional layers and what
is under them, and then each of them under a name that depends on what is under the layers alone.
So one more layer around a parameter changes nothing. -/
theorem parameters_by_base :
    (∀ t : Ty, t.strip t.layers = some t.base ∧ t.base.optionInner? = none) ∧
    (∀ (interface : String) (m : TraitMethod), (∃ d, DeclaredMethod.ofTrait interface m = .ok d) ↔
      m.Regular ∧ ∀ t ∈ m.params, Ty.Fits t.layers t.base) ∧
    (∀ (interface : String) (m : TraitMethod) (d : DeclaredMethod),
      DeclaredMethod.ofTrait interface m = .ok d →
        d.method.params = m.params.map fun t => .reference t.base.declaredName) ∧
    (∀ (b : Ty) (name : String), Ty.DeclaredAs b name ↔ name = b.declaredName) ∧
    ∀ t inner : Ty, t.optionInner? = some inner → Ty.Fits inner.layers inner.base →
      Ty.Fits t.layers t.base ∧ t.referenceName = inner.referenceName := by
  refine ⟨Ty.strip_layers, fun _ _ => DeclaredMethod.ofTrait_isOk_iff,
    fun _ _ _ => DeclaredMethod.method_params_of_ofTrait, fun _ _ => Ty.declaredAs_iff, ?_⟩
  intro t inner h hf
  have hfits := Ty.fits_of_inner h hf
  exact ⟨hfits, by
    rw [Ty.referenceName_of_fits hfits, Ty.referenceName_of_fits hf, Ty.base_of_inner h]⟩

/-- A method with one parameter and nothing else to say. -/
def oneParameter (t : Ty) : TraitMethod := ⟨"on", some .shared, [t], none, false, false, []⟩

/-- Borrowed text under two optional layers, and a wide number under one. -/
theorem parameters_by_base_nested :
    let layer (t : Ty) : Ty := .path "std::option::" "Option" (some [t]) .plain
    let text : Ty := .ref (.name "str") false none
    (∃ d, DeclaredMethod.ofTrait "L" (oneParameter (layer (layer text))) = .ok d ∧
      d.method.params = [.reference "java.lang.String"]) ∧
    (¬ ∃ d, DeclaredMethod.ofTrait "L" (oneParameter (layer (.name "u64"))) = .ok d) ∧
    (layer (.name "i64")).referenceName = "java.lang.Long" ∧
    (layer (layer (.name "i64"))).referenceName = (layer (.name "i64")).referenceName := by
  intro layer text
  obtain ⟨-, haccepts, hdeclares, -, hwraps⟩ := parameters_by_base
  have hregular (t : Ty) : (oneParameter t).Regular := ⟨⟨none, rfl⟩, rfl, rfl, rfl, .void, rfl⟩
  refine ⟨?_, ?_, rfl, ?_⟩
  · have hfits : Ty.Fits 2 text := .inl ⟨_, _, _, rfl, rfl⟩
    obtain ⟨d, hd⟩ := (haccepts "L" (oneParameter (layer (layer text)))).mpr
      ⟨hregular _, List.forall_mem_singleton.mpr hfits⟩
    exact ⟨d, hd, hdeclares _ _ _ hd⟩
  · intro hd
    have hfits := List.forall_mem_singleton.mp ((haccepts "L" _).mp hd).2
    rcases hfits with ⟨_, _, _, heq, -⟩ | ⟨-, ⟨hk, -⟩ | ⟨-, hnamed⟩⟩
    · cases heq
    · cases hk
    · exact hnamed ⟨"", "u64", .plain, rfl, by decide⟩
  · have hnarrow : ¬ Ty.IsNamed ["u64", "isize", "usize"] (.name "i64") := by
      rintro ⟨_, _, _, heq, hname⟩
      cases heq
      revert hname
      decide
    exact (hwraps (layer (layer (.name "i64"))) (layer (.name "i64")) rfl
      (.inr ⟨Ty.name_not_borrowed "i64", .inr ⟨Nat.le_refl 1, hnarrow⟩⟩)).2

/-- A bare `str` is neither borrowed nor one of the other types with a name of their own, and yet
it is not declared by its own text. -/
theorem bare_text_declared :
    let t : Ty := .name "str"
    t.layers = 0 ∧ t.base = t ∧ ¬ t.IsBorrowed ∧ t.primitive? = none ∧
      (∀ name ∈ ["String", "Value", "Vec", "BTreeMap", "HashMap"],
        t.lastSegment? ≠ some name) ∧
      ∃ d, DeclaredMethod.ofTrait "L" (oneParameter t) = .ok d ∧
        d.method.params = [.reference "java.lang.String"] ∧
        d.method.params ≠ [.reference t.text] := by
  exact ⟨rfl, rfl, Ty.name_not_borrowed "str", rfl, by decide, _, rfl, rfl, by decide⟩

end Interface
end EventRelay
