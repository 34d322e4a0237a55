import Mathlib.Data.List.Induction
import Std.Data.HashMap.Lemmas
import EventRelay.Host.Modules

/-!
# EventRelay.Proofs.Host.Modules

What modules export after any history of definitions.

* `Edit`: one export is defined or undefined. `Modules.edited`: exports after some edits.
* `Modules.find?_edit`: what one edit does to the view.
* `Modules.find?_edited`: the latest definition of a pair counts, unless the pair was undefined
  after it.
* `Modules.Alike`: tables that nobody can tell apart by looking up exports. Edits of different pairs
  commute up to this.
* `Nested`: a table for each module, which stays when it is empty. It looks the same from outside.
* `Modules.Resolves`: what a history makes of a pair.
-/

namespace EventRelay

/-- A change of one export. -/
inductive Edit where
  | define (module name : String) (f : Function)
  | undefine (module name : String)

namespace Edit

def pair : Edit → String × String
  | define module name _ => (module, name)
  | undefine module name => (module, name)

/-- What is exported under the pair afterwards. -/
def exported? : Edit → Option Function
  | define _ _ f => some f
  | undefine _ _ => none

theorem eq_define {d : Edit} {module name : String} {f : Function} (hpair : d.pair = (module, name))
    (hf : d.exported? = some f) : d = .define module name f := by
  cases d with
  | define k l g =>
    cases hpair
    cases hf
    rfl
  | undefine k l => cases hf

end Edit

namespace Modules

def edit (m : Modules) : Edit → Modules
  | .define module name f => m.define module name f
  | .undefine module name => (m.undefine module name).2

/-- The exports after some edits, the oldest first. -/
def edited (m : Modules) (h : List Edit) : Modules := h.foldl edit m

section

variable {m m' : Modules} {h : List Edit} {module name : String} {f : Function}

@[simp] theorem edited_nil (m : Modules) : m.edited [] = m := rfl

@[simp] theorem edited_append (m : Modules) (h h' : List Edit) :
    m.edited (h ++ h') = (m.edited h).edited h' :=
  List.foldl_append

theorem edited_singleton (m : Modules) (d : Edit) : m.edited [d] = m.edit d := rfl

/-! ## One edit -/

theorem find?_without (m : Modules) (module name k l : String) :
    find? ⟨m.without module name⟩ k l = if (module, name) = (k, l) then none else m.find? k l := by
  unfold find? without
  rw [List.find?_filter]
  split
  · rename_i heq
    rw [Option.map_eq_none_iff, List.find?_eq_none]
    simp [heq]
  · rename_i hne
    congr 2
    funext e
    by_cases he : e.1 = (k, l)
    · simp [he, Ne.symm hne]
    · simp [he]

theorem find?_define (m : Modules) (module name k l : String) (f : Function) :
    (m.define module name f).find? k l =
      if (module, name) = (k, l) then some f else m.find? k l := by
  have hrest := find?_without m module name k l
  unfold define
  by_cases heq : (module, name) = (k, l)
  · simp [find?, heq]
  · rw [if_neg heq] at hrest ⊢
    rw [← hrest]
    simp [find?, heq]

/-- An edit replaces the export of its pair and no other one. -/
theorem find?_edit (m : Modules) (d : Edit) (module name : String) :
    (m.edit d).find? module name =
      if d.pair = (module, name) then d.exported? else m.find? module name := by
  cases d with
  | define k l f => exact find?_define m k l module name f
  | undefine k l => exact find?_without m k l module name

/-! ## The latest definition -/

theorem resolve_eq_ok : m.resolve module name = .ok f ↔ m.find? module name = some f := by
  unfold resolve
  cases m.find? module name <;> simp

theorem resolve_eq_error :
    m.resolve module name = .error (.unresolvedTarget module name) ↔
      m.find? module name = none := by
  unfold resolve
  cases m.find? module name <;> simp

theorem resolve_cases (m : Modules) (module name : String) :
    (∃ f, m.resolve module name = .ok f) ∨
      m.resolve module name = .error (.unresolvedTarget module name) := by
  cases hf : m.find? module name with
  | none => exact .inr (resolve_eq_error.mpr hf)
  | some f => exact .inl ⟨f, resolve_eq_ok.mpr hf⟩

/-- A function was defined for the pair, and later edits are edits of other pairs. -/
def Latest (h : List Edit) (module name : String) (f : Function) : Prop :=
  ∃ before after, h = before ++ .define module name f :: after ∧
    ∀ d ∈ after, d.pair ≠ (module, name)

theorem latest_snoc (h : List Edit) (d : Edit) :
    Latest (h ++ [d]) module name f ↔
      if d.pair = (module, name) then d.exported? = some f else Latest h module name f := by
  constructor
  · rintro ⟨before, after, heq, hafter⟩
    rcases List.eq_nil_or_concat after with rfl | ⟨after, last, rfl⟩
    · obtain ⟨-, hd⟩ := List.append_inj' heq rfl
      cases hd
      simp [Edit.pair, Edit.exported?]
    · rw [List.concat_eq_append] at heq hafter
      rw [← List.cons_append, ← List.append_assoc] at heq
      obtain ⟨rfl, hd⟩ := List.append_inj' heq rfl
      cases hd
      rw [if_neg (hafter d (by simp))]
      exact ⟨before, after, rfl, fun d' hd' => hafter d' (List.mem_append_left _ hd')⟩
  · split
    · rename_i hpair
      intro hf
      exact ⟨h, [], by rw [Edit.eq_define hpair hf], by simp⟩
    · rename_i hpair
      rintro ⟨before, after, rfl, hafter⟩
      refine ⟨before, after ++ [d], by simp, fun d' hd' => ?_⟩
      rcases List.mem_append.mp hd' with hd' | hd'
      · exact hafter d' hd'
      · exact List.mem_singleton.mp hd' ▸ hpair

/-- By induction on the history, from its latest edit on. -/
theorem find?_edited (h : List Edit) (module name : String) (f : Function) :
    (empty.edited h).find? module name = some f ↔ Latest h module name f := by
  induction h using List.reverseRecOn with
  | nil => simp [edited, empty, find?, Latest]
  | append_singleton h d ih =>
    rw [edited_append, edited_singleton, find?_edit, latest_snoc]
    split
    · rfl
    · exact ih

/-- An edit of another pair does not matter. -/
theorem resolve_edit_of_ne {d : Edit} (hne : d.pair ≠ (module, name)) :
    (m.edit d).resolve module name = m.resolve module name := by
  unfold resolve
  rw [find?_edit, if_neg hne]

/-- What is undefined is what would have been looked up. -/
theorem undefine_fst (m : Modules) (module name : String) :
    (m.undefine module name).1 = (m.resolve module name).toOption := by
  unfold undefine resolve
  cases m.find? module name <;> rfl

/-! ## Tables that look the same -/

def Alike (m m' : Modules) : Prop := ∀ module name, m.find? module name = m'.find? module name

theorem Alike.edit (h : Alike m m') (d : Edit) : Alike (m.edit d) (m'.edit d) := by
  intro module name
  rw [find?_edit, find?_edit, h module name]

theorem Alike.edited (hm : Alike m m') (h : List Edit) : Alike (m.edited h) (m'.edited h) := by
  induction h generalizing m m' with
  | nil => exact hm
  | cons d h ih => exact ih (hm.edit d)

theorem Alike.resolve (h : Alike m m') (module name : String) :
    m.resolve module name = m'.resolve module name := by
  unfold Modules.resolve
  rw [h module name]

theorem edit_comm (m : Modules) {d d' : Edit} (hne : d.pair ≠ d'.pair) :
    Alike ((m.edit d).edit d') ((m.edit d').edit d) := by
  intro module name
  simp only [find?_edit]
  by_cases hd : d.pair = (module, name)
  · have hd' : d'.pair ≠ (module, name) := fun hd' => hne (hd.trans hd'.symm)
    rw [if_neg hd', if_pos hd, if_pos hd]
  · rw [if_neg hd, if_neg hd]

/-- The order of edits of different pairs makes no difference later on. -/
theorem edited_swap (before after : List Edit) {d d' : Edit} (hne : d.pair ≠ d'.pair) :
    Alike (m.edited (before ++ d :: d' :: after)) (m.edited (before ++ d' :: d :: after)) := by
  rw [edited_append, edited_append]
  exact (edit_comm (m.edited before) hne).edited after

end

end Modules

/-! ## A table for each module -/

/-- The exports of each module in a table of its own. -/
structure Nested where
  modules : Std.HashMap String (Std.HashMap String Function)

namespace Nested

def empty : Nested := ⟨∅⟩

def find? (n : Nested) (module name : String) : Option Function :=
  n.modules[module]?.bind fun exports => exports[name]?

def define (n : Nested) (module name : String) (f : Function) : Nested :=
  ⟨n.modules.insert module ((n.modules.getD module ∅).insert name f)⟩

/-- Takes an export back and returns it. The table of its module stays, even without exports. -/
def undefine (n : Nested) (module name : String) : Option Function × Nested :=
  match n.modules[module]? with
  | none => (none, n)
  | some exports => (exports[name]?, ⟨n.modules.insert module (exports.erase name)⟩)

def edit (n : Nested) : Edit → Nested
  | .define module name f => n.define module name f
  | .undefine module name => (n.undefine module name).2

def edited (n : Nested) (h : List Edit) : Nested := h.foldl edit n

theorem undefine_fst (n : Nested) (module name : String) :
    (n.undefine module name).1 = n.find? module name := by
  unfold undefine find?
  cases n.modules[module]? <;> rfl

theorem find?_edit (n : Nested) (d : Edit) (module name : String) :
    (n.edit d).find? module name =
      if d.pair = (module, name) then d.exported? else n.find? module name := by
  cases d with
  | define k l f =>
    by_cases hmodule : k = module
    · subst hmodule
      by_cases hname : l = name
      · simp [edit, define, find?, Edit.pair, Edit.exported?, hname]
      · cases hk : n.modules[k]? <;>
          simp [edit, define, find?, Edit.pair, hname, hk, Std.HashMap.getD_eq_getD_getElem?,
            Std.HashMap.getElem?_insert]
    · simp [edit, define, find?, Edit.pair, hmodule, Std.HashMap.getElem?_insert]
  | undefine k l =>
    cases hk : n.modules[k]? with
    | none =>
      simp only [edit, undefine, hk]
      by_cases hpair : (Edit.undefine k l).pair = (module, name)
      · rw [if_pos hpair]
        cases hpair
        simp [find?, hk, Edit.exported?]
      · rw [if_neg hpair]
    | some exports =>
      by_cases hmodule : k = module
      · subst hmodule
        by_cases hname : l = name <;>
          simp [edit, undefine, find?, Edit.pair, Edit.exported?, hk, hname,
            Std.HashMap.getElem?_erase]
      · simp [edit, undefine, find?, Edit.pair, hk, hmodule, Std.HashMap.getElem?_insert]

/-- By induction on the history: the tables look the same, and so does what is undefined. -/
theorem find?_edited (h : List Edit) (module name : String) :
    (empty.edited h).find? module name = (Modules.empty.edited h).find? module name := by
  induction h using List.reverseRecOn with
  | nil => simp [edited, empty, find?, Modules.edited, Modules.empty, Modules.find?]
  | append_singleton h d ih =>
    rw [Modules.edited_append, Modules.edited_singleton, Modules.find?_edit, edited,
      List.foldl_append, List.foldl_cons, List.foldl_nil, ← edited, find?_edit, ih]

end Nested

/-! ## What a history makes of a pair -/

namespace Modules

structure Resolves (h : List Edit) (module name : String) : Prop where
  latest : ∀ f, (empty.edited h).resolve module name = .ok f ↔ Latest h module name f
  /-- Without a definition that counts, the error names the pair. -/
  unresolved : (∀ f, ¬ Latest h module name f) →
    (empty.edited h).resolve module name = .error (.unresolvedTarget module name)
  undefined : ((empty.edited h).undefine module name).1 =
    ((empty.edited h).resolve module name).toOption
  others : ∀ k l, (k, l) ≠ (module, name) →
    ((empty.edited h).undefine module name).2.resolve k l = (empty.edited h).resolve k l
  /-- Tables for each module, empty ones included, make no difference. -/
  nested : (Nested.empty.edited h).find? module name = (empty.edited h).find? module name ∧
    ((Nested.empty.edited h).undefine module name).1 = ((empty.edited h).undefine module name).1

theorem resolves (h : List Edit) (module name : String) : Resolves h module name := by
  have hlatest (f : Function) : (empty.edited h).resolve module name = .ok f ↔
      Latest h module name f :=
    resolve_eq_ok.trans (find?_edited h module name f)
  have hnested := Nested.find?_edited h module name
  refine ⟨hlatest, fun hnone => ?_, undefine_fst _ module name, fun k l hne => ?_, hnested, ?_⟩
  · rcases resolve_cases (empty.edited h) module name with ⟨f, hf⟩ | herror
    · exact absurd ((hlatest f).mp hf) (hnone f)
    · exact herror
  · exact resolve_edit_of_ne (d := .undefine module name) (Ne.symm hne)
  · exact (Nested.undefine_fst _ module name).trans hnested

end Modules
end EventRelay
