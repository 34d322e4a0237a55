import Mathlib.Data.List.Nodup
import EventRelay.Proofs.Adapter.Slots

/-!
# EventRelay.Proofs.Descriptor.Signature

Signatures tell methods apart.

* `TypeRef.slashes`: a type up to what its signature does not show, dots and slashes in names.
* `TypeRef.signatureChars_append_inj`: a signature of a type ends where it ends, whatever follows.
* `Method.params_append_inj`: so does a list of them before a bracket.
* `signature_decodes`: equal signatures are those of equal types.
-/

namespace EventRelay

/-- A function that tells the elements of two lists apart tells the lists apart. -/
theorem eq_of_map_eq {α β : Type} {f : α → β} {u : List α} :
    ∀ {v : List α}, (∀ a ∈ u, ∀ b ∈ v, f a = f b → a = b) → u.map f = v.map f → u = v := by
  induction u with
  | nil =>
    intro v _ h
    simpa [eq_comm] using h
  | cons a u ih =>
    intro v hinj h
    cases v with
    | nil => simp at h
    | cons b v =>
      obtain ⟨hhead, htail⟩ := List.cons.inj h
      have hab : a = b := hinj a List.mem_cons_self b List.mem_cons_self hhead
      have huv : u = v := ih (fun a' ha' b' hb' =>
        hinj a' (List.mem_cons_of_mem _ ha') b' (List.mem_cons_of_mem _ hb')) htail
      rw [hab, huv]

theorem Primitive.code_inj {k k' : Primitive} (h : k.code = k'.code) : k = k' := by
  cases k <;> cases k' <;> first | rfl | simp [code] at h

theorem Primitive.code_ne (k : Primitive) :
    k.code ≠ 'V' ∧ k.code ≠ 'L' ∧ k.code ≠ '[' ∧ k.code ≠ ')' := by
  cases k <;> decide

namespace TypeRef

/-- The names in a type, at any depth of arrays. -/
def names : TypeRef → List String
  | reference name => [name]
  | array component => component.names
  | _ => []

/-- No name in the type has the character. -/
def Avoids (c : Char) (t : TypeRef) : Prop := ∀ name ∈ t.names, c ∉ name.toList

instance (c : Char) (t : TypeRef) : Decidable (t.Avoids c) :=
  inferInstanceAs (Decidable (∀ name ∈ t.names, c ∉ name.toList))

/-- The type with slashes for the dots in its names. -/
def slashes : TypeRef → TypeRef
  | reference name => reference (String.ofList (name.toList.map slashed))
  | array component => array component.slashes
  | t => t

/-! ## One type -/

theorem slashed_slashed (c : Char) : slashed (slashed c) = slashed c := by
  by_cases h : c = '.'
  · simp [slashed, h]
  · simp [slashed, h]

theorem slashed_ne_semicolon {c : Char} (h : c ≠ ';') : slashed c ≠ ';' := by
  by_cases hdot : c = '.'
  · simp [slashed, hdot]
  · simpa [slashed, hdot] using h

theorem slashed_inj {c c' : Char} (hc : c ≠ '/') (hc' : c' ≠ '/') (h : slashed c = slashed c') :
    c = c' := by
  by_cases hd : c = '.'
  · by_cases hd' : c' = '.'
    · rw [hd, hd']
    · simp only [slashed, if_pos hd, if_neg hd'] at h
      exact absurd h.symm hc'
  · by_cases hd' : c' = '.'
    · simp only [slashed, if_neg hd, if_pos hd'] at h
      exact absurd h hc
    · simpa only [slashed, if_neg hd, if_neg hd'] using h

/-- A signature shows no more than the type up to dots. -/
theorem signatureChars_slashes (t : TypeRef) : t.slashes.signatureChars = t.signatureChars := by
  induction t with
  | void => rfl
  | primitive k => rfl
  | reference name =>
    have h : slashed ∘ slashed = slashed := funext slashed_slashed
    simp [slashes, signatureChars, h]
  | array component ih => simp [slashes, signatureChars, ih]

/-- The semicolon is the end of a name. -/
theorem append_semicolon_inj {u v r r' : List Char} (hu : ';' ∉ u) (hv : ';' ∉ v)
    (h : u ++ ';' :: r = v ++ ';' :: r') : u = v ∧ r = r' := by
  induction u generalizing v with
  | nil =>
    cases v with
    | nil => exact ⟨rfl, (List.cons.inj h).2⟩
    | cons c v =>
      obtain ⟨rfl, -⟩ := List.cons.inj h
      exact absurd (List.mem_cons_self) hv
  | cons c u ih =>
    cases v with
    | nil =>
      obtain ⟨rfl, -⟩ := List.cons.inj h
      exact absurd (List.mem_cons_self) hu
    | cons d v =>
      obtain ⟨rfl, hrest⟩ := List.cons.inj h
      rw [List.mem_cons, not_or] at hu hv
      obtain ⟨rfl, hr⟩ := ih hu.2 hv.2 hrest
      exact ⟨rfl, hr⟩

theorem slashed_name_avoids {name : String} (h : (reference name).Avoids ';') :
    ';' ∉ name.toList.map slashed := by
  intro hmem
  obtain ⟨c, hc, heq⟩ := List.mem_map.mp hmem
  have hname : ';' ∉ name.toList := h name (by simp [names])
  exact slashed_ne_semicolon (fun hsemi => hname (hsemi ▸ hc)) heq

/-- Types are told apart by the first character, names by their end, and arrays by induction. -/
theorem signatureChars_append_inj (t : TypeRef) :
    ∀ (t' : TypeRef) (r r' : List Char), t.Avoids ';' → t'.Avoids ';' →
      t.signatureChars ++ r = t'.signatureChars ++ r' → t.slashes = t'.slashes ∧ r = r' := by
  induction t with
  | void =>
    intro t' r r' _ _ h
    cases t' with
    | void => exact ⟨rfl, (List.cons.inj h).2⟩
    | primitive k => exact absurd (List.cons.inj h).1.symm k.code_ne.1
    | reference name => simp [signatureChars] at h
    | array component => simp [signatureChars] at h
  | primitive k =>
    intro t' r r' _ _ h
    cases t' with
    | void => exact absurd (List.cons.inj h).1 k.code_ne.1
    | primitive k' =>
      obtain ⟨hcode, hr⟩ := List.cons.inj h
      rw [Primitive.code_inj hcode]
      exact ⟨rfl, hr⟩
    | reference name => exact absurd (List.cons.inj h).1 k.code_ne.2.1
    | array component => exact absurd (List.cons.inj h).1 k.code_ne.2.2.1
  | reference name =>
    intro t' r r' ht ht' h
    cases t' with
    | void => simp [signatureChars] at h
    | primitive k => exact absurd (List.cons.inj h).1.symm k.code_ne.2.1
    | reference name' =>
      have hrest : name.toList.map slashed ++ ';' :: r = name'.toList.map slashed ++ ';' :: r' := by
        simpa [signatureChars] using h
      obtain ⟨hname, hr⟩ :=
        append_semicolon_inj (slashed_name_avoids ht) (slashed_name_avoids ht') hrest
      exact ⟨by simp only [slashes, hname], hr⟩
    | array component => simp [signatureChars] at h
  | array component ih =>
    intro t' r r' ht ht' h
    cases t' with
    | void => simp [signatureChars] at h
    | primitive k => exact absurd (List.cons.inj h).1.symm k.code_ne.2.2.1
    | reference name => simp [signatureChars] at h
    | array component' =>
      obtain ⟨hc, hr⟩ := ih component' r r' ht ht' (List.cons.inj h).2
      exact ⟨by simp only [slashes, hc], hr⟩

theorem signatureChars_ne_bracket (t : TypeRef) (r r' : List Char) :
    t.signatureChars ++ r ≠ ')' :: r' := by
  intro h
  cases t with
  | void => simp [signatureChars] at h
  | primitive k => exact absurd (List.cons.inj h).1 k.code_ne.2.2.2
  | reference name => simp [signatureChars] at h
  | array component => simp [signatureChars] at h

/-- Without slashes in names, nothing is lost. -/
theorem slashes_inj (t : TypeRef) :
    ∀ t' : TypeRef, t.Avoids '/' → t'.Avoids '/' → t.slashes = t'.slashes → t = t' := by
  induction t with
  | void =>
    intro t' _ _ h
    cases t' with
    | void => rfl
    | primitive | reference | array => simp [slashes] at h
  | primitive k =>
    intro t' _ _ h
    cases t' with
    | primitive k' => simpa [slashes] using h
    | void | reference | array => simp [slashes] at h
  | reference name =>
    intro t' ht ht' h
    cases t' with
    | reference name' =>
      have hmap : name.toList.map slashed = name'.toList.map slashed := by
        simpa [slashes, String.ofList_inj] using h
      have hname : '/' ∉ name.toList := ht name (by simp [names])
      have hname' : '/' ∉ name'.toList := ht' name' (by simp [names])
      have heq : name.toList = name'.toList := eq_of_map_eq (fun c hc c' hc' =>
        slashed_inj (ne_of_mem_of_not_mem hc hname) (ne_of_mem_of_not_mem hc' hname')) hmap
      rw [String.toList_inj.mp heq]
    | void | primitive | array => simp [slashes] at h
  | array component ih =>
    intro t' ht ht' h
    cases t' with
    | array component' =>
      rw [slashes, slashes, array.injEq] at h
      rw [ih component' ht ht' h]
    | void | primitive | reference => simp [slashes] at h

end TypeRef

namespace Method

/-- No name in the types of the method has the character. -/
def Avoids (c : Char) (m : Method) : Prop := (∀ t ∈ m.params, t.Avoids c) ∧ m.ret.Avoids c

instance (c : Char) (m : Method) : Decidable (m.Avoids c) :=
  inferInstanceAs (Decidable ((∀ t ∈ m.params, t.Avoids c) ∧ m.ret.Avoids c))

/-- The methods take and return the same types, up to dots and slashes in names. -/
def SameTypes (m m' : Method) : Prop :=
  m.arity = m'.arity ∧
    (∀ (i : Nat) t t', m.params[i]? = some t → m'.params[i]? = some t' → t.slashes = t'.slashes) ∧
    m.ret.slashes = m'.ret.slashes

theorem sameTypes_iff {m m' : Method} : m.SameTypes m' ↔
    m.params.map TypeRef.slashes = m'.params.map TypeRef.slashes ∧
      m.ret.slashes = m'.ret.slashes := by
  constructor
  · rintro ⟨harity, hparams, hret⟩
    have hlength : m.params.length = m'.params.length := harity
    refine ⟨List.ext_getElem (by simpa using hlength) fun i hi hi' => ?_, hret⟩
    rw [List.getElem_map, List.getElem_map]
    exact hparams i _ _ (List.getElem?_eq_getElem _) (List.getElem?_eq_getElem _)
  · rintro ⟨hparams, hret⟩
    have hlength : m.params.length = m'.params.length := by
      simpa using congrArg List.length hparams
    refine ⟨hlength, fun i t t' ht ht' => ?_, hret⟩
    have hi := congrArg (fun ts => ts[i]?) hparams
    simpa [ht, ht'] using hi

/-! ## Methods -/

/-- By induction on the parameters; none of them starts like the bracket that ends the list. -/
theorem params_append_inj (ts : List TypeRef) :
    ∀ (ts' : List TypeRef) (r r' : List Char), (∀ t ∈ ts, t.Avoids ';') →
      (∀ t ∈ ts', t.Avoids ';') →
      ts.flatMap TypeRef.signatureChars ++ ')' :: r =
        ts'.flatMap TypeRef.signatureChars ++ ')' :: r' →
      ts.map TypeRef.slashes = ts'.map TypeRef.slashes ∧ r = r' := by
  induction ts with
  | nil =>
    intro ts' r r' _ _ h
    cases ts' with
    | nil => exact ⟨rfl, (List.cons.inj h).2⟩
    | cons t' ts' =>
      rw [List.flatMap_cons, List.append_assoc] at h
      exact absurd h.symm (t'.signatureChars_ne_bracket _ _)
  | cons t ts ih =>
    intro ts' r r' hts hts' h
    obtain ⟨ht, hts⟩ := List.forall_mem_cons.mp hts
    cases ts' with
    | nil =>
      rw [List.flatMap_cons, List.append_assoc] at h
      exact absurd h (t.signatureChars_ne_bracket _ _)
    | cons t' ts' =>
      obtain ⟨ht', hts'⟩ := List.forall_mem_cons.mp hts'
      rw [List.flatMap_cons, List.flatMap_cons, List.append_assoc, List.append_assoc] at h
      obtain ⟨hhead, htail⟩ := t.signatureChars_append_inj t' _ _ ht ht' h
      obtain ⟨hrest, hr⟩ := ih ts' r r' hts hts' htail
      exact ⟨by rw [List.map_cons, List.map_cons, hhead, hrest], hr⟩

theorem signature_eq_iff {m m' : Method} (h : m.Avoids ';') (h' : m'.Avoids ';') :
    m.signature = m'.signature ↔ m.SameTypes m' := by
  rw [signature, signature, String.ofList_inj, sameTypes_iff]
  constructor
  · intro heq
    have hparams : m.params.flatMap TypeRef.signatureChars ++ ')' :: m.ret.signatureChars =
        m'.params.flatMap TypeRef.signatureChars ++ ')' :: m'.ret.signatureChars := by
      simpa [signatureChars] using heq
    obtain ⟨hmap, hret⟩ := params_append_inj m.params m'.params _ _ h.1 h'.1 hparams
    have hret' : m.ret.signatureChars ++ [] = m'.ret.signatureChars ++ [] := by rw [hret]
    exact ⟨hmap, (m.ret.signatureChars_append_inj m'.ret [] [] h.2 h'.2 hret').1⟩
  · rintro ⟨hmap, hret⟩
    have hchars (ts : List TypeRef) : ts.flatMap TypeRef.signatureChars =
        (ts.map TypeRef.slashes).flatMap TypeRef.signatureChars := by
      rw [List.flatMap_map]
      exact List.flatMap_congr fun t _ => t.signatureChars_slashes.symm
    rw [signatureChars, signatureChars, hchars, hmap, ← hchars,
      ← m.ret.signatureChars_slashes, hret, m'.ret.signatureChars_slashes]

/-- Without slashes in names, the key of a slot is the whole method. -/
theorem key_eq_iff {m m' : Method} (h : m.Avoids ';') (h' : m'.Avoids ';') (hs : m.Avoids '/')
    (hs' : m'.Avoids '/') : m.key = m'.key ↔ m = m' := by
  refine ⟨fun hkey => ?_, fun heq => heq ▸ rfl⟩
  obtain ⟨hname, hsignature⟩ := Prod.mk.inj hkey
  obtain ⟨hparams, hret⟩ := sameTypes_iff.mp ((signature_eq_iff h h').mp hsignature)
  have hsame : m.params = m'.params := eq_of_map_eq
    (fun t ht t' ht' => t.slashes_inj t' (hs.1 t ht) (hs'.1 t' ht')) hparams
  have hsame' : m.ret = m'.ret := m.ret.slashes_inj m'.ret hs.2 hs'.2 hret
  cases m
  cases m'
  rw [mk.injEq]
  exact ⟨hname, hsame, hsame'⟩

end Method

/-- Two methods of the descriptor, at different places, are equal in everything. -/
def Descriptor.Repeats (d : Descriptor) : Prop :=
  ∃ (i j : Nat) (m m' : Method), i < j ∧ d.methods[i]? = some m ∧ d.methods[j]? = some m' ∧
    m.name = m'.name ∧ m.params = m'.params ∧ m.ret = m'.ret

theorem Descriptor.repeats_iff {d : Descriptor} : d.Repeats ↔ ¬ d.methods.Nodup := by
  rw [List.nodup_iff_getElem?_ne_getElem?]
  constructor
  · rintro ⟨i, j, m, m', hij, hi, hj, hname, hparams, hret⟩ hnd
    have hj' : j < d.methods.length := (List.getElem?_eq_some_iff.mp hj).1
    have heq : m = m' := by
      cases m
      cases m'
      rw [Method.mk.injEq]
      exact ⟨hname, hparams, hret⟩
    exact hnd i j hij hj' (by rw [hi, hj, heq])
  · intro hnd
    push Not at hnd
    obtain ⟨i, j, hij, hj, heq⟩ := hnd
    have hj' : d.methods[j]? = some d.methods[j] := List.getElem?_eq_getElem hj
    exact ⟨i, j, _, _, hij, heq.trans hj', hj', rfl, rfl, rfl⟩

/-- Signatures of methods whose names have no semicolon are equal exactly if the methods have the
same number of parameters and the same types, up to dots and slashes in names. So a descriptor
whose names have no slashes either is refused for a repeated slot exactly if two of its methods are
equal, and has a type otherwise. -/
theorem signature_decodes :
    (∀ m m' : Method, m.Avoids ';' → m'.Avoids ';' →
      (m.signature = m'.signature ↔ m.SameTypes m')) ∧
    ∀ (name : String) (d : Descriptor), (∀ m ∈ d.methods, m.Avoids ';' ∧ m.Avoids '/') →
      ((∃ m ∈ d.methods, AdapterType.generate name d =
        .error (.duplicateSlot d.name m.name m.signature)) ↔ d.Repeats) ∧
      ((∃ t, AdapterType.generate name d = .ok t) ↔ ¬ d.Repeats) := by
  refine ⟨fun m m' h h' => Method.signature_eq_iff h h', fun name d hd => ?_⟩
  have hkeys : d.keys.Nodup ↔ d.methods.Nodup := by
    constructor
    · exact List.Nodup.of_map Method.key
    · intro hnd
      refine hnd.map_on fun m hm m' hm' hkey => ?_
      exact (Method.key_eq_iff (hd m hm).1 (hd m' hm').1 (hd m hm).2 (hd m' hm').2).mp hkey
  rw [Descriptor.repeats_iff, ← hkeys, not_not]
  by_cases hnd : d.keys.Nodup
  · simp [AdapterType.generate_of_nodup name hnd, hnd]
  · obtain ⟨m, ⟨before, after, hsplit, -⟩, hgen⟩ := AdapterType.generate_of_not_nodup name hnd
    have hm : m ∈ d.methods := by simp [hsplit]
    rw [hgen]
    simp only [hnd, not_false_eq_true, iff_true, reduceCtorEq, exists_false]
    exact ⟨⟨m, hm, rfl⟩, trivial⟩

theorem signature_decodes_overloads :
    let m : Method := ⟨"on", [.array (.reference "a.L"), .reference "I"], .void⟩
    let m' : Method := ⟨"on", [.array (.reference "a.LI"), .reference ""], .void⟩
    let d : Descriptor := ⟨.interface, "L", [m, m', m]⟩
    m.Avoids ';' ∧ m'.Avoids ';' ∧ m.signature ≠ m'.signature ∧
      (∀ m ∈ d.methods, m.Avoids ';' ∧ m.Avoids '/') ∧
      ∃ m ∈ d.methods, AdapterType.generate "T" d =
        .error (.duplicateSlot "L" m.name m.signature) := by
  intro m m' d
  obtain ⟨hsame, hslots⟩ := signature_decodes
  have hd : ∀ m ∈ d.methods, m.Avoids ';' ∧ m.Avoids '/' := by decide +kernel
  have hm : m.Avoids ';' := (hd m (by simp [d])).1
  have hm' : m'.Avoids ';' := (hd m' (by simp [d])).1
  have hrepeats : d.Repeats := ⟨0, 2, m, m, by decide, rfl, rfl, rfl, rfl, rfl⟩
  refine ⟨hm, hm', fun heq => ?_, hd, (hslots "T" d hd).1.mpr hrepeats⟩
  obtain ⟨-, hparams, -⟩ := (hsame m m' hm hm').mp heq
  exact absurd (hparams 1 _ _ rfl rfl) (by decide +kernel)

/-- A semicolon in a name passes for the end of one. -/
example : (Method.mk "on" [.reference "a;Lb"] .void).signature =
    (Method.mk "on" [.reference "a", .reference "b"] .void).signature := by
  decide +kernel

end EventRelay
