import EventRelay.Value.Conversion

/-!
# EventRelay.Proofs.Value.Conversion

Writing and reading typed values are inverse to each other.

* `Shape.Lossless`: the types that are read back as they were written, under any number of
  optional layers.
* `Shape.collapse`: a typed value without the present layers that look like missing ones.
  `Shape.Filled` says that there are none.
* `decode_encode`, `encode_decode`: what reading makes of a written value, and writing of a read
  one.
* `IntType.wrap`: a number reduced to the bits of a whole number type. `holds_iff_wrap`: the
  numbers of a type are those that this leaves alone.
* `decode_int_options`: a number is read as itself or not at all, under all optional layers.
* `conversions_inverse`: all of it.
-/

namespace EventRelay

/-! ## Ranges -/

namespace IntType

def bits : IntType → Nat
  | i8 | u8 => 8
  | i16 | u16 => 16
  | i32 | u32 => 32
  | i64 | u64 | isize | usize => 64

def isSigned : IntType → Bool
  | i8 | i16 | i32 | i64 | isize => true
  | u8 | u16 | u32 | u64 | usize => false

/-- A number reduced to the bits of a type, which a conversion without a check would do. -/
def wrap (t : IntType) (n : Int) : Int :=
  if t.isSigned then n.bmod (Nat.pow 2 t.bits) else n % Int.pow 2 t.bits

/-- A type holds the numbers that its bits can tell apart from all others. -/
theorem holds_iff_wrap (t : IntType) (n : Int) : t.Holds n ↔ t.wrap n = n := by
  cases t <;> simp [Holds, low, high, wrap, bits, isSigned, Int.pow, Int.bmod] <;> omega

end IntType

namespace Shape

/-! ## Reading what was written -/

/-- The types whose values are written without loss: those that are neither a real number nor a
whole number too wide for values, and all optional layers of them. -/
inductive Lossless : Shape → Prop where
  | value : Lossless .value
  | bool : Lossless .bool
  | char : Lossless .char
  | string : Lossless .string
  | int {t : IntType} : t ∈ [.i8, .i16, .i32, .i64, .u8, .u16, .u32] → Lossless (.int t)
  | option {s : Shape} : Lossless s → Lossless (.option s)

/-- A typed value in which every present layer that is written as the absent value is a missing
one. -/
def collapse : (s : Shape) → s.Carrier → s.Carrier
  | option _, none => none
  | option inner, some x => if (inner.encode x).isNull then none else some (inner.collapse x)
  | value, x => x
  | unit, x => x
  | bool, x => x
  | char, x => x
  | string, x => x
  | single, x => x
  | double, x => x
  | int _, x => x

/-- No present layer is written as the absent value. -/
def Filled : (s : Shape) → s.Carrier → Prop
  | option inner, some x => (inner.encode x).isNull = false ∧ inner.Filled x
  | _, _ => True

theorem collapse_eq_self_iff (s : Shape) (x : s.Carrier) : s.collapse x = x ↔ s.Filled x := by
  induction s with
  | option inner ih =>
    cases x with
    | none => exact iff_of_true rfl trivial
    | some x =>
      simp only [collapse, Filled]
      cases hnull : (inner.encode x).isNull with
      | true => exact iff_of_false (fun h => nomatch h) fun h => nomatch h.1
      | false =>
        rw [← ih x]
        exact ⟨fun h => ⟨rfl, Option.some.inj h⟩, fun h => congrArg some h.2⟩
  | value | unit | bool | char | string | single | double | int => exact iff_of_true rfl trivial

theorem decode_option_of_not_null (s : Shape) {v : Value} (h : v.isNull = false) :
    (option s).decode v = (s.decode v).map some := by
  cases v with
  | null => cases h
  | _ => rfl

theorem decode_int (t : IntType) (v : Value) : (int t).decode v = decodeInt t v := rfl

theorem decode_encode {s : Shape} (h : s.Lossless) (x : s.Carrier) :
    s.decode (s.encode x) = .ok (s.collapse x) := by
  induction h with
  | value | bool | char | string => rfl
  | @int t _ =>
    obtain ⟨n, hn⟩ := x
    exact dif_pos hn
  | @option inner _ ih =>
    cases x with
    | none => rfl
    | some x =>
      simp only [encode, collapse]
      cases hnull : (inner.encode x).isNull with
      | true =>
        have hwritten : inner.encode x = .null := by
          cases hx : inner.encode x with
          | null => rfl
          | _ => rw [hx] at hnull; cases hnull
        rw [hwritten]
        rfl
      | false =>
        rw [decode_option_of_not_null inner hnull, ih x]
        rfl

/-! ## Writing what was read -/

theorem encode_decode {s : Shape} (h : s.Lossless) {v : Value} {x : s.Carrier}
    (hx : s.decode v = .ok x) : s.encode x = v := by
  induction h generalizing v with
  | value =>
    cases hx
    rfl
  | bool | char | string =>
    cases v <;> cases hx
    rfl
  | @int t _ =>
    cases v with
    | int n =>
      rw [decode_int, decodeInt] at hx
      split at hx
      · cases hx
        rfl
      · cases hx
    | _ => cases hx
  | @option inner _ ih =>
    cases hnull : v.isNull with
    | true =>
      cases v with
      | null =>
        cases hx
        rfl
      | _ => cases hnull
    | false =>
      rw [decode_option_of_not_null inner hnull] at hx
      cases hy : inner.decode v with
      | error e =>
        rw [hy] at hx
        cases hx
      | ok y =>
        rw [hy] at hx
        cases hx
        exact ih hy

/-! ## Numbers under optional layers -/

/-- A type under a number of optional layers. -/
def options (s : Shape) : Nat → Shape
  | 0 => s
  | k + 1 => option (s.options k)

/-- A typed value with a number of present layers around it. -/
def somes {s : Shape} (x : s.Carrier) : (k : Nat) → (s.options k).Carrier
  | 0 => x
  | k + 1 => some (somes x k)

theorem decode_options_of_not_null (s : Shape) (k : Nat) {v : Value} (h : v.isNull = false) :
    (s.options k).decode v = (s.decode v).map fun x => somes x k := by
  induction k with
  | zero =>
    simp only [options, somes]
    cases s.decode v <;> rfl
  | succ k ih =>
    simp only [options, decode_option_of_not_null _ h, ih]
    cases s.decode v <;> rfl

/-- A number is read as itself if the type holds it, and otherwise named in the error. -/
theorem decode_int_options (t : IntType) (k : Nat) (n : Int) :
    ((int t).options k).decode (.int n) =
      if h : t.Holds n then .ok (somes (s := int t) ⟨n, h⟩ k)
      else .error (.outOfRange n t.name) := by
  rw [decode_options_of_not_null _ _ rfl, decode_int, decodeInt]
  split <;> rfl

/-- Under any number of optional layers, what is written without loss reads as it was, but for
present layers that look missing; what was read is written as it was; and a number is read as
itself if its type can hold it, and refused if not. -/
theorem conversions_inverse :
    (∀ {s : Shape}, s.Lossless → ∀ x : s.Carrier,
      s.decode (s.encode x) = .ok (s.collapse x) ∧ (s.collapse x = x ↔ s.Filled x)) ∧
    (∀ {s : Shape}, s.Lossless → ∀ (v : Value) (x : s.Carrier),
      s.decode v = .ok x → s.encode x = v) ∧
    ∀ (t : IntType) (k : Nat) (n : Int), (t.Holds n ↔ t.wrap n = n) ∧
      ((int t).options k).decode (.int n) =
        if h : t.Holds n then .ok (somes (s := int t) ⟨n, h⟩ k)
        else .error (.outOfRange n t.name) :=
  ⟨fun h x => ⟨decode_encode h x, collapse_eq_self_iff _ x⟩,
    fun h _ _ hx => encode_decode h hx,
    fun t k n => ⟨t.holds_iff_wrap n, decode_int_options t k n⟩⟩

/-- Any value under two optional layers, and bytes at the end of their range. -/
theorem conversions_inverse_nested :
    let s : Shape := .option (.option .value)
    let hollow : s.Carrier := some (some (Value.null))
    let full : s.Carrier := some (some (Value.int 3))
    s.Lossless ∧ s.decode (s.encode hollow) = .ok none ∧ s.decode (s.encode full) = .ok full ∧
      s.encode full = .int 3 ∧
      ((Shape.int .u8).options 2).decode (.int 255) =
        .ok (some (some (⟨255, by decide⟩ : { n // IntType.u8.Holds n }))) ∧
      ((Shape.int .u8).options 2).decode (.int 256) = .error (.outOfRange 256 "u8") := by
  intro s hollow full
  have hs : s.Lossless := .option (.option .value)
  obtain ⟨hwritten, hread, hint⟩ := conversions_inverse
  exact ⟨hs, (hwritten hs hollow).1, (hwritten hs full).1, hread hs (.int 3) full rfl,
    (hint .u8 2 255).2, (hint .u8 2 256).2⟩

end Shape
end EventRelay
