/-!
# EventRelay.Table

Tables with a row for every number. All rows but finitely many are the same, the blank row.

* `Table.get`, `Table.put`: read and write a row.
* `Table.get_put`: the law of the two. `Table.size_put`: what a write does to the size.
-/

namespace EventRelay

/-- A table whose written rows are a list; all others are blank. -/
structure Table (α : Type) where
  rows : List α

namespace Table

variable {α : Type}

def empty : Table α := ⟨[]⟩

/-- Number of rows that were ever written, or lie before one. -/
def size (t : Table α) : Nat := t.rows.length

def get (blank : α) (t : Table α) (i : Nat) : α := t.rows.getD i blank

def putRow (blank : α) : List α → Nat → α → List α
  | [], 0, a => [a]
  | [], i + 1, a => blank :: putRow blank [] i a
  | _ :: rest, 0, a => a :: rest
  | b :: rest, i + 1, a => b :: putRow blank rest i a

def put (blank : α) (t : Table α) (i : Nat) (a : α) : Table α := ⟨putRow blank t.rows i a⟩

theorem getD_putRow (blank : α) (rows : List α) (i j : Nat) (a : α) :
    (putRow blank rows i a).getD j blank = if i = j then a else rows.getD j blank := by
  induction i generalizing rows j with
  | zero => cases rows <;> cases j <;> simp [putRow]
  | succ i ih =>
    cases rows with
    | nil =>
      cases j with
      | zero => simp [putRow]
      | succ j => simpa [putRow] using ih [] j
    | cons b rest =>
      cases j with
      | zero => simp [putRow]
      | succ j => simpa [putRow] using ih rest j

/-- A written row reads back, and all other rows stay. -/
theorem get_put (blank : α) (t : Table α) (i j : Nat) (a : α) :
    (t.put blank i a).get blank j = if i = j then a else t.get blank j :=
  getD_putRow blank t.rows i j a

theorem length_putRow (blank : α) (rows : List α) (i : Nat) (a : α) :
    (putRow blank rows i a).length = max rows.length (i + 1) := by
  induction i generalizing rows with
  | zero => cases rows <;> simp [putRow]
  | succ i ih =>
    cases rows with
    | nil => simp [putRow, ih]
    | cons b rest => simp [putRow, ih]

/-- The table reaches to the written row, if it did not before. -/
theorem size_put (blank : α) (t : Table α) (i : Nat) (a : α) :
    (t.put blank i a).size = max t.size (i + 1) :=
  length_putRow blank t.rows i a

end Table

end EventRelay
