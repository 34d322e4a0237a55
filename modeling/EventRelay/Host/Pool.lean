/-!
# EventRelay.Host.Pool

The workers of a pooled engine, by number.

* `Pool.acquire`: the worker that was given back last, or a new one.
* `Pool.release`: gives a leased worker back; it stays idle if there is room and is retired
  otherwise. A worker that is not leased is refused.
-/

namespace EventRelay

/-- The workers of a pooled engine. -/
structure Pool where
  maxIdle : Nat
  /-- The idle workers, the one given back last in front. -/
  idle : List Nat
  leased : List Nat
  /-- Workers made so far; they are numbered from one. -/
  created : Nat
  acquired : Nat
  released : Nat
  deriving DecidableEq

namespace Pool

def empty (maxIdle : Nat) : Pool := ⟨maxIdle, [], [], 0, 0, 0⟩

def acquire (p : Pool) : Nat × Pool :=
  match p.idle with
  | n :: rest =>
    (n, { p with idle := rest, leased := n :: p.leased, acquired := p.acquired + 1 })
  | [] =>
    let n := p.created + 1
    (n, { p with leased := n :: p.leased, created := n, acquired := p.acquired + 1 })

/-- Gives a worker back; nothing if it is not leased. -/
def release (p : Pool) (n : Nat) : Option Pool :=
  if n ∈ p.leased then
    let returned := { p with leased := p.leased.erase n, released := p.released + 1 }
    if p.idle.length < p.maxIdle then some { returned with idle := n :: p.idle }
    else some returned
  else none

end Pool

end EventRelay
