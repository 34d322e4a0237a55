/-!
# EventRelay.Host.Worker

Workers, the contexts that listeners run in.

Engines number their workers from one, so two engines have workers of the same number. A `Worker`
says which engine it belongs to and through which engine its holder got it.
-/

namespace EventRelay

/-- An engine, by its position among all engines. -/
abbrev EngineId := Nat

/-- A worker in the hands of a holder. -/
structure Worker where
  home : EngineId
  number : Nat
  /-- The engine through which it was handed out. -/
  via : EngineId
  deriving DecidableEq

namespace Worker

/-- The name that a worker of a number goes by. -/
def nameOf (number : Nat) : String := "worker-" ++ toString number

def name (w : Worker) : String := nameOf w.number

def describe (w : Worker) : String := "WorkerId(" ++ toString w.number ++ ")"

end Worker

end EventRelay
