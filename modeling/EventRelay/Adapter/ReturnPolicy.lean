import EventRelay.Value.Basic

/-!
# EventRelay.Adapter.ReturnPolicy

What a call returns to a caller that cannot wait for the listeners: for every declared return
type a value that means that nothing real is available.

* `ReturnPolicy.ofType`: the policy for a declared type.
* `ReturnPolicy.neutral`: the value.
-/

namespace EventRelay

/-- How a call answers its caller. -/
inductive ReturnPolicy where
  | void
  | intZero
  | charZero
  | floatZero
  /-- Permissive, for callers that ask whether something was handled. -/
  | true
  /-- The absent value, for references. -/
  | absent
  deriving DecidableEq

namespace ReturnPolicy

def ofType : TypeRef → ReturnPolicy
  | .void => void
  | .primitive .boolean => true
  | .primitive .char => charZero
  | .primitive .float => floatZero
  | .primitive .double => floatZero
  | .primitive _ => intZero
  | .reference _ => absent
  | .array _ => absent

def neutral : ReturnPolicy → Value
  | void => .null
  | intZero => .int 0
  | charZero => .char '\x00'
  | floatZero => .float Numeric.Double.zero
  | true => .bool Bool.true
  | absent => .null

end ReturnPolicy

end EventRelay
