import EventRelay.Error

/-!
# EventRelay.Host.Modules

The exports of modules, looked up when they are needed.

* `Modules.define`, `Modules.undefine`: change one export.
* `Modules.resolve`: the view, the function exported under a module and a name.
-/

namespace EventRelay

/-- Exported functions by module and name; each pair occurs at most once. -/
structure Modules where
  exports : List ((String × String) × Function)
  deriving DecidableEq

namespace Modules

def empty : Modules := ⟨[]⟩

/-- The function exported under a module and a name. -/
def find? (m : Modules) (module name : String) : Option Function :=
  (m.exports.find? fun e => e.1 == (module, name)).map (·.2)

/-- The function exported under a module and a name, or an error that names both. -/
def resolve (m : Modules) (module name : String) : Except HostError Function :=
  match m.find? module name with
  | some f => .ok f
  | none => .error (.unresolvedTarget module name)

/-- The exports without the one of a module and a name. -/
def without (m : Modules) (module name : String) : List ((String × String) × Function) :=
  m.exports.filter fun e => e.1 != (module, name)

/-- Exports a function, in place of an earlier one. -/
def define (m : Modules) (module name : String) (f : Function) : Modules :=
  ⟨((module, name), f) :: m.without module name⟩

/-- Takes an export back and returns it. -/
def undefine (m : Modules) (module name : String) : Option Function × Modules :=
  (m.find? module name, ⟨m.without module name⟩)

end Modules

end EventRelay
