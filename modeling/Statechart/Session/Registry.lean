import Statechart.Dictionary
import Statechart.Machine.Basic

/-!
The registry keeps the latest machine of every parsed source file.
-/

namespace Statechart

abbrev Registry := Dictionary Machine

namespace Registry

/-- Stores a machine, with the machine it takes the place of. -/
def store (registry : Registry) (sourceFile : String) (machine : Machine) :
    Option Machine × Registry :=
  (registry.get? sourceFile, registry.insert sourceFile machine)

def sourceFiles (registry : Registry) : List String :=
  registry.keys

def size (registry : Registry) : Nat :=
  registry.entries.length

end Registry

end Statechart
