import Statechart.Json.Reading
import Statechart.Machine.Defect
import Statechart.Source.Fault

/-!
Why there is no machine for a source: the source cannot be read, its text is no
declaration, or the declaration does not describe a machine.
-/

namespace Statechart

inductive BuildError where
  | unreadable (path : String) (fault : FileFault)
  | invalidText (path : String) (fault : Json.Fault)
  | unknownState (name : String)
  | ambiguousState (name : String)
  | missingInitial (name : Option String)
  | unexpectedInitial (name : Option String)
  | finalComposite (name : Option String)
  | construction (error : ConstructionError)
  | tree (error : TreeError)
  deriving DecidableEq, Repr

namespace BuildError

def displayName (name : Option String) : String :=
  name.getD "<anonymous>"

def message : BuildError → String
  | .unreadable path fault => "failed to read " ++ Text.quoted path ++ ": " ++ fault.message
  | .invalidText path fault =>
      "invalid parse tree in " ++ Text.quoted path ++ ": " ++ fault.message
  | .unknownState name => "no state named " ++ Text.quoted name
  | .ambiguousState name => "more than one state is named " ++ Text.quoted name
  | .missingInitial name =>
      "composite state " ++ displayName name ++ " declares no initial state"
  | .unexpectedInitial name =>
      "simple state " ++ displayName name ++ " cannot declare an initial state"
  | .finalComposite name => "composite state " ++ displayName name ++ " cannot be final"
  | .construction error => "invalid tree construction: " ++ error.message
  | .tree error => error.message

/-! The messages of the errors behind an error, the nearest first. -/

def causes : BuildError → List String
  | .unreadable _ fault => [fault.message]
  | .invalidText _ fault => [fault.message]
  | .construction error => [error.message]
  | .tree error => [error.message]
  | _ => []

end BuildError

end Statechart
