import Statechart.Text.Quoted

/-!
What can be wrong with a tree of states, seen while it is resolved, rendered or
checked, and with a step of its construction.
-/

namespace Statechart

inductive TreeError where
  | malformedTree (stateId : String)
  | unresolvedReference (role id : String)
  | recursionLimit (limit : Nat)
  | duplicateId (id : String)
  deriving DecidableEq, Repr

namespace TreeError

def message : TreeError → String
  | .malformedTree stateId => "composite state " ++ stateId ++ " has no initial state"
  | .unresolvedReference role id =>
      "reference " ++ role ++ " points at unknown id " ++ Text.quoted id
  | .recursionLimit limit => "state nesting exceeds the depth limit of " ++ toString limit
  | .duplicateId id => "id " ++ Text.quoted id ++ " appears more than once"

/-! A position that a machine does not have is reported like an id, behind a
number sign. -/

def noSuchState (index : Nat) : TreeError :=
  .unresolvedReference "state" ("#" ++ toString index)

def noSuchTransition (index : Nat) : TreeError :=
  .unresolvedReference "transition" ("#" ++ toString index)

end TreeError

inductive ConstructionError where
  | foreignHandle (kind : String) (index : Nat)
  | parentNotComposite (parentId : String)
  | notComposite (stateId : String)
  | initialNotChild (compositeId targetId : String)
  | initialNotTopLevel (targetId : String)
  deriving DecidableEq, Repr

namespace ConstructionError

def message : ConstructionError → String
  | .foreignHandle kind index =>
      kind ++ " handle #" ++ toString index ++ " does not belong to this state machine"
  | .parentNotComposite parentId => "parent state " ++ parentId ++ " is not composite"
  | .notComposite stateId => "state " ++ stateId ++ " is not composite"
  | .initialNotChild compositeId targetId =>
      "initial state " ++ targetId ++ " is not a direct child of composite " ++ compositeId
  | .initialNotTopLevel targetId =>
      "initial state " ++ targetId ++ " is not a top-level state"

end ConstructionError

end Statechart
