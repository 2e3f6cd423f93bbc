import Statechart.Machine.Basic
import Statechart.Machine.Defect

/-!
Going down and up a machine. Entering a state means following initial states
down to a simple state; the depth of a state is the number of composites around
it.
-/

namespace Statechart.Machine

/-! `descend limit looks` looks at no more than `looks` states on the way down;
the limit is only named in the error. -/

def descend (machine : Machine) (limit : Nat) : Nat → StateIndex → Except TreeError StateIndex
  | 0, _ => .error (.recursionLimit limit)
  | looks + 1, index =>
      match machine.state? index with
      | none => .error (.noSuchState index)
      | some state =>
          match state.kind with
          | .simple => .ok index
          | .composite _ (some initial) => machine.descend limit looks initial.target
          | .composite _ none => .error (.malformedTree state.id)

/-- The simple state that is entered when `index` is reached, at most `limit`
levels below it. -/
def nestedInitialWithin (machine : Machine) (limit : Nat) (index : StateIndex) :
    Except TreeError StateIndex :=
  machine.descend limit (limit + 1) index

def nestedInitial (machine : Machine) (index : StateIndex) : Except TreeError StateIndex :=
  machine.nestedInitialWithin machine.maxDepth index

/-! The walk up the parents. In a machine made by construction steps a parent
stands before its children, so the walk ends before `bound` does when the bound
is the number of states. -/

def parent? (machine : Machine) (index : StateIndex) : Option StateIndex :=
  (machine.state? index).bind (·.parent)

def countAncestors (machine : Machine) : Nat → StateIndex → Nat
  | 0, _ => 0
  | bound + 1, index =>
      match machine.parent? index with
      | none => 0
      | some parent => machine.countAncestors bound parent + 1

def depth (machine : Machine) (index : StateIndex) : Nat :=
  machine.countAncestors machine.states.length index

end Statechart.Machine

namespace Statechart.InitialState

/-- The simple state that is entered through an initial state. -/
def nested (initial : InitialState) (machine : Machine) : Except TreeError StateIndex :=
  machine.nestedInitial initial.target

end Statechart.InitialState
