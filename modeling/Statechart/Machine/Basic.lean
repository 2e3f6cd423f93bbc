import Statechart.Identifier
import Statechart.Location

/-!
Hierarchical state machines. A machine keeps its states and its transitions in
two lists, in the order of their creation, and everything that points at one of
them does so by its position. Containment, adjacency and initial states are
links of this kind, so a machine is plain data without cycles.
-/

namespace Statechart

abbrev StateIndex := Nat

abbrev TransitionIndex := Nat

/-! An initial state names the state that is entered first, and the composite
it belongs to, or none at the top level. -/

structure InitialState where
  target : StateIndex
  parent : Option StateIndex
  deriving DecidableEq, Repr

inductive StateKind where
  | simple
  | composite (children : List StateIndex) (initial : Option InitialState)
  deriving DecidableEq, Repr

structure State where
  id : String
  name : Option String
  isFinal : Bool
  parent : Option StateIndex
  outgoing : List TransitionIndex
  incoming : List TransitionIndex
  location : Option Location
  kind : StateKind
  deriving DecidableEq, Repr

structure Transition where
  id : String
  source : StateIndex
  target : StateIndex
  input : Option String
  output : Option String
  location : Option Location
  deriving DecidableEq, Repr

structure Machine where
  id : String
  name : String
  location : Option Location
  initial : Option InitialState
  topLevel : List StateIndex
  states : List State
  transitions : List Transition
  maxDepth : Nat
  deriving DecidableEq, Repr

/-- The ceiling on nesting where none is asked for. -/
def defaultMaxDepth : Nat := 256

namespace State

def isComposite (state : State) : Bool :=
  match state.kind with
  | .simple => false
  | .composite _ _ => true

def children (state : State) : List StateIndex :=
  match state.kind with
  | .simple => []
  | .composite children _ => children

def initial (state : State) : Option InitialState :=
  match state.kind with
  | .simple => none
  | .composite _ initial => initial

end State

namespace Machine

def state? (machine : Machine) (index : StateIndex) : Option State :=
  machine.states[index]?

def transition? (machine : Machine) (index : TransitionIndex) : Option Transition :=
  machine.transitions[index]?

/-! A machine is well formed when each of its composites says where it is
entered. -/

def isWellFormed (machine : Machine) : Bool :=
  machine.states.all fun state => !state.isComposite || state.initial.isSome

end Machine

/-! Whatever an id can name: the machine itself, one of its states or one of
its transitions. -/

inductive Element where
  | machine
  | state (index : StateIndex)
  | transition (index : TransitionIndex)
  deriving DecidableEq, Repr

def machineType : String := "stateMachine.stateMachine"

def stateType : String := "stateMachine.state"

def transitionType : String := "stateMachine.transition"

def snapshotType : String := "stateMachine.runtimeState"

namespace Element

def typeTag : Element → String
  | .machine => machineType
  | .state _ => stateType
  | .transition _ => transitionType

end Element

namespace Machine

/-! Looking ids up. The machine's own id comes first, then the states, then the
transitions, each in the order of creation. -/

def findState (machine : Machine) (id : String) : Option StateIndex :=
  machine.states.findIdx? (·.id == id)

def findTransition (machine : Machine) (id : String) : Option TransitionIndex :=
  machine.transitions.findIdx? (·.id == id)

def findElement (machine : Machine) (id : String) : Option Element :=
  if machine.id = id then some .machine
  else
    match machine.findState id with
    | some index => some (.state index)
    | none => (machine.findTransition id).map .transition

def containsId (machine : Machine) (id : String) : Bool :=
  (machine.findElement id).isSome

end Machine

end Statechart
