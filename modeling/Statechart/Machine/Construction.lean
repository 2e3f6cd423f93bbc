import Statechart.Machine.Basic
import Statechart.Machine.Defect

/-!
Building a machine step by step. Each step looks at everything it is given
before it changes anything, so a rejected step leaves neither a half-made
element nor a used-up id behind.
-/

namespace Statechart

/-! A machine under construction, with the source of its ids. -/

structure Construction where
  machine : Machine
  ids : IdSource
  deriving DecidableEq, Repr

namespace Construction

def start (name : String) (location : Option Location) (ids : IdSource) : Construction :=
  let (id, ids) := ids.mint "stateMachine"
  { machine :=
      { id, name, location
        initial := none
        topLevel := []
        states := []
        transitions := []
        maxDepth := defaultMaxDepth }
    ids }

/-! A handle is only a position: it is accepted by every machine that has a
state there. -/

def checkedState (construction : Construction) (index : StateIndex) :
    Except ConstructionError State :=
  match construction.machine.state? index with
  | some state => .ok state
  | none => .error (.foreignHandle "state" index)

def checkParent (construction : Construction) : Option StateIndex → Except ConstructionError Unit
  | none => .ok ()
  | some parent => do
      let state ← construction.checkedState parent
      if state.isComposite then .ok () else .error (.parentNotComposite state.id)

end Construction

namespace State

def addChild (child : StateIndex) (state : State) : State :=
  match state.kind with
  | .simple => state
  | .composite children initial => { state with kind := .composite (children ++ [child]) initial }

def setInitial (initial : InitialState) (state : State) : State :=
  match state.kind with
  | .simple => state
  | .composite children _ => { state with kind := .composite children (some initial) }

def addOutgoing (transition : TransitionIndex) (state : State) : State :=
  { state with outgoing := state.outgoing ++ [transition] }

def addIncoming (transition : TransitionIndex) (state : State) : State :=
  { state with incoming := state.incoming ++ [transition] }

end State

namespace Machine

/-- Enters a state at the end of the list of its parent. -/
def attach (machine : Machine) (parent : Option StateIndex) (child : StateIndex) : Machine :=
  match parent with
  | none => { machine with topLevel := machine.topLevel ++ [child] }
  | some parent => { machine with states := machine.states.modify parent (·.addChild child) }

end Machine

namespace Construction

/-! The step that all states are made by: the new state stands at the end of
the list of states and at the end of its parent's children. -/

def addState (name : Option String) (parent : Option StateIndex) (isFinal : Bool)
    (location : Option Location) (kind : StateKind) (construction : Construction) :
    Except ConstructionError (StateIndex × Construction) := do
  construction.checkParent parent
  let machine := construction.machine
  let index := machine.states.length
  let (id, ids) := construction.ids.mint "state"
  let state : State :=
    { id, name, isFinal, parent, location, kind
      outgoing := []
      incoming := [] }
  let machine := { machine with states := machine.states ++ [state] }
  return (index, ⟨machine.attach parent index, ids⟩)

def addSimple (name : Option String) (parent : Option StateIndex) (isFinal : Bool)
    (location : Option Location) (construction : Construction) :
    Except ConstructionError (StateIndex × Construction) :=
  construction.addState name parent isFinal location .simple

/-- Composite states are never final. -/
def addComposite (name : Option String) (parent : Option StateIndex)
    (location : Option Location) (construction : Construction) :
    Except ConstructionError (StateIndex × Construction) :=
  construction.addState name parent false location (.composite [] none)

/-- The new transition leaves its source and enters its target. -/
def connect (source target : StateIndex) (input output : Option String)
    (location : Option Location) (construction : Construction) :
    Except ConstructionError (TransitionIndex × Construction) := do
  let _ ← construction.checkedState source
  let _ ← construction.checkedState target
  let machine := construction.machine
  let index := machine.transitions.length
  let (id, ids) := construction.ids.mint "transition"
  let transition : Transition := { id, source, target, input, output, location }
  let states := (machine.states.modify source (·.addOutgoing index)).modify target
    (·.addIncoming index)
  return (index, ⟨{ machine with states, transitions := machine.transitions ++ [transition] }, ids⟩)

def setInitial (target : StateIndex) (construction : Construction) :
    Except ConstructionError Construction := do
  let state ← construction.checkedState target
  if state.parent.isSome then .error (.initialNotTopLevel state.id)
  else
    return { construction with
      machine := { construction.machine with initial := some ⟨target, none⟩ } }

def setCompositeInitial (composite target : StateIndex) (construction : Construction) :
    Except ConstructionError Construction := do
  let compositeState ← construction.checkedState composite
  let targetState ← construction.checkedState target
  if !compositeState.isComposite then .error (.notComposite compositeState.id)
  else if targetState.parent ≠ some composite then
    .error (.initialNotChild compositeState.id targetState.id)
  else
    let machine := construction.machine
    let initial : InitialState := ⟨target, targetState.parent⟩
    return { construction with
      machine := { machine with states := machine.states.modify composite (·.setInitial initial) } }

def setMaxDepth (maxDepth : Nat) (construction : Construction) : Construction :=
  { construction with machine := { construction.machine with maxDepth } }

end Construction

/-! The steps as data, and what an accepted step answers. A history of steps is
run by `perform`, which goes on from the same construction when a step is
rejected. -/

inductive ConstructionStep where
  | addSimple (name : Option String) (parent : Option StateIndex) (isFinal : Bool)
      (location : Option Location)
  | addComposite (name : Option String) (parent : Option StateIndex) (location : Option Location)
  | connect (source target : StateIndex) (input output : Option String)
      (location : Option Location)
  | setInitial (target : StateIndex)
  | setCompositeInitial (composite target : StateIndex)
  | setMaxDepth (maxDepth : Nat)
  deriving DecidableEq, Repr

inductive ConstructionAnswer where
  | state (index : StateIndex)
  | transition (index : TransitionIndex)
  | done
  deriving DecidableEq, Repr

namespace ConstructionStep

def apply (construction : Construction) :
    ConstructionStep → Except ConstructionError (ConstructionAnswer × Construction)
  | .addSimple name parent isFinal location => do
      let (index, construction) ← construction.addSimple name parent isFinal location
      return (.state index, construction)
  | .addComposite name parent location => do
      let (index, construction) ← construction.addComposite name parent location
      return (.state index, construction)
  | .connect source target input output location => do
      let (index, construction) ← construction.connect source target input output location
      return (.transition index, construction)
  | .setInitial target => return (.done, ← construction.setInitial target)
  | .setCompositeInitial composite target =>
      return (.done, ← construction.setCompositeInitial composite target)
  | .setMaxDepth maxDepth => return (.done, construction.setMaxDepth maxDepth)

def perform (construction : Construction) (step : ConstructionStep) :
    Except ConstructionError ConstructionAnswer × Construction :=
  match step.apply construction with
  | .ok (answer, construction) => (.ok answer, construction)
  | .error error => (.error error, construction)

end ConstructionStep

namespace Construction

/-- The answers to a history of steps, and what it leaves. -/
def run (construction : Construction) :
    List ConstructionStep → List (Except ConstructionError ConstructionAnswer) × Construction
  | [] => ([], construction)
  | step :: steps =>
      let (answer, construction) := step.perform construction
      let (answers, construction) := construction.run steps
      (answer :: answers, construction)

end Construction

end Statechart
