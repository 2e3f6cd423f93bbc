import Statechart.Configuration
import Statechart.Machine.Nesting
import Statechart.Record.Basic
import Statechart.Snapshot

/-!
Rendering machines and snapshots as records. What an element owns becomes its
children and what it only points at becomes a reference: a state owns the
transitions that leave it and, when it is composite, the states inside it. A
call answers with the whole record or with an error.
-/

namespace Statechart

/-! A renderer knows the machine, the deepest level it goes down to, and the
key for a transition's output. -/

structure Renderer where
  machine : Machine
  maxDepth : Nat
  outputKey : String

namespace Renderer

def ofConfiguration (machine : Machine) (configuration : Configuration) : Renderer where
  machine := machine
  maxDepth := configuration.maxDepth.toNat
  outputKey := configuration.outputAttribute.key

def lookup (renderer : Renderer) (index : StateIndex) : Except TreeError State :=
  match renderer.machine.state? index with
  | some state => .ok state
  | none => .error (.noSuchState index)

def edge (renderer : Renderer) (index : TransitionIndex) : Except TreeError Transition :=
  match renderer.machine.transition? index with
  | some transition => .ok transition
  | none => .error (.noSuchTransition index)

/-! A final target is not pointed at: the role a transition stands under already
tells that it ends the execution. -/

def transition (renderer : Renderer) (index : TransitionIndex) : Except TreeError Record := do
  let edge ← renderer.edge index
  let target ← renderer.lookup edge.target
  return {
    id := edge.id
    kind := transitionType
    attributes := .ofList [
      ("input", .ofOption .text edge.input),
      (renderer.outputKey, .ofOption .text edge.output)]
    refs := if target.isFinal then .empty else .ofList [("target", target.id)]
    location := edge.location }

def targetsFinal (renderer : Renderer) (index : TransitionIndex) : Except TreeError Bool := do
  let edge ← renderer.edge index
  let target ← renderer.lookup edge.target
  return target.isFinal

/-! The outgoing transitions of a state, those with another target first and
those with a final target second, both in their order. -/

def partition (renderer : Renderer) :
    List TransitionIndex → Except TreeError (List Record × List Record)
  | [] => .ok ([], [])
  | index :: indices => do
      let record ← renderer.transition index
      let isFinal ← renderer.targetsFinal index
      let (others, finals) ← renderer.partition indices
      return if isFinal then (others, record :: finals) else (record :: others, finals)

/-! A composite without an initial state is refused before anything below it is
looked at. -/

def entry (state : State) : Except TreeError (Option StateIndex) :=
  match state.kind with
  | .simple => .ok none
  | .composite _ (some initial) => .ok (some initial.target)
  | .composite _ none => .error (.malformedTree state.id)

/-- Renders a state with `levels` levels left, its own included. -/
def stateWithin (renderer : Renderer) : Nat → StateIndex → Except TreeError Record
  | 0, _ => .error (.recursionLimit renderer.maxDepth)
  | levels + 1, index => do
      let state ← renderer.lookup index
      let entered ← entry state
      let (transitions, finals) ← renderer.partition state.outgoing
      let record : Record := {
        id := state.id
        kind := stateType
        attributes := .ofList [("name", .ofOption .text state.name)]
        children := [
          ("final transitions", .many finals),
          ("transitions", .many transitions)]
        location := state.location }
      match entered with
      | none => return record
      | some target => do
          let states ← state.children.mapM (renderer.stateWithin levels)
          let target ← renderer.lookup target
          return { record with
            children := Entries.insert "states" (.many states) record.children
            refs := .ofList [("initialState", target.id)] }

/-- The record of a state as it stands in the record of its machine. -/
def state (renderer : Renderer) (index : StateIndex) : Except TreeError Record :=
  renderer.stateWithin (renderer.maxDepth + 1 - renderer.machine.depth index) index

/-! Where no initial state is set the machine points at nothing, which is
written as an empty id. -/

def initialId (renderer : Renderer) : Except TreeError String :=
  match renderer.machine.initial with
  | none => .ok ""
  | some initial => (·.id) <$> renderer.lookup initial.target

def stateMachine (renderer : Renderer) : Except TreeError Record := do
  let machine := renderer.machine
  let states ← machine.topLevel.mapM (renderer.stateWithin (renderer.maxDepth + 1))
  let initialId ← renderer.initialId
  return {
    id := machine.id
    kind := machineType
    attributes := .ofList [("name", .text machine.name)]
    children := [("states", .many states)]
    refs := .ofList [("initialState", initialId)]
    location := machine.location }

/-! A snapshot in a final state says so in an attribute instead of pointing at
the state. -/

def finalStateMark : String := "FINAL"

def snapshot (renderer : Renderer) (snapshot : Snapshot) : Except TreeError Record := do
  let current ← renderer.lookup snapshot.current
  let attributes := .ofList [
    ("inputs", .ofTexts snapshot.inputs),
    ("nextConsumedInputIndex", .ofOption .integer snapshot.nextInput),
    ("outputs", .ofTexts snapshot.outputs)]
  let record : Record := { id := snapshot.id, kind := snapshotType, attributes }
  return if current.isFinal then
    { record with attributes := attributes.insert "currentState" (.text finalStateMark) }
  else
    { record with refs := .ofList [("currentState", current.id)] }

end Renderer

end Statechart
