import Statechart.Proofs.Machine.Advance

/-!
The states of a machine without their links. Only a new state adds to them; all
other effects of construction steps leave them alone.
-/

namespace Statechart

namespace State

/-- A state as it is made, before it is linked to its children, to its initial
state and to transitions. -/
def unlinked (state : State) : State :=
  { state with
    outgoing := []
    incoming := []
    kind := if state.isComposite then .composite [] none else .simple }

@[simp] theorem unlinked_isComposite (state : State) :
    state.unlinked.isComposite = state.isComposite := by
  rcases state with ⟨_, _, _, _, _, _, _, _ | _⟩ <;> rfl

@[simp] theorem unlinked_addChild (child : StateIndex) (state : State) :
    (state.addChild child).unlinked = state.unlinked := by
  rcases state with ⟨_, _, _, _, _, _, _, _ | _⟩ <;> rfl

@[simp] theorem unlinked_setInitial (initial : InitialState) (state : State) :
    (state.setInitial initial).unlinked = state.unlinked := by
  rcases state with ⟨_, _, _, _, _, _, _, _ | _⟩ <;> rfl

@[simp] theorem unlinked_addOutgoing (transition : TransitionIndex) (state : State) :
    (state.addOutgoing transition).unlinked = state.unlinked := rfl

@[simp] theorem unlinked_addIncoming (transition : TransitionIndex) (state : State) :
    (state.addIncoming transition).unlinked = state.unlinked := rfl

end State

namespace Machine

def unlinkedStates (machine : Machine) : List State :=
  machine.states.map (·.unlinked)

@[simp] theorem length_unlinkedStates (machine : Machine) :
    machine.unlinkedStates.length = machine.states.length :=
  List.length_map _

theorem map_id_unlinkedStates (machine : Machine) :
    machine.unlinkedStates.map (·.id) = machine.states.map (·.id) :=
  List.map_map

theorem getElem?_unlinkedStates (machine : Machine) (index : StateIndex) :
    machine.unlinkedStates[index]? = (machine.state? index).map (·.unlinked) :=
  List.getElem?_map

theorem map_unlinked_modify {change : State → State}
    (kept : ∀ state, (change state).unlinked = state.unlinked) (states : List State)
    (index : StateIndex) : (states.modify index change).map (·.unlinked) = states.map (·.unlinked) := by
  apply List.ext_getElem?
  intro position
  rw [List.getElem?_map, List.getElem?_modify, List.getElem?_map]
  cases states[position]? with
  | none => rfl
  | some state =>
      simp only [Option.map_eq_map, Option.map_some]
      split <;> simp [kept]

@[simp] theorem unlinkedStates_withState (machine : Machine) (state : State) :
    (machine.withState state).unlinkedStates = machine.unlinkedStates ++ [state.unlinked] := by
  unfold unlinkedStates withState attach
  split <;> simp [map_unlinked_modify]

@[simp] theorem unlinkedStates_withTransition (machine : Machine) (transition : Transition) :
    (machine.withTransition transition).unlinkedStates = machine.unlinkedStates := by
  rw [unlinkedStates, withTransition, map_unlinked_modify (State.unlinked_addIncoming _),
    map_unlinked_modify (State.unlinked_addOutgoing _), unlinkedStates]

@[simp] theorem unlinkedStates_withInitial (machine : Machine) (target : StateIndex) :
    (machine.withInitial target).unlinkedStates = machine.unlinkedStates := rfl

@[simp] theorem unlinkedStates_withCompositeInitial (machine : Machine)
    (composite target : StateIndex) :
    (machine.withCompositeInitial composite target).unlinkedStates = machine.unlinkedStates := by
  simp [unlinkedStates, withCompositeInitial, map_unlinked_modify]

end Machine

end Statechart
