import Mathlib.Data.List.Nodup
import Statechart.Proofs.Machine.Identity

/-!
The elements of a machine with their ids. Where the ids are all different, looking one up
finds the element that bears it, and nothing where none does.
-/

namespace Statechart

/-- Where all keys are different, the first item with a key is the only one. -/
theorem findIdx?_eq_some_iff_of_nodup {α : Type _} {key : α → String} {items : List α}
    (distinct : (items.map key).Nodup) {wanted : String} {position : Nat} :
    items.findIdx? (key · == wanted) = some position ↔
      ∃ item, items[position]? = some item ∧ key item = wanted := by
  rw [List.findIdx?_eq_some_iff_getElem]
  constructor
  · intro first
    rcases first with ⟨inRange, same, -⟩
    exact ⟨items[position], List.getElem?_eq_getElem inRange, eq_of_beq same⟩
  · intro found
    rcases found with ⟨item, found, rfl⟩
    rcases List.getElem?_eq_some_iff.mp found with ⟨inRange, rfl⟩
    refine ⟨inRange, beq_self_eq_true _, ?_⟩
    intro earlier before
    have different := List.pairwise_iff_getElem.mp distinct earlier position
      (by simpa using Nat.lt_trans before inRange) (by simpa using inRange) before
    simpa using different

namespace Machine

/-- Everything in a machine, each element once. -/
def elements (machine : Machine) : List Element :=
  .machine :: ((List.range machine.states.length).map .state ++
    (List.range machine.transitions.length).map .transition)

def stateId (machine : Machine) (index : StateIndex) : String :=
  ((machine.state? index).map (·.id)).getD ""

def transitionId (machine : Machine) (index : TransitionIndex) : String :=
  ((machine.transition? index).map (·.id)).getD ""

def idOf (machine : Machine) : Element → String
  | .machine => machine.id
  | .state index => machine.stateId index
  | .transition index => machine.transitionId index

theorem map_stateId_range (machine : Machine) :
    (List.range machine.states.length).map machine.stateId = machine.states.map (·.id) := by
  apply List.ext_getElem (by simp)
  intro index _ inRange
  have bound : index < machine.states.length := by simpa using inRange
  simp [stateId, state?, bound]

theorem map_transitionId_range (machine : Machine) :
    (List.range machine.transitions.length).map machine.transitionId =
      machine.transitions.map (·.id) := by
  apply List.ext_getElem (by simp)
  intro index _ inRange
  have bound : index < machine.transitions.length := by simpa using inRange
  simp [transitionId, transition?, bound]

theorem map_idOf_elements (machine : Machine) : machine.elements.map machine.idOf = machine.ids := by
  rw [elements, List.map_cons, List.map_append, List.map_map, List.map_map]
  change machine.id :: ((List.range _).map machine.stateId ++
    (List.range _).map machine.transitionId) = machine.ids
  rw [map_stateId_range, map_transitionId_range, ids]

variable {machine : Machine}

theorem stateId_of_state? {index : StateIndex} {state : State}
    (found : machine.state? index = some state) : machine.stateId index = state.id := by
  rw [stateId, found]
  rfl

theorem transitionId_of_transition? {index : TransitionIndex} {transition : Transition}
    (found : machine.transition? index = some transition) :
    machine.transitionId index = transition.id := by
  rw [transitionId, found]
  rfl

theorem mem_elements_state {index : StateIndex}
    (inRange : index < machine.states.length) : .state index ∈ machine.elements :=
  List.mem_cons_of_mem _ (List.mem_append_left _ (List.mem_map_of_mem (List.mem_range.mpr inRange)))

theorem mem_elements_transition {index : TransitionIndex}
    (inRange : index < machine.transitions.length) : .transition index ∈ machine.elements :=
  List.mem_cons_of_mem _ (List.mem_append_right _ (List.mem_map_of_mem (List.mem_range.mpr inRange)))

/-! ## Looking ids up -/

theorem findElement_mem {id : String} {element : Element}
    (found : machine.findElement id = some element) :
    element ∈ machine.elements ∧ machine.idOf element = id := by
  rw [findElement] at found
  split at found
  case isTrue same =>
    cases found
    exact ⟨List.mem_cons_self, same⟩
  case isFalse =>
    split at found
    case h_1 index foundState =>
      cases found
      rcases List.findIdx?_eq_some_iff_getElem.mp foundState with ⟨inRange, same, -⟩
      refine ⟨mem_elements_state inRange, ?_⟩
      exact (stateId_of_state? (List.getElem?_eq_getElem inRange)).trans (eq_of_beq same)
    case h_2 =>
      rcases Option.map_eq_some_iff.mp found with ⟨index, foundTransition, rfl⟩
      rcases List.findIdx?_eq_some_iff_getElem.mp foundTransition with ⟨inRange, same, -⟩
      refine ⟨mem_elements_transition inRange, ?_⟩
      exact (transitionId_of_transition? (List.getElem?_eq_getElem inRange)).trans
        (eq_of_beq same)

theorem findElement_eq_none {id : String} : machine.findElement id = none ↔ id ∉ machine.ids := by
  constructor
  · intro absent member
    rw [findElement] at absent
    split at absent
    case isTrue => cases absent
    case isFalse different =>
      split at absent
      case h_1 => cases absent
      case h_2 noState =>
        have noTransition := List.findIdx?_eq_none_iff.mp (Option.map_eq_none_iff.mp absent)
        have noState := List.findIdx?_eq_none_iff.mp noState
        rcases List.mem_cons.mp member with own | member
        · exact different own.symm
        · rcases List.mem_append.mp member with ofState | ofTransition
          · rcases List.mem_map.mp ofState with ⟨state, inStates, same⟩
            simpa [same] using noState state inStates
          · rcases List.mem_map.mp ofTransition with ⟨transition, inTransitions, same⟩
            simpa [same] using noTransition transition inTransitions
  · intro unknown
    cases found : machine.findElement id with
    | none => rfl
    | some element =>
        rcases findElement_mem found with ⟨member, rfl⟩
        rw [← map_idOf_elements] at unknown
        exact absurd (List.mem_map_of_mem member) unknown

/-- Ids that are all different find their own elements. -/
theorem findElement_idOf (distinct : machine.ids.Nodup) {element : Element}
    (member : element ∈ machine.elements) :
    machine.findElement (machine.idOf element) = some element := by
  have known : machine.idOf element ∈ machine.ids := by
    rw [← map_idOf_elements]
    exact List.mem_map_of_mem member
  cases found : machine.findElement (machine.idOf element) with
  | none => exact absurd known (findElement_eq_none.mp found)
  | some other =>
      rcases findElement_mem found with ⟨otherMember, same⟩
      rw [← map_idOf_elements] at distinct
      rw [List.inj_on_of_nodup_map distinct otherMember member same]

theorem findState_eq_some (distinct : machine.ids.Nodup) {id : String} {index : StateIndex} :
    machine.findState id = some index ↔
      ∃ state, machine.state? index = some state ∧ state.id = id :=
  findIdx?_eq_some_iff_of_nodup (distinct.of_cons.sublist (List.sublist_append_left _ _))

theorem findTransition_eq_some (distinct : machine.ids.Nodup) {id : String}
    {index : TransitionIndex} :
    machine.findTransition id = some index ↔
      ∃ transition, machine.transition? index = some transition ∧ transition.id = id :=
  findIdx?_eq_some_iff_of_nodup (distinct.of_cons.sublist (List.sublist_append_right _ _))

theorem findElement_eq_some (distinct : machine.ids.Nodup) {id : String} {element : Element} :
    machine.findElement id = some element ↔
      element ∈ machine.elements ∧ machine.idOf element = id := by
  constructor
  · exact findElement_mem
  · rintro ⟨member, rfl⟩
    exact findElement_idOf distinct member

theorem containsId_eq_true {id : String} : machine.containsId id = true ↔ id ∈ machine.ids := by
  rw [containsId, Option.isSome_iff_ne_none, ne_eq, findElement_eq_none, not_not]

end Machine

end Statechart
