import Statechart.Proofs.Machine.Numbering
import Statechart.Proofs.Outcome

/-!
Other numbers. Had its source of ids stood elsewhere, a machine would have been made in
the same way, with the numbers of its ids moved on by one and the same offset: no step
looks at an id, and only the texts of its refusals mention any.
-/

namespace Statechart

namespace IdSource

/-! ## Ids with other numbers -/

/-- The word of an id, which stands in front of its last dash. -/
def kindOf (id : String) : String :=
  .ofList (id.toList.reverse.dropWhile (· ≠ '-')).tail.reverse

theorem kindOf_numbered (kind : String) (number : Nat) :
    kindOf (kind ++ "-" ++ toString number) = kind := by
  rw [kindOf, reverse_toList_numbered,
    List.dropWhile_append_of_pos (ne_dash_of_mem_digits number)]
  simp

/-- An id with its number moved on, round the 64-bit counter if need be. -/
def moveBy (offset : UInt64) (id : String) : String :=
  idAt (kindOf id) (UInt64.ofNat (numberOf id) + offset)

@[simp] theorem moveBy_idAt (offset : UInt64) (kind : String) (number : UInt64) :
    moveBy offset (idAt kind number) = idAt kind (number + offset) := by
  rw [moveBy, numberOf_idAt, UInt64.ofNat_toNat, idAt, idAt, kindOf_numbered, idAt]

/-- A text with the number `new + j` in place of the number `old + j`. What does not end in
a dash and a number from `old` on stays as it is. -/
def renumber (old new : Nat) (id : String) : String :=
  if old ≤ numberOf id ∧ id = kindOf id ++ "-" ++ toString (numberOf id) then
    kindOf id ++ "-" ++ toString (new + (numberOf id - old))
  else id

variable (old new : Nat)

theorem renumber_numbered (kind : String) (offset : Nat) :
    renumber old new (kind ++ "-" ++ toString (old + offset)) =
      kind ++ "-" ++ toString (new + offset) := by
  rw [renumber, numberOf_numbered, kindOf_numbered, Nat.add_sub_cancel_left,
    if_pos ⟨Nat.le_add_right old offset, rfl⟩]

theorem renumber_of_other {id : String}
    (other : ∀ kind offset, id ≠ kind ++ "-" ++ toString (old + offset)) :
    renumber old new id = id := by
  rw [renumber, if_neg]
  intro numbered
  apply other (kindOf id) (numberOf id - old)
  rw [Nat.add_sub_cancel' numbered.1]
  exact numbered.2

/-- Nothing has no number. -/
theorem renumber_empty : renumber old new "" = "" := by
  apply renumber_of_other
  intro kind offset same
  have lists := congrArg String.toList same
  rw [toList_numbered] at lists
  exact List.append_ne_nil_of_right_ne_nil _ (List.cons_ne_nil _ _) lists.symm

/-- Where the numbers do not run out, moving them on is writing others. -/
theorem moveBy_eq_renumber {start other : UInt64} {offset : Nat} (kind : String)
    (room : start.toNat + offset < 2 ^ 64) (otherRoom : other.toNat + offset < 2 ^ 64) :
    moveBy (other - start) (idAt kind (start + UInt64.ofNat offset)) =
      renumber start.toNat other.toNat (idAt kind (start + UInt64.ofNat offset)) := by
  have moved : start + UInt64.ofNat offset + (other - start) = other + UInt64.ofNat offset := by
    rw [UInt64.add_comm, ← UInt64.add_assoc, UInt64.sub_add_cancel]
  rw [moveBy_idAt, moved, idAt_add kind otherRoom, idAt_add kind room, renumber_numbered]

end IdSource

/-! ## Machines with other ids -/

def State.renameIds (rename : String → String) (state : State) : State :=
  { state with id := rename state.id }

@[simp] theorem State.isComposite_renameIds (rename : String → String) (state : State) :
    (state.renameIds rename).isComposite = state.isComposite := rfl

@[simp] theorem State.parent_renameIds (rename : String → String) (state : State) :
    (state.renameIds rename).parent = state.parent := rfl

def Transition.renameIds (rename : String → String) (transition : Transition) : Transition :=
  { transition with id := rename transition.id }

namespace Machine

def renameIds (rename : String → String) (machine : Machine) : Machine :=
  { machine with
    id := rename machine.id
    states := machine.states.map (·.renameIds rename)
    transitions := machine.transitions.map (·.renameIds rename) }

variable {rename other : String → String} (machine : Machine)

theorem renameIds_congr {machine : Machine} (same : ∀ id ∈ machine.ids, rename id = other id) :
    machine.renameIds rename = machine.renameIds other := by
  have states : machine.states.map (·.renameIds rename) =
      machine.states.map (·.renameIds other) := by
    apply List.map_congr_left
    intro state member
    have known : state.id ∈ machine.ids :=
      List.mem_cons_of_mem _ (List.mem_append_left _ (List.mem_map_of_mem member))
    rw [State.renameIds, same _ known, State.renameIds]
  have transitions : machine.transitions.map (·.renameIds rename) =
      machine.transitions.map (·.renameIds other) := by
    apply List.map_congr_left
    intro transition member
    have known : transition.id ∈ machine.ids :=
      List.mem_cons_of_mem _ (List.mem_append_right _ (List.mem_map_of_mem member))
    rw [Transition.renameIds, same _ known, Transition.renameIds]
  rw [renameIds, same _ List.mem_cons_self, states, transitions, renameIds]

@[simp] theorem state?_renameIds (index : StateIndex) :
    (machine.renameIds rename).state? index =
      (machine.state? index).map (·.renameIds rename) := by
  simp [state?, renameIds]

@[simp] theorem transition?_renameIds (index : TransitionIndex) :
    (machine.renameIds rename).transition? index =
      (machine.transition? index).map (·.renameIds rename) := by
  simp [transition?, renameIds]

@[simp] theorem length_renameIds : (machine.renameIds rename).states.length = machine.states.length :=
  List.length_map _

/-! An effect that touches a state at its links commutes with the new ids. -/

theorem map_modify_renameIds {change : State → State}
    (keeps : ∀ state : State, (change state).renameIds rename = change (state.renameIds rename))
    (states : List State) (index : StateIndex) :
    (states.modify index change).map (·.renameIds rename) =
      (states.map (·.renameIds rename)).modify index change := by
  apply List.ext_getElem?
  intro position
  rw [List.getElem?_map, List.getElem?_modify, List.getElem?_modify, List.getElem?_map]
  cases states[position]? with
  | none => rfl
  | some state =>
      by_cases here : index = position <;> simp [here, keeps]

theorem addChild_renameIds (child : StateIndex) (state : State) :
    (state.addChild child).renameIds rename = (state.renameIds rename).addChild child := by
  rcases state with ⟨_, _, _, _, _, _, _, kind⟩
  cases kind <;> rfl

theorem setInitial_renameIds (initial : InitialState) (state : State) :
    (state.setInitial initial).renameIds rename = (state.renameIds rename).setInitial initial := by
  rcases state with ⟨_, _, _, _, _, _, _, kind⟩
  cases kind <;> rfl

theorem withState_renameIds (state : State) :
    (machine.withState state).renameIds rename =
      (machine.renameIds rename).withState (state.renameIds rename) := by
  rcases state with ⟨_, _, _, parent, _, _, _, _⟩
  cases parent with
  | none => simp [withState, attach, renameIds, State.renameIds]
  | some parent =>
      dsimp only [withState, attach, renameIds]
      rw [map_modify_renameIds (addChild_renameIds _), List.map_append, List.length_map]
      rfl

theorem withTransition_renameIds (transition : Transition) :
    (machine.withTransition transition).renameIds rename =
      (machine.renameIds rename).withTransition (transition.renameIds rename) := by
  have outgoing : ∀ state : State, (state.addOutgoing machine.transitions.length).renameIds rename =
      (state.renameIds rename).addOutgoing machine.transitions.length := fun _ => rfl
  have incoming : ∀ state : State, (state.addIncoming machine.transitions.length).renameIds rename =
      (state.renameIds rename).addIncoming machine.transitions.length := fun _ => rfl
  rw [withTransition, renameIds]
  dsimp only
  rw [map_modify_renameIds incoming, map_modify_renameIds outgoing]
  simp [withTransition, renameIds, Transition.renameIds]

theorem withCompositeInitial_renameIds (rename : String → String)
    (composite target : StateIndex) :
    (machine.withCompositeInitial composite target).renameIds rename =
      (machine.renameIds rename).withCompositeInitial composite target := by
  rw [withCompositeInitial, renameIds]
  dsimp only
  rw [map_modify_renameIds (setInitial_renameIds _)]
  rfl

end Machine

/-! ## Steps with other numbers -/

namespace Construction

/-- The same construction with all numbers moved on, those to come included. -/
def moveBy (offset : UInt64) (construction : Construction) : Construction :=
  ⟨construction.machine.renameIds (IdSource.moveBy offset), ⟨construction.ids.next + offset⟩⟩

variable (offset : UInt64) (construction : Construction)

theorem next_moveBy (next : UInt64) : next + 1 + offset = next + offset + 1 := by
  rw [UInt64.add_assoc, UInt64.add_comm 1, UInt64.add_assoc]

theorem start_moveBy (name : String) (location : Option Location) (ids : IdSource) :
    (start name location ids).moveBy offset = start name location ⟨ids.next + offset⟩ := by
  simp [start, moveBy, IdSource.mint, Machine.renameIds, next_moveBy]

theorem checkedState_moveBy (index : StateIndex) :
    (construction.moveBy offset).checkedState index =
      State.renameIds (IdSource.moveBy offset) <$> construction.checkedState index := by
  rw [checkedState, checkedState, moveBy]
  dsimp only
  rw [Machine.state?_renameIds]
  cases construction.machine.state? index <;> rfl

theorem checkParent_moveBy (parent : Option StateIndex) :
    ((construction.moveBy offset).checkParent parent).toOption =
      (construction.checkParent parent).toOption := by
  cases parent with
  | none => rw [checkParent, checkParent]
  | some parent =>
      rw [checkParent, checkParent, checkedState_moveBy]
      cases construction.checkedState parent with
      | error error => rw [map_error, error_bind]
      | ok state =>
          rw [map_ok, ok_bind, ok_bind, State.isComposite_renameIds]
          cases state.isComposite with
          | true => rfl
          | false => rfl

theorem addState_moveBy (name : Option String) (parent : Option StateIndex) (isFinal : Bool)
    (location : Option Location) (kind : StateKind) :
    ((construction.moveBy offset).addState name parent isFinal location kind).toOption =
      (construction.addState name parent isFinal location kind).toOption.map
        (Prod.map id (moveBy offset)) := by
  have same := checkParent_moveBy offset construction parent
  cases accepted : construction.checkParent parent with
  | error error =>
      rw [accepted] at same
      rw [addState, addState, toOption_bind, toOption_bind, same, accepted]
      rfl
  | ok _ =>
      rw [accepted] at same
      have acceptedToo := toOption_eq_some.mp same
      rw [addState_of_accepted accepted, addState_of_accepted acceptedToo]
      simp only [Except.toOption, Option.map_some, Prod.map, id, moveBy,
        Machine.withState_renameIds, State.renameIds, IdSource.moveBy_idAt, next_moveBy,
        Machine.length_renameIds]

variable {offset} {construction} in
theorem state?_moveBy {index : StateIndex} {held : State}
    (found : construction.machine.state? index = some held) :
    (construction.moveBy offset).machine.state? index =
      some (held.renameIds (IdSource.moveBy offset)) := by
  rw [moveBy]
  dsimp only
  rw [Machine.state?_renameIds, found, Option.map_some]

theorem connect_moveBy (source target : StateIndex) (input output : Option String)
    (location : Option Location) :
    ((construction.moveBy offset).connect source target input output location).toOption =
      (construction.connect source target input output location).toOption.map
        (Prod.map id (moveBy offset)) := by
  cases sourceChecked : construction.checkedState source with
  | error error =>
      rw [connect, connect, checkedState_moveBy, sourceChecked, map_error, error_bind, error_bind]
      rfl
  | ok held =>
      cases targetChecked : construction.checkedState target with
      | error error =>
          rw [connect, connect, checkedState_moveBy, checkedState_moveBy, sourceChecked,
            targetChecked, map_ok, ok_bind, ok_bind, map_error, error_bind, error_bind]
          rfl
      | ok entered =>
          rw [checkedState_eq_ok] at sourceChecked targetChecked
          rw [connect_of_found sourceChecked targetChecked,
            connect_of_found (state?_moveBy sourceChecked) (state?_moveBy targetChecked)]
          simp only [Except.toOption, Option.map_some, Prod.map, id, moveBy,
            Machine.withTransition_renameIds, Transition.renameIds, IdSource.moveBy_idAt,
            next_moveBy]
          simp only [Machine.renameIds, List.length_map]

theorem setInitial_moveBy (target : StateIndex) :
    ((construction.moveBy offset).setInitial target).toOption =
      (construction.setInitial target).toOption.map (moveBy offset) := by
  rw [setInitial, setInitial, checkedState_moveBy]
  cases construction.checkedState target with
  | error error =>
      rw [map_error, error_bind, error_bind]
      rfl
  | ok held =>
      rw [map_ok, ok_bind, ok_bind, State.parent_renameIds]
      cases held.parent with
      | none => rfl
      | some parent => rfl

theorem setCompositeInitial_moveBy (composite target : StateIndex) :
    ((construction.moveBy offset).setCompositeInitial composite target).toOption =
      (construction.setCompositeInitial composite target).toOption.map (moveBy offset) := by
  rw [setCompositeInitial, setCompositeInitial, checkedState_moveBy, checkedState_moveBy]
  cases construction.checkedState composite with
  | error error =>
      rw [map_error, error_bind, error_bind]
      rfl
  | ok held =>
      rw [map_ok, ok_bind, ok_bind]
      cases construction.checkedState target with
      | error error =>
          rw [map_error, error_bind, error_bind]
          rfl
      | ok entered =>
          rw [map_ok, ok_bind, ok_bind, State.isComposite_renameIds, State.parent_renameIds]
          cases held.isComposite with
          | false => rfl
          | true =>
              by_cases child : entered.parent = some composite
              · have entering := construction.machine.withCompositeInitial_renameIds
                  (IdSource.moveBy offset) composite target
                simp only [child, ne_eq, not_true_eq_false, Bool.not_true, Bool.false_eq_true,
                  if_false]
                exact congrArg (fun machine => some (Construction.mk machine _)) entering.symm
              · simp [child, Except.toOption]

end Construction

end Statechart
