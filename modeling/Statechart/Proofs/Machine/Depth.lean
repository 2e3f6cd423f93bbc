import Statechart.Proofs.Machine.Containment

/-!
Depth. Parents stand before their children, so the walk up from a state ends
within its bound and its length is the level of nesting.
-/

namespace Statechart.Machine

variable {machine : Machine} {index parent : StateIndex}

/-! ## Up -/

theorem parent?_eq_some : machine.parent? index = some parent ↔
    ∃ state, machine.state? index = some state ∧ state.parent = some parent :=
  Option.bind_eq_some_iff

theorem Contained.parent?_lt (contained : machine.Contained)
    (nested : machine.parent? index = some parent) : parent < index := by
  rcases parent?_eq_some.mp nested with ⟨state, found, nested⟩
  exact contained.parent_lt found nested

theorem Contained.parent?_of_child (contained : machine.Contained) {child : StateIndex}
    (member : child ∈ machine.childrenOf (some index)) : machine.parent? child = some index :=
  parent?_eq_some.mpr (contained.mem_childrenOf.mp member)

/-- States inside a state stand behind it, so with each level down a bound that reaches to
the last state may be one less. -/
theorem Contained.length_le_of_child (contained : machine.Contained) {bound : Nat}
    {child : StateIndex} (inside : child ∈ machine.childrenOf (some index))
    (enough : machine.states.length ≤ bound + 1 + index) :
    machine.states.length ≤ bound + child := by
  have later : index < child := contained.parent?_lt (contained.parent?_of_child inside)
  rw [Nat.add_right_comm, Nat.add_assoc] at enough
  exact Nat.le_trans enough (Nat.add_le_add_left later bound)

/-- Any bound beyond the position of a state is enough. -/
theorem Contained.countAncestors_eq (contained : machine.Contained) {bound other : Nat}
    (index : StateIndex) (enough : index < bound) (otherEnough : index < other) :
    machine.countAncestors bound index = machine.countAncestors other index := by
  induction bound generalizing other index with
  | zero => cases enough
  | succ bound induction =>
      cases other with
      | zero => cases otherEnough
      | succ other =>
          rw [countAncestors, countAncestors]
          cases nested : machine.parent? index with
          | none => rfl
          | some parent =>
              have earlier : parent < index := contained.parent?_lt nested
              have same := induction parent (Nat.lt_of_lt_of_le earlier (Nat.le_of_lt_succ enough))
                (Nat.lt_of_lt_of_le earlier (Nat.le_of_lt_succ otherEnough))
              simp only [same]

theorem depth_topLevel (topLevel : machine.parent? index = none) : machine.depth index = 0 := by
  rw [depth]
  cases machine.states.length <;> simp [countAncestors, topLevel]

theorem Contained.depth_eq_zero (contained : machine.Contained)
    (atTop : index ∈ machine.topLevel) : machine.depth index = 0 := by
  have inRoot : index ∈ machine.childrenOf none := atTop
  rcases contained.mem_childrenOf.mp inRoot with ⟨state, found, topLevel⟩
  apply depth_topLevel
  rw [parent?, found]
  exact topLevel

theorem Contained.depth_nested (contained : machine.Contained)
    (nested : machine.parent? index = some parent) :
    machine.depth index = machine.depth parent + 1 := by
  have earlier : parent < index := contained.parent?_lt nested
  rcases parent?_eq_some.mp nested with ⟨state, found, -⟩
  have inRange : index < machine.states.length := lt_of_state? found
  have oneMore : machine.depth index =
      machine.countAncestors (machine.states.length + 1) index :=
    contained.countAncestors_eq index inRange (Nat.lt_succ_of_lt inRange)
  rw [oneMore, countAncestors, nested]
  rfl

theorem Contained.depth_child (contained : machine.Contained) {child : StateIndex}
    (member : child ∈ machine.childrenOf (some index)) :
    machine.depth child = machine.depth index + 1 :=
  contained.depth_nested (contained.parent?_of_child member)

/-- A state lies no deeper than it stands behind the first one. -/
theorem Contained.depth_le (contained : machine.Contained) (index : StateIndex) :
    machine.depth index ≤ index := by
  induction index using Nat.strongRecOn with
  | ind index induction =>
      cases nested : machine.parent? index with
      | none =>
          rw [depth_topLevel nested]
          exact Nat.zero_le index
      | some parent =>
          have earlier : parent < index := contained.parent?_lt nested
          rw [contained.depth_nested nested]
          exact Nat.lt_of_le_of_lt (induction parent earlier) earlier

/-! ## Entrances -/

/-- Every composite says where it is entered. -/
structure Entered (machine : Machine) : Prop where
  exists_initial : ∀ {index state}, machine.state? index = some state →
    state.isComposite = true → ∃ initial, state.initial = some initial

theorem Entered.isWellFormed (entered : machine.Entered) : machine.isWellFormed = true := by
  rw [Machine.isWellFormed, List.all_eq_true]
  intro state member
  rcases List.mem_iff_getElem?.mp member with ⟨index, found⟩
  cases composite : state.isComposite with
  | false => rfl
  | true =>
      rcases entered.exists_initial found composite with ⟨initial, set⟩
      simp [set]

end Statechart.Machine
