import Statechart.Proofs.Declaration.Checklist

/-!
The outline of a declaration: one placement for each state it declares, in the
order in which the states are made. A placement says at which position the state
stands, how deep it is nested and at which position its parent stands.
-/

namespace Statechart

structure Placement where
  position : Nat
  parent : Option Nat
  level : Nat
  declaration : StateDeclaration

namespace StateDeclaration

mutual
/-- A declaration at `position` and the declarations inside it at the positions
that follow. -/
def outline (parent : Option Nat) (level : Nat) (position : Nat) :
    StateDeclaration → List Placement
  | ⟨name, isFinal, initial, states, transitions, location⟩ =>
      ⟨position, parent, level, ⟨name, isFinal, initial, states, transitions, location⟩⟩ ::
        outlineAll (some position) (level + 1) (position + 1) states

def outlineAll (parent : Option Nat) (level : Nat) (first : Nat) :
    List StateDeclaration → List Placement
  | [] => []
  | state :: states =>
      let placements := state.outline parent level first
      placements ++ outlineAll parent level (first + placements.length) states
end

theorem outlineAll_cons (parent : Option Nat) (level : Nat) (first : Nat)
    (state : StateDeclaration) (states : List StateDeclaration) :
    outlineAll parent level first (state :: states) =
      let inside := outlineAll (some first) (level + 1) (first + 1) state.states
      ⟨first, parent, level, state⟩ ::
        (inside ++ outlineAll parent level (first + 1 + inside.length) states) := by
  rcases state with ⟨name, isFinal, initial, inside, transitions, location⟩
  simp only [outlineAll, outline, List.cons_append, List.length_cons]
  rw [Nat.add_right_comm, Nat.add_assoc]

/-! ## Order -/

theorem outlineAll_nested (parent : Option Nat) (level : Nat) (first : Nat)
    (states : List StateDeclaration) :
    (outlineAll parent level first states).map (fun placement =>
      (placement.level, placement.declaration)) = nestedAll level states := by
  induction states using states_induction generalizing parent level first with
  | nil => rfl
  | cons state states inside later =>
      rw [outlineAll_cons, nestedAll_cons, List.map_cons, List.map_append, inside, later]

/-- Positions are given out one after the other. -/
theorem outlineAll_positions (parent : Option Nat) (level : Nat) (first : Nat)
    (states : List StateDeclaration) :
    (outlineAll parent level first states).map (·.position) =
      List.range' first (outlineAll parent level first states).length := by
  induction states using states_induction generalizing parent level first with
  | nil => rfl
  | cons state states inside later =>
      rw [outlineAll_cons, List.map_cons, List.map_append, inside, later, List.length_cons,
        List.length_append, List.range'_append_1, List.range'_succ]

theorem position_bounds {parent : Option Nat} {level : Nat} {first : Nat}
    {states : List StateDeclaration} {placement : Placement}
    (member : placement ∈ outlineAll parent level first states) :
    first ≤ placement.position ∧
      placement.position < first + (outlineAll parent level first states).length := by
  have listed : placement.position ∈ (outlineAll parent level first states).map (·.position) :=
    List.mem_map_of_mem member
  rw [outlineAll_positions] at listed
  exact List.mem_range'_1.mp listed

theorem position_of_getElem? {parent : Option Nat} {level : Nat} {first offset : Nat}
    {states : List StateDeclaration} {placement : Placement}
    (found : (outlineAll parent level first states)[offset]? = some placement) :
    placement.position = first + offset := by
  have listed : ((outlineAll parent level first states).map (·.position))[offset]? =
      some placement.position := by
    rw [List.getElem?_map, found]
    rfl
  rw [outlineAll_positions, List.getElem?_eq_some_iff] at listed
  rcases listed with ⟨_, listed⟩
  rw [List.getElem_range', Nat.one_mul] at listed
  exact listed.symm

/-! ## Parents -/

/-- A state stands in the container of the whole outline, or inside another state of
the outline and one level below it. -/
theorem outlineAll_parent {parent : Option Nat} {level : Nat} {first : Nat}
    {states : List StateDeclaration} {placement : Placement}
    (member : placement ∈ outlineAll parent level first states) :
    placement.parent = parent ∧ placement.level = level ∨
      ∃ container ∈ outlineAll parent level first states,
        placement.parent = some container.position ∧ placement.level = container.level + 1 := by
  induction states using states_induction generalizing parent level first with
  | nil => cases member
  | cons state states inside later =>
      rw [outlineAll_cons] at member ⊢
      rcases List.mem_cons.mp member with rfl | member
      · exact .inl ⟨rfl, rfl⟩
      · rcases List.mem_append.mp member with member | member
        · rcases inside member with ⟨atTop, levelAtTop⟩ | ⟨container, held, below⟩
          · exact .inr ⟨_, List.mem_cons_self, atTop, levelAtTop⟩
          · exact .inr ⟨container, List.mem_cons_of_mem _ (List.mem_append_left _ held), below⟩
        · rcases later member with atTop | ⟨container, held, below⟩
          · exact .inl atTop
          · exact .inr ⟨container, List.mem_cons_of_mem _ (List.mem_append_right _ held), below⟩

/-- No state of an outline has a parent outside of it but the common container. -/
theorem filter_parent_outside {parent : Option Nat} {level : Nat} {first : Nat}
    {states : List StateDeclaration} {index : Nat} (notContainer : parent ≠ some index)
    (outside : index < first ∨ first + (outlineAll parent level first states).length ≤ index) :
    (outlineAll parent level first states).filter (·.parent = some index) = [] := by
  simp only [List.filter_eq_nil_iff, decide_eq_true_eq]
  intro placement member nested
  rcases outlineAll_parent member with ⟨atTop, -⟩ | ⟨container, held, below, -⟩
  · exact notContainer (atTop.symm.trans nested)
  · have bounds := position_bounds held
    have same : container.position = index := Option.some.inj (below.symm.trans nested)
    omega

/-- The states in the common container are the ones that the outline was drawn of. -/
theorem filter_parent_container {parent : Option Nat} {level : Nat} {first : Nat}
    {states : List StateDeclaration} (before : ∀ index, parent = some index → index < first) :
    ((outlineAll parent level first states).filter (·.parent = parent)).map (·.declaration) =
      states := by
  induction states generalizing first with
  | nil => rfl
  | cons state states induction =>
      have insideElsewhere : (outlineAll (some first) (level + 1) (first + 1) state.states).filter
          (·.parent = parent) = [] := by
        cases parent with
        | none =>
            simp only [List.filter_eq_nil_iff, decide_eq_true_eq]
            intro placement member topLevel
            rcases outlineAll_parent member with ⟨nested, -⟩ | ⟨_, _, nested, -⟩ <;>
              cases nested.symm.trans topLevel
        | some index =>
            have earlier := before index rfl
            apply filter_parent_outside
            · intro same
              cases same
              exact Nat.lt_irrefl _ earlier
            · exact .inl (Nat.lt_succ_of_lt earlier)
      have laterBefore : ∀ index, parent = some index →
          index < first + 1 +
            (outlineAll (some first) (level + 1) (first + 1) state.states).length := by
        intro index container
        have earlier := before index container
        omega
      rw [outlineAll_cons]
      simp [insideElsewhere, induction laterBefore]

/-- The states with a state of the outline as parent are those declared inside it. -/
theorem filter_parent_position {parent : Option Nat} {level : Nat} {first : Nat}
    {states : List StateDeclaration} (before : ∀ index, parent = some index → index < first)
    {container : Placement} (member : container ∈ outlineAll parent level first states) :
    ((outlineAll parent level first states).filter (·.parent = some container.position)).map
      (·.declaration) = container.declaration.states := by
  induction states using states_induction generalizing parent level first with
  | nil => cases member
  | cons state states inside later =>
      have bounds := position_bounds member
      have notContainer : parent ≠ some container.position := by
        intro same
        have earlier := before _ same
        omega
      rw [outlineAll_cons] at member ⊢
      rw [List.filter_cons_of_neg (by simpa using notContainer), List.filter_append,
        List.map_append]
      rcases List.mem_cons.mp member with rfl | member
      · rw [filter_parent_container (by simp), filter_parent_outside notContainer
          (.inl (by simp; omega)), List.map_nil, List.append_nil]
      · rcases List.mem_append.mp member with member | member
        · have insideBounds := position_bounds member
          rw [inside (by simp) member, filter_parent_outside notContainer
            (.inl insideBounds.2), List.map_nil, List.append_nil]
        · have laterBounds := position_bounds member
          have laterBefore : ∀ index, parent = some index →
              index < first + 1 +
                (outlineAll (some first) (level + 1) (first + 1) state.states).length := by
            intro index same
            have earlier := before index same
            omega
          rw [later laterBefore member, filter_parent_outside (by simp; omega)
            (.inr laterBounds.1), List.map_nil, List.nil_append]

end StateDeclaration

/-! ## The outline of a machine -/

namespace MachineDeclaration

def outline (declaration : MachineDeclaration) : List Placement :=
  StateDeclaration.outlineAll none 0 0 declaration.states

variable {declaration : MachineDeclaration} {placement : Placement}

theorem outline_nested (declaration : MachineDeclaration) :
    declaration.outline.map (fun placement => (placement.level, placement.declaration)) =
      declaration.nested :=
  StateDeclaration.outlineAll_nested none 0 0 declaration.states

theorem outline_declarations (declaration : MachineDeclaration) :
    declaration.outline.map (·.declaration) = declaration.allStates := by
  rw [allStates, ← outline_nested, List.map_map]
  rfl

theorem outline_position {index : Nat} (found : declaration.outline[index]? = some placement) :
    placement.position = index :=
  (StateDeclaration.position_of_getElem? found).trans (Nat.zero_add index)

theorem outline_getElem?_of_mem (member : placement ∈ declaration.outline) :
    declaration.outline[placement.position]? = some placement := by
  rcases List.mem_iff_getElem?.mp member with ⟨offset, found⟩
  have position := outline_position found
  rwa [position]

theorem outline_increasing (declaration : MachineDeclaration) :
    (declaration.outline.map (·.position)).Pairwise (· < ·) := by
  rw [outline, StateDeclaration.outlineAll_positions]
  exact List.pairwise_lt_range'

theorem outline_filter_topLevel (declaration : MachineDeclaration) :
    (declaration.outline.filter (·.parent = none)).map (·.declaration) = declaration.states :=
  StateDeclaration.filter_parent_container (by simp)

theorem outline_filter_inside (member : placement ∈ declaration.outline) :
    (declaration.outline.filter (·.parent = some placement.position)).map (·.declaration) =
      placement.declaration.states :=
  StateDeclaration.filter_parent_position (by simp) member

end MachineDeclaration

end Statechart
