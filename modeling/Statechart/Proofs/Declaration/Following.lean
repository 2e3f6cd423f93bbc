import Statechart.Proofs.Declaration.Draft
import Statechart.Proofs.Machine.Containment

/-!
Machines that follow the outline of a declaration. Once all states are made they
stand where the outline places them, so looking a name up among the states of a
machine comes to counting declarations.
-/

namespace Statechart

namespace Machine

structure Follows (machine : Machine) (first : UInt64) (declaration : MachineDeclaration) :
    Prop where
  states : machine.unlinkedStates = declaration.outline.map (·.state first)
  contained : machine.Contained

variable {machine : Machine} {first : UInt64} {declaration : MachineDeclaration}

theorem Follows.exists_state (follows : machine.Follows first declaration) {placement : Placement}
    (member : placement ∈ declaration.outline) :
    ∃ held, machine.state? placement.position = some held ∧
      held.unlinked = placement.state first := by
  have placed : machine.unlinkedStates[placement.position]? = some (placement.state first) := by
    rw [follows.states, List.getElem?_map,
      MachineDeclaration.outline_getElem?_of_mem member]
    rfl
  rwa [getElem?_unlinkedStates, Option.map_eq_some_iff] at placed

theorem Follows.exists_placement (follows : machine.Follows first declaration)
    {index : StateIndex} {held : State} (found : machine.state? index = some held) :
    ∃ placement ∈ declaration.outline, placement.position = index ∧
      held.unlinked = placement.state first := by
  have placed : machine.unlinkedStates[index]? = some held.unlinked := by
    rw [getElem?_unlinkedStates, found]
    rfl
  rw [follows.states, List.getElem?_map, Option.map_eq_some_iff] at placed
  rcases placed with ⟨placement, listed, same⟩
  exact ⟨placement, List.mem_of_getElem? listed, MachineDeclaration.outline_position listed,
    same.symm⟩

/-- The states inside a container are the ones placed there, in their order. -/
theorem Follows.childrenOf (follows : machine.Follows first declaration)
    (container : Option StateIndex) :
    machine.childrenOf container =
      (declaration.outline.filter (·.parent = container)).map (·.position) := by
  have increasing : ((declaration.outline.filter (·.parent = container)).map
      (·.position)).Pairwise (· < ·) :=
    declaration.outline_increasing.sublist (List.filter_sublist.map _)
  have sameMembers : ∀ index, index ∈ machine.childrenOf container ↔
      index ∈ (declaration.outline.filter (·.parent = container)).map (·.position) := by
    intro index
    simp only [follows.contained.mem_childrenOf, List.mem_map, List.mem_filter,
      decide_eq_true_eq]
    constructor
    · intro inside
      rcases inside with ⟨held, found, rfl⟩
      rcases follows.exists_placement found with ⟨placement, member, rfl, same⟩
      have sameParent : held.parent = placement.parent := congrArg State.parent same
      exact ⟨placement, ⟨member, sameParent.symm⟩, rfl⟩
    · intro listed
      rcases listed with ⟨placement, ⟨member, rfl⟩, rfl⟩
      rcases follows.exists_state member with ⟨held, found, same⟩
      have sameParent : held.parent = placement.parent := congrArg State.parent same
      exact ⟨held, found, sameParent⟩
  have permutes := (List.perm_ext_iff_of_nodup (follows.contained.nodup_childrenOf container)
    (increasing.imp Nat.ne_of_lt)).mpr sameMembers
  have antisymmetric : ∀ left right : Nat, left ∈ machine.childrenOf container →
      right ∈ (declaration.outline.filter (·.parent = container)).map (·.position) →
        left < right → right < left → left = right := by
    intro left right _ _ before after
    exact absurd after (Nat.lt_asymm before)
  exact permutes.eq_of_pairwise antisymmetric (follows.contained.increasing container) increasing

/-- The states of a container that bear a name are the ones declared with it. -/
theorem Follows.mem_named (follows : machine.Follows first declaration)
    {container : Option StateIndex} {name : String} {index : StateIndex} :
    (index ∈ (machine.childrenOf container).filter fun candidate =>
        (machine.state? candidate).bind (·.name) == some name) ↔
      ∃ placement ∈ declaration.outline.filter (·.parent = container),
        placement.position = index ∧ placement.declaration.name = some name := by
  rw [follows.childrenOf, List.mem_filter, List.mem_map]
  have sameName : ∀ placement ∈ declaration.outline,
      (machine.state? placement.position).bind (·.name) = placement.declaration.name := by
    intro placement member
    rcases follows.exists_state member with ⟨held, found, same⟩
    rw [found]
    exact congrArg State.name same
  constructor
  · intro listed
    rcases listed with ⟨⟨placement, member, rfl⟩, named⟩
    rw [sameName placement (List.mem_filter.mp member).1] at named
    exact ⟨placement, member, rfl, beq_iff_eq.mp named⟩
  · intro placed
    rcases placed with ⟨placement, member, rfl, named⟩
    refine ⟨⟨placement, member, rfl⟩, ?_⟩
    rw [sameName placement (List.mem_filter.mp member).1, named]
    exact beq_self_eq_true _

/-- As many states in a container bear a name as declarations of that container do. -/
theorem Follows.length_named (follows : machine.Follows first declaration)
    (container : Option StateIndex) (name : String) :
    ((machine.childrenOf container).filter fun candidate =>
        (machine.state? candidate).bind (·.name) == some name).length =
      StateDeclaration.countNamed name
        ((declaration.outline.filter (·.parent = container)).map (·.declaration)) := by
  rw [follows.childrenOf, ← List.countP_eq_length_filter, List.countP_map,
    StateDeclaration.countNamed, List.countP_map]
  apply List.countP_congr
  intro placement member
  rcases follows.exists_state (List.mem_filter.mp member).1 with ⟨held, found, same⟩
  have sameName : held.name = placement.declaration.name := congrArg State.name same
  simp [found, sameName]

end Machine

end Statechart
