import Statechart.Proofs.Declaration.Acceptance
import Statechart.Proofs.Machine.Descent
import Statechart.Proofs.Record.Rendering

/-!
Usability. What a build lets through is fit for all that is done with a machine
later: every state has a simple state to enter, the machine can be rendered and its
record stands alone.
-/

namespace Statechart

/-- Resolving, rendering and checking all accept a machine of so many levels. -/
structure Machine.Usable (maxDepth : Nat) (machine : Machine) : Prop where
  wellFormed : machine.isWellFormed = true
  depth_le : ∀ index < machine.states.length, machine.depth index ≤ maxDepth
  enters_simple : ∀ index < machine.states.length, ∃ simple state,
    machine.nestedInitial index = .ok simple ∧ machine.state? simple = some state ∧
      state.isComposite = false
  renders : ∀ configuration : Configuration, maxDepth ≤ configuration.maxDepth.toNat →
    ∃ root, (Renderer.ofConfiguration machine configuration).stateMachine = .ok root ∧
      root.checkResponse = .ok ()

/-- The number of ids that the machine of a declaration needs. -/
def MachineDeclaration.elementCount (declaration : MachineDeclaration) : Nat :=
  declaration.allStates.length + declaration.allTransitions.length + 1

namespace Machine

variable {machine : Machine} {ids : IdSource} {maxDepth : Nat} {declaration : MachineDeclaration}

theorem Realizes.reachable (realizes : machine.Realizes ids maxDepth declaration) :
    machine.Reachable := by
  rcases realizes.made with ⟨left, reaches⟩
  exact (Reachable.start _ _ ids).reaches reaches

theorem Realizes.length_ids (realizes : machine.Realizes ids maxDepth declaration) :
    machine.ids.length = declaration.elementCount := by
  have states : machine.states.length = declaration.allStates.length := by
    have lengths := congrArg List.length realizes.follows.states
    rw [length_unlinkedStates, List.length_map] at lengths
    rw [lengths, ← MachineDeclaration.outline_declarations, List.length_map]
  rw [Machine.length_ids, states, ← realizes.connected.length_eq]
  rfl

/-- States stand as deep as they are declared. -/
theorem Follows.depth_eq_level {first : UInt64} (follows : machine.Follows first declaration)
    {placement : Placement} (member : placement ∈ declaration.outline) :
    machine.depth placement.position = placement.level := by
  induction atPosition : placement.position using Nat.strongRecOn generalizing placement with
  | ind position induction =>
      rcases follows.exists_state member with ⟨held, found, same⟩
      have sameParent : held.parent = placement.parent := congrArg State.parent same
      have parent : machine.parent? position = placement.parent := by
        rw [parent?, ← atPosition, found]
        exact sameParent
      rcases StateDeclaration.outlineAll_parent member with
        ⟨atTop, level⟩ | ⟨container, inOutline, nested, level⟩
      · rw [depth_topLevel (parent.trans atTop), level]
      · have earlier := follows.contained.parent?_lt (parent.trans nested)
        rw [follows.contained.depth_nested (parent.trans nested), level,
          induction container.position earlier inOutline rfl]

theorem Realizes.entered_everywhere (realizes : machine.Realizes ids maxDepth declaration)
    (sound : declaration.Buildable maxDepth) : machine.Entered := by
  constructor
  intro index state found composite
  rcases realizes.follows.exists_placement found with ⟨placement, member, rfl, same⟩
  have declared : placement.declaration ∈ declaration.allStates := by
    rw [← MachineDeclaration.outline_declarations]
    exact List.mem_map_of_mem member
  have isComposite : placement.declaration.isComposite = true := by
    rw [← placement.state_isComposite (ids.next + 1), ← same, State.unlinked_isComposite, composite]
  have named := (sound.composite _ declared isComposite).2
  rcases Option.isSome_iff_exists.mp named with ⟨name, initial⟩
  have entrance := Placement.entrance?_eq_some.mpr ⟨rfl, isComposite, initial⟩
  rcases realizes.entered placement member name entrance with ⟨target, set, -⟩
  rw [initialOf, found] at set
  exact ⟨_, set⟩

theorem Realizes.depth_le (realizes : machine.Realizes ids maxDepth declaration)
    (sound : declaration.Buildable maxDepth) :
    ∀ index < machine.states.length, machine.depth index ≤ maxDepth := by
  intro index inRange
  rcases exists_state? inRange with ⟨state, found⟩
  rcases realizes.follows.exists_placement found with ⟨placement, member, rfl, -⟩
  rw [realizes.follows.depth_eq_level member]
  have listed : (placement.level, placement.declaration) ∈ declaration.nested := by
    rw [← MachineDeclaration.outline_nested]
    exact List.mem_map_of_mem member
  exact sound.level_le _ listed

theorem Realizes.usable (realizes : machine.Realizes ids maxDepth declaration)
    (sound : declaration.Buildable maxDepth) (room : declaration.elementCount ≤ 2 ^ 64) :
    machine.Usable maxDepth := by
  have contained := realizes.follows.contained
  have adjacent := realizes.reachable.adjacent
  have entered := realizes.entered_everywhere sound
  have depths := realizes.depth_le sound
  constructor
  case wellFormed => exact entered.isWellFormed
  case depth_le => exact depths
  case enters_simple =>
    intro index inRange
    have enough : maxDepth < machine.maxDepth + 1 + machine.depth index := by
      rw [realizes.maxDepth]
      omega
    exact contained.descend_eq_ok entered depths machine.maxDepth (machine.maxDepth + 1) inRange enough
  case renders =>
    intro configuration enough
    rcases realizes.made with ⟨left, reaches⟩
    have distinct : machine.ids.Nodup := reaches.nodup_ids (by rwa [realizes.length_ids])
    have known : ∀ id ∈ machine.stateIds, id ∈ machine.ids := by
      intro id member
      exact List.mem_cons_of_mem _ (List.mem_append_left _ member)
    let renderer := Renderer.ofConfiguration machine configuration
    rcases renderer.stateMachine_renders contained adjacent entered depths enough with
      ⟨root, rendered, holds⟩
    exact ⟨root, rendered, holds.checkResponse_eq_ok distinct known⟩

end Machine

theorem MachineDeclaration.usable_of_build {declaration : MachineDeclaration} {maxDepth : Nat}
    {ids : IdSource} {machine : Machine} (built : (declaration.build maxDepth ids).1 = .ok machine)
    (room : declaration.elementCount ≤ 2 ^ 64) : machine.Usable maxDepth := by
  rcases build_eq_ok built with ⟨sound, realizes⟩
  exact realizes.usable (firstDefect_eq_none.mp sound) room

end Statechart
