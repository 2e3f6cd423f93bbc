import Statechart.Proofs.Declaration.Usability

/-!
Images. The machine that is built from a declaration shows it again: its states are
the declared ones in pre-order, its transitions the declared ones in post-order,
every link leads where its name says, and the ids count on from the number that the
build began with.
-/

namespace Statechart

/-! ## What an image is -/

/-- A state as it is declared, without its links. -/
structure StateDeclaration.Describes (given : StateDeclaration) (state : State) : Prop where
  name : state.name = given.name
  isFinal : state.isFinal = given.isFinal
  location : state.location = given.location
  isComposite : state.isComposite = given.isComposite

namespace Machine

/-- Among some states the one at `index` bears the name, and no other one does. -/
def OnlyBearer (machine : Machine) (among : List StateIndex) (name : String)
    (index : StateIndex) : Prop :=
  ∀ candidate, (candidate ∈ among ∧
    ∃ state, machine.state? candidate = some state ∧ state.name = some name) ↔ candidate = index

/-- An initial state as it is declared: none without a name, and else the one direct
child of that name. -/
def EntersNamed (machine : Machine) (container : Option StateIndex) (name : Option String)
    (initial : Option InitialState) : Prop :=
  match name with
  | none => initial = none
  | some name => ∃ target, initial = some ⟨target, container⟩ ∧
      machine.OnlyBearer (machine.childrenOf container) name target

/-- A transition as it is declared, between the only states that bear its names. -/
structure Connects (machine : Machine) (given : TransitionDeclaration) (transition : Transition) :
    Prop where
  source : machine.OnlyBearer (List.range machine.states.length) given.source transition.source
  target : machine.OnlyBearer (List.range machine.states.length) given.target transition.target
  input : transition.input = given.input
  output : transition.output = given.output
  location : transition.location = given.location

/-- A machine shows a declaration, with ids that begin at `number`. -/
structure Depicts (machine : Machine) (declaration : MachineDeclaration) (maxDepth number : Nat) :
    Prop where
  id : machine.id = "stateMachine-" ++ toString number
  name : machine.name = declaration.name
  location : machine.location = declaration.location
  maxDepth : machine.maxDepth = maxDepth
  states : List.Forall₂ StateDeclaration.Describes declaration.allStates machine.states
  stateIds : machine.states.map (·.id) = (List.range declaration.allStates.length).map
    fun position => "state-" ++ toString (number + 1 + position)
  parent : ∀ placement ∈ declaration.outline, ∃ state,
    machine.state? placement.position = some state ∧ state.parent = placement.parent
  children : ∀ container, machine.childrenOf container =
    (declaration.outline.filter (·.parent = container)).map (·.position)
  nested : ∀ placement ∈ declaration.outline,
    (machine.childrenOf (some placement.position)).map (declaration.allStates[·]?) =
      placement.declaration.states.map some
  topLevel : machine.topLevel.map (declaration.allStates[·]?) = declaration.states.map some
  transitions : List.Forall₂ machine.Connects declaration.allTransitions machine.transitions
  transitionIds : machine.transitions.map (·.id) =
    (List.range declaration.allTransitions.length).map fun position =>
      "transition-" ++ toString (number + 1 + declaration.allStates.length + position)
  entered : ∀ placement ∈ declaration.outline, machine.EntersNamed (some placement.position)
    placement.declaration.initial (machine.initialOf placement.position)
  initial : machine.EntersNamed none declaration.initial machine.initial

/-! ## Names -/

variable {machine : Machine} {ids : IdSource} {maxDepth : Nat} {declaration : MachineDeclaration}

section Follows

variable {first : UInt64} (follows : machine.Follows first declaration)
include follows

theorem Follows.length_states : machine.states.length = declaration.allStates.length := by
  have lengths := congrArg List.length follows.states
  rw [length_unlinkedStates, List.length_map] at lengths
  rw [lengths, ← MachineDeclaration.outline_declarations, List.length_map]

theorem Follows.childrenOf_range : ∀ index, index ∈ List.range machine.states.length ↔
    ∃ placement ∈ declaration.outline, placement.position = index := by
  intro index
  rw [List.mem_range]
  constructor
  · intro inRange
    rcases exists_state? inRange with ⟨held, found⟩
    rcases follows.exists_placement found with ⟨placement, member, position, -⟩
    exact ⟨placement, member, position⟩
  · intro placed
    rcases placed with ⟨placement, member, rfl⟩
    rcases follows.exists_state member with ⟨held, found, -⟩
    exact lt_of_state? found

/-- What bears a name among placements does so among the states that stand there. -/
theorem Follows.onlyBearer {among : List StateIndex} {placements : List Placement}
    (included : ∀ placement ∈ placements, placement ∈ declaration.outline)
    (same : ∀ index, index ∈ among ↔ ∃ placement ∈ placements, placement.position = index)
    {name : String} {index : StateIndex} (only : Placement.OnlyBearer placements name index) :
    machine.OnlyBearer among name index := by
  intro candidate
  rw [← only candidate, same]
  constructor
  · intro bears
    rcases bears with ⟨⟨placement, member, rfl⟩, held, found, named⟩
    rcases follows.exists_state (included placement member) with ⟨_, foundAgain, asPlaced⟩
    cases found.symm.trans foundAgain
    have sameName : held.name = placement.declaration.name := congrArg State.name asPlaced
    exact ⟨placement, member, rfl, sameName.symm.trans named⟩
  · intro bears
    rcases bears with ⟨placement, member, rfl, named⟩
    rcases follows.exists_state (included placement member) with ⟨held, found, asPlaced⟩
    have sameName : held.name = placement.declaration.name := congrArg State.name asPlaced
    exact ⟨⟨placement, member, rfl⟩, held, found, sameName.trans named⟩

theorem Follows.onlyBearer_anywhere {name : String} {index : StateIndex}
    (only : Placement.OnlyBearer declaration.outline name index) :
    machine.OnlyBearer (List.range machine.states.length) name index :=
  follows.onlyBearer (fun _ member => member) follows.childrenOf_range only

theorem Follows.onlyBearer_inside {container : Option StateIndex} {name : String}
    {index : StateIndex}
    (only : Placement.OnlyBearer (declaration.outline.filter (·.parent = container)) name index) :
    machine.OnlyBearer (machine.childrenOf container) name index := by
  apply follows.onlyBearer (fun _ member => (List.mem_filter.mp member).1) _ only
  intro index
  rw [follows.childrenOf, List.mem_map]

/-! ## States -/

/-- Read at the positions of a container, the declarations are the nested ones. -/
theorem Follows.map_childrenOf (container : Option StateIndex) :
    (machine.childrenOf container).map (declaration.allStates[·]?) =
      ((declaration.outline.filter (·.parent = container)).map (·.declaration)).map some := by
  rw [follows.childrenOf, List.map_map, List.map_map]
  apply List.map_congr_left
  intro placement member
  have inOutline := (List.mem_filter.mp member).1
  simp only [Function.comp_apply, ← MachineDeclaration.outline_declarations, List.getElem?_map,
    MachineDeclaration.outline_getElem?_of_mem inOutline, Option.map_some]

theorem Follows.describes :
    List.Forall₂ StateDeclaration.Describes declaration.allStates machine.states := by
  have asPlaced : List.Forall₂ Eq machine.unlinkedStates
      (declaration.outline.map (·.state first)) := by
    rw [List.forall₂_eq_eq_eq]
    exact follows.states
  rw [unlinkedStates, List.forall₂_map_left_iff, List.forall₂_map_right_iff] at asPlaced
  rw [← MachineDeclaration.outline_declarations, List.forall₂_map_left_iff]
  refine asPlaced.flip.imp ?_
  intro placement state same
  exact
    { name := congrArg State.name same
      isFinal := congrArg State.isFinal same
      location := congrArg State.location same
      isComposite := by
        rw [← State.unlinked_isComposite, same, Placement.state_isComposite] }

end Follows

/-! ## Heading and numbers -/

/-- What a machine says of itself. -/
def heading (machine : Machine) : String × String × Option Location :=
  (machine.id, machine.name, machine.location)

theorem heading_of_advance {before after : Construction}
    (advance : Construction.Advance before after) :
    after.machine.heading = before.machine.heading := by
  cases advance with
  | addState state _ _ _ _ _ =>
      unfold heading withState attach
      split <;> rfl
  | connect _ _ _ _ => rfl
  | setInitial _ _ => rfl
  | setCompositeInitial _ _ _ _ => rfl
  | setMaxDepth _ => rfl

theorem heading_of_reaches {before after : Construction} (reaches : before.Reaches after) :
    after.machine.heading = before.machine.heading := by
  have kept : ∀ {earlier later : Construction}, Construction.Advance earlier later →
      earlier.machine.heading = before.machine.heading →
        later.machine.heading = before.machine.heading := by
    intro earlier later advance same
    exact (heading_of_advance advance).trans same
  exact reaches.preserves kept rfl

theorem Realizes.heading (realizes : machine.Realizes ids maxDepth declaration) :
    machine.heading =
      (IdSource.idAt "stateMachine" ids.next, declaration.name, declaration.location) := by
  rcases realizes.made with ⟨left, reaches⟩
  exact heading_of_reaches reaches

theorem Realizes.stateIds (realizes : machine.Realizes ids maxDepth declaration)
    (room : ids.next.toNat + declaration.elementCount ≤ 2 ^ 64) :
    machine.states.map (·.id) = (List.range declaration.allStates.length).map
      fun position => "state-" ++ toString (ids.next.toNat + 1 + position) := by
  have positions : declaration.outline.map (·.position) =
      List.range declaration.allStates.length := by
    rw [MachineDeclaration.outline, StateDeclaration.outlineAll_positions,
      ← MachineDeclaration.outline_declarations, List.length_map, List.range_eq_range']
    rfl
  rw [← map_id_unlinkedStates, realizes.follows.states, ← positions, List.map_map, List.map_map]
  apply List.map_congr_left
  intro placement member
  have inRange : placement.position < declaration.allStates.length := by
    rw [← List.mem_range, ← positions]
    exact List.mem_map_of_mem member
  have roomHere : ids.next.toNat + (1 + placement.position) < 2 ^ 64 := by
    rw [MachineDeclaration.elementCount] at room
    omega
  have numbered := IdSource.idAt_add "state" roomHere
  rw [UInt64.ofNat_add, ← UInt64.add_assoc, ← Nat.add_assoc] at numbered
  exact numbered

theorem Realizes.transitionIds (realizes : machine.Realizes ids maxDepth declaration)
    (room : ids.next.toNat + declaration.elementCount ≤ 2 ^ 64) :
    machine.transitions.map (·.id) = (List.range declaration.allTransitions.length).map
      fun position =>
        "transition-" ++
          toString (ids.next.toNat + 1 + declaration.allStates.length + position) := by
  rw [realizes.numbered, Draft.transitionIds, realizes.follows.length_states,
    ← realizes.connected.length_eq]
  apply List.map_congr_left
  intro position inRange
  have bound := List.mem_range.mp inRange
  have roomHere :
      ids.next.toNat + (1 + declaration.allStates.length + position) < 2 ^ 64 := by
    rw [MachineDeclaration.elementCount] at room
    omega
  have numbered := IdSource.idAt_add "transition" roomHere
  rw [UInt64.ofNat_add, UInt64.ofNat_add, ← UInt64.add_assoc, ← UInt64.add_assoc,
    ← Nat.add_assoc, ← Nat.add_assoc] at numbered
  exact numbered

/-! ## Links -/

theorem Realizes.connects (realizes : machine.Realizes ids maxDepth declaration) :
    List.Forall₂ machine.Connects declaration.allTransitions machine.transitions := by
  refine realizes.connected.imp ?_
  intro given transition declares
  exact
    { source := realizes.follows.onlyBearer_anywhere declares.source
      target := realizes.follows.onlyBearer_anywhere declares.target
      input := declares.input
      output := declares.output
      location := declares.location }

theorem Realizes.entersNamed (realizes : machine.Realizes ids maxDepth declaration)
    (sound : declaration.Buildable maxDepth) {placement : Placement}
    (member : placement ∈ declaration.outline) :
    machine.EntersNamed (some placement.position) placement.declaration.initial
      (machine.initialOf placement.position) := by
  rcases realizes.follows.exists_state member with ⟨held, found, same⟩
  have sameKind : held.isComposite = placement.declaration.isComposite := by
    rw [← State.unlinked_isComposite, same, Placement.state_isComposite]
  have declared : placement.declaration ∈ declaration.allStates := by
    rw [← MachineDeclaration.outline_declarations]
    exact List.mem_map_of_mem member
  cases composite : placement.declaration.isComposite with
  | false =>
      rw [sound.simple _ declared composite]
      have simple : held.initial = none := by
        rw [composite] at sameKind
        exact State.initial_of_simple sameKind
      simp [EntersNamed, initialOf, found, simple]
  | true =>
      have named := (sound.composite _ declared composite).2
      rcases Option.isSome_iff_exists.mp named with ⟨name, initial⟩
      have entrance := Placement.entrance?_eq_some.mpr ⟨rfl, composite, initial⟩
      rcases realizes.entered placement member name entrance with ⟨target, entered, only⟩
      rw [initial]
      exact ⟨target, entered, realizes.follows.onlyBearer_inside only⟩

theorem Realizes.entersNamed_machine (realizes : machine.Realizes ids maxDepth declaration) :
    machine.EntersNamed none declaration.initial machine.initial := by
  have enters := realizes.entersMachine
  unfold MachineDeclaration.EntersMachine at enters
  cases declared : declaration.initial with
  | none =>
      rw [declared] at enters
      exact enters
  | some name =>
      rw [declared] at enters
      rcases enters with ⟨target, entered, only⟩
      exact ⟨target, entered, realizes.follows.onlyBearer_inside only⟩

end Machine

/-- A machine that is built shows its declaration: nothing is lost, added, reordered
or linked elsewhere. -/
theorem MachineDeclaration.build_depicts {declaration : MachineDeclaration} {maxDepth : Nat}
    {ids : IdSource} {machine : Machine}
    (room : ids.next.toNat + declaration.elementCount ≤ 2 ^ 64)
    (built : (declaration.build maxDepth ids).1 = .ok machine) :
    machine.Depicts declaration maxDepth ids.next.toNat := by
  rcases build_eq_ok built with ⟨sound, realizes⟩
  have buildable := firstDefect_eq_none.mp sound
  have follows := realizes.follows
  have heading := realizes.heading
  simp only [Machine.heading, Prod.mk.injEq] at heading
  rcases heading with ⟨id, name, location⟩
  constructor
  case id => exact id
  case name => exact name
  case location => exact location
  case maxDepth => exact realizes.maxDepth
  case states => exact follows.describes
  case stateIds => exact realizes.stateIds room
  case parent =>
    intro placement member
    rcases follows.exists_state member with ⟨held, found, same⟩
    exact ⟨held, found, congrArg State.parent same⟩
  case children => exact follows.childrenOf
  case nested =>
    intro placement member
    rw [follows.map_childrenOf, outline_filter_inside member]
  case topLevel =>
    have listed := follows.map_childrenOf none
    rwa [outline_filter_topLevel] at listed
  case transitions => exact realizes.connects
  case transitionIds => exact realizes.transitionIds room
  case entered => exact fun placement member => realizes.entersNamed buildable member
  case initial => exact realizes.entersNamed_machine

/-- A name that two composites use for a state of theirs, a state without a name, and
transitions declared on three levels; the last id has the last number there is. -/
theorem MachineDeclaration.build_depicts_switch :
    let declaration : MachineDeclaration :=
      { name := "switch", initial := some "left"
        states := [
          { name := some "left", initial := some "on"
            states := [
              { name := some "on" },
              { transitions := [{ source := "left", target := "right", input := some "push" }] }] },
          { name := some "right", initial := some "on", states := [{ name := some "on" }]
            transitions := [{ source := "right", target := "left" }] }]
        transitions := [{ source := "left", target := "left", output := some "click" }] }
    let ids : IdSource := ⟨UInt64.ofNat (2 ^ 64 - 9)⟩
    declaration.elementCount = 9 ∧ ∃ machine, (declaration.build 1 ids).1 = .ok machine ∧
      machine.Depicts declaration 1 (2 ^ 64 - 9) := by
  intro declaration ids
  have builds := declaration.build_decides 1 ids
  have sound : declaration.firstDefect 1 = none := rfl
  rw [sound] at builds
  rcases builds with ⟨machine, built, -⟩
  have room : ids.next.toNat + declaration.elementCount ≤ 2 ^ 64 := by decide
  exact ⟨rfl, machine, built, build_depicts room built⟩

end Statechart
