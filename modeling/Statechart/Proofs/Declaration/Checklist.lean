import Statechart.Declaration.Build

/-!
What a declaration has to satisfy, told without building anything.
`MachineDeclaration.Buildable` lists the conditions; `MachineDeclaration.checks`
puts the checks behind them in the order in which they count, so that the first
defect is the one reported.
-/

namespace Statechart

/-! ## Walks over a declaration -/

namespace StateDeclaration

mutual
/-- A declaration and all declarations inside it, each before those inside it, with
their levels of nesting. -/
def nested (level : Nat) : StateDeclaration → List (Nat × StateDeclaration)
  | ⟨name, isFinal, initial, states, transitions, location⟩ =>
      (level, ⟨name, isFinal, initial, states, transitions, location⟩) ::
        nestedAll (level + 1) states

def nestedAll (level : Nat) : List StateDeclaration → List (Nat × StateDeclaration)
  | [] => []
  | state :: states => state.nested level ++ nestedAll level states
end

mutual
/-- The transitions declared in a state, those of the states inside it first. -/
def allTransitions : StateDeclaration → List TransitionDeclaration
  | ⟨_, _, _, states, transitions, _⟩ => allTransitionsOf states ++ transitions

def allTransitionsOf : List StateDeclaration → List TransitionDeclaration
  | [] => []
  | state :: states => state.allTransitions ++ allTransitionsOf states
end

@[simp] theorem nestedAll_cons (level : Nat) (state : StateDeclaration)
    (states : List StateDeclaration) :
    nestedAll level (state :: states) =
      (level, state) :: (nestedAll (level + 1) state.states ++ nestedAll level states) := by
  cases state
  rfl

@[simp] theorem allTransitionsOf_cons (state : StateDeclaration)
    (states : List StateDeclaration) :
    allTransitionsOf (state :: states) =
      allTransitionsOf state.states ++ state.transitions ++ allTransitionsOf states := by
  cases state
  rfl

/-! A walk meets a declaration, then the declarations inside it, then those after
it; proofs about walks go the same way. -/

theorem states_induction {motive : List StateDeclaration → Prop} (nil : motive [])
    (cons : ∀ state states, motive state.states → motive states → motive (state :: states)) :
    ∀ states, motive states
  | [] => nil
  | ⟨_, _, _, inside, _, _⟩ :: states =>
      cons _ states (states_induction nil cons inside) (states_induction nil cons states)

/-- The number of declarations in a list that bear a name. -/
def countNamed (name : String) (states : List StateDeclaration) : Nat :=
  states.countP (·.name = some name)

end StateDeclaration

namespace MachineDeclaration

def nested (declaration : MachineDeclaration) : List (Nat × StateDeclaration) :=
  StateDeclaration.nestedAll 0 declaration.states

def allStates (declaration : MachineDeclaration) : List StateDeclaration :=
  declaration.nested.map (·.2)

/-- All transitions of a machine, its own ones last. -/
def allTransitions (declaration : MachineDeclaration) : List TransitionDeclaration :=
  StateDeclaration.allTransitionsOf declaration.states ++ declaration.transitions

end MachineDeclaration

/-! ## Conditions -/

/-- A declaration describes a machine of at most `maxDepth` levels. -/
structure MachineDeclaration.Buildable (maxDepth : Nat) (declaration : MachineDeclaration) :
    Prop where
  level_le : ∀ entry ∈ declaration.nested, entry.1 ≤ maxDepth
  composite : ∀ state ∈ declaration.allStates, state.isComposite = true →
    state.isFinal = false ∧ state.initial.isSome = true
  simple : ∀ state ∈ declaration.allStates, state.isComposite = false → state.initial = none
  endpoints : ∀ transition ∈ declaration.allTransitions,
    StateDeclaration.countNamed transition.source declaration.allStates = 1 ∧
      StateDeclaration.countNamed transition.target declaration.allStates = 1
  initial : ∀ state ∈ declaration.allStates, state.isComposite = true → ∀ name,
    state.initial = some name → StateDeclaration.countNamed name state.states = 1
  machine_initial : ∀ name, declaration.initial = some name →
    StateDeclaration.countNamed name declaration.states = 1

/-! ## Checks in their order -/

/-- What is wrong with a name that so many states bear. -/
def bearerDefect (name : String) : Nat → Option BuildError
  | 0 => some (.unknownState name)
  | 1 => none
  | _ => some (.ambiguousState name)

namespace StateDeclaration

def defect (maxDepth level : Nat) (state : StateDeclaration) : Option BuildError :=
  if maxDepth < level then some (.tree (.recursionLimit maxDepth))
  else if state.isComposite then
    if state.isFinal then some (.finalComposite state.name)
    else if state.initial = none then some (.missingInitial state.name)
    else none
  else if state.initial ≠ none then some (.unexpectedInitial state.name)
  else none

/-- What is wrong with the initial name of a composite among its own states. -/
def initialDefect (state : StateDeclaration) : Option BuildError :=
  if state.isComposite then
    state.initial.bind fun name => bearerDefect name (countNamed name state.states)
  else none

end StateDeclaration

namespace MachineDeclaration

/-- What is wrong with the source of a transition and with its target, whose names
may stand anywhere in the machine. -/
def endpointDefects (declaration : MachineDeclaration) (transition : TransitionDeclaration) :
    List (Option BuildError) :=
  [ bearerDefect transition.source
      (StateDeclaration.countNamed transition.source declaration.allStates),
    bearerDefect transition.target
      (StateDeclaration.countNamed transition.target declaration.allStates) ]

def initialDefect (declaration : MachineDeclaration) : Option BuildError :=
  declaration.initial.bind fun name =>
    bearerDefect name (StateDeclaration.countNamed name declaration.states)

/-- All checks in their order: states, transitions, initial states of composites,
initial state of the machine. -/
def checks (maxDepth : Nat) (declaration : MachineDeclaration) : List (Option BuildError) :=
  declaration.nested.map (fun entry => entry.2.defect maxDepth entry.1) ++
    declaration.allTransitions.flatMap declaration.endpointDefects ++
    declaration.allStates.map StateDeclaration.initialDefect ++
    [declaration.initialDefect]

def firstDefect (maxDepth : Nat) (declaration : MachineDeclaration) : Option BuildError :=
  (declaration.checks maxDepth).findSome? id

end MachineDeclaration

/-! No check reports a step of the construction. -/

section Construction

variable (failure : ConstructionError)

theorem bearerDefect_ne_construction (name : String) (count : Nat) :
    bearerDefect name count ≠ some (.construction failure) := by
  unfold bearerDefect
  split <;> simp

theorem StateDeclaration.defect_ne_construction (maxDepth level : Nat)
    (state : StateDeclaration) : state.defect maxDepth level ≠ some (.construction failure) := by
  rw [defect]
  cases state.isComposite <;> cases state.isFinal <;> cases state.initial <;>
    by_cases deep : maxDepth < level <;> simp [deep]

theorem StateDeclaration.initialDefect_ne_construction (state : StateDeclaration) :
    state.initialDefect ≠ some (.construction failure) := by
  rw [initialDefect]
  cases state.isComposite <;> cases state.initial <;> simp [bearerDefect_ne_construction]

theorem MachineDeclaration.firstDefect_ne_construction (declaration : MachineDeclaration)
    (maxDepth : Nat) : declaration.firstDefect maxDepth ≠ some (.construction failure) := by
  intro found
  rcases List.exists_of_findSome?_eq_some found with ⟨check, listed, rfl⟩
  simp only [checks, List.mem_append, List.mem_map, List.mem_flatMap, List.mem_singleton]
    at listed
  rcases listed with ((⟨entry, _, same⟩ | ⟨transition, _, listed⟩) | ⟨state, _, same⟩) | same
  · exact StateDeclaration.defect_ne_construction failure _ _ _ same
  · simp only [endpointDefects, List.mem_cons, List.not_mem_nil, or_false] at listed
    rcases listed with same | same <;> exact bearerDefect_ne_construction failure _ _ same.symm
  · exact StateDeclaration.initialDefect_ne_construction failure state same
  · cases declared : declaration.initial with
    | none => simp [initialDefect, declared] at same
    | some name =>
        simp only [initialDefect, declared, Option.bind_some] at same
        exact bearerDefect_ne_construction failure _ _ same.symm

end Construction

/-! ## Conditions and checks agree -/

theorem bearerDefect_eq_none {name : String} {count : Nat} :
    bearerDefect name count = none ↔ count = 1 := by
  unfold bearerDefect
  split <;> simp_all

namespace StateDeclaration

theorem defect_eq_none {maxDepth level : Nat} {state : StateDeclaration} :
    state.defect maxDepth level = none ↔
      level ≤ maxDepth ∧
        (state.isComposite = true → state.isFinal = false ∧ state.initial.isSome = true) ∧
        (state.isComposite = false → state.initial = none) := by
  rw [defect]
  cases state.isComposite <;> cases state.isFinal <;> cases state.initial <;>
    by_cases deep : maxDepth < level <;> simp [deep] <;> omega

theorem initialDefect_eq_none {state : StateDeclaration} :
    state.initialDefect = none ↔
      (state.isComposite = true → ∀ name, state.initial = some name →
        countNamed name state.states = 1) := by
  rw [initialDefect]
  cases state.isComposite <;> cases state.initial <;> simp [bearerDefect_eq_none]

end StateDeclaration

namespace MachineDeclaration

/-- A declaration without defects is one that satisfies all conditions. -/
theorem firstDefect_eq_none {maxDepth : Nat} {declaration : MachineDeclaration} :
    declaration.firstDefect maxDepth = none ↔ declaration.Buildable maxDepth := by
  simp only [firstDefect, checks, List.findSome?_eq_none_iff, List.mem_append, List.mem_map,
    List.mem_flatMap, List.mem_singleton, id]
  constructor
  · intro clean
    have states : ∀ entry ∈ declaration.nested, entry.2.defect maxDepth entry.1 = none :=
      fun entry member => clean _ (.inl (.inl (.inl ⟨entry, member, rfl⟩)))
    have endpoints : ∀ transition ∈ declaration.allTransitions,
        ∀ check ∈ declaration.endpointDefects transition, check = none :=
      fun transition member check checked =>
        clean check (.inl (.inl (.inr ⟨transition, member, checked⟩)))
    have statesAlone : ∀ state ∈ declaration.allStates, ∃ level,
        state.defect maxDepth level = none := by
      intro state member
      rcases List.mem_map.mp member with ⟨entry, entryMember, rfl⟩
      exact ⟨entry.1, states entry entryMember⟩
    constructor
    case level_le =>
      intro entry member
      exact (StateDeclaration.defect_eq_none.mp (states entry member)).1
    case composite =>
      intro state member
      rcases statesAlone state member with ⟨level, sound⟩
      exact (StateDeclaration.defect_eq_none.mp sound).2.1
    case simple =>
      intro state member
      rcases statesAlone state member with ⟨level, sound⟩
      exact (StateDeclaration.defect_eq_none.mp sound).2.2
    case endpoints =>
      intro transition member
      have sound := endpoints transition member
      simp only [endpointDefects, List.mem_cons, List.not_mem_nil, or_false, forall_eq_or_imp,
        forall_eq, bearerDefect_eq_none] at sound
      exact sound
    case initial =>
      intro state member
      exact StateDeclaration.initialDefect_eq_none.mp (clean _ (.inl (.inr ⟨state, member, rfl⟩)))
    case machine_initial =>
      intro name declared
      have sound := clean _ (.inr rfl)
      simpa [initialDefect, declared, bearerDefect_eq_none] using sound
  · intro buildable check listed
    rcases listed with (((⟨entry, member, rfl⟩ | ⟨transition, member, checked⟩) |
      ⟨state, member, rfl⟩) | rfl)
    · have stateMember : entry.2 ∈ declaration.allStates := List.mem_map_of_mem member
      exact StateDeclaration.defect_eq_none.mpr ⟨buildable.level_le entry member,
        buildable.composite _ stateMember, buildable.simple _ stateMember⟩
    · rcases buildable.endpoints transition member with ⟨source, target⟩
      simp only [endpointDefects, source, target, List.mem_cons, List.not_mem_nil, or_false]
        at checked
      rcases checked with rfl | rfl <;> rfl
    · exact StateDeclaration.initialDefect_eq_none.mpr (buildable.initial state member)
    · cases declared : declaration.initial with
      | none => simp [initialDefect, declared]
      | some name =>
          simp [initialDefect, declared, bearerDefect_eq_none,
            buildable.machine_initial name declared]

end MachineDeclaration

end Statechart
