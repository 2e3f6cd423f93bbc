import Statechart.Machine.Nesting
import Statechart.Proofs.Machine.Advance

/-!
Containment. A machine says three times which state lies inside which: by the
parent of a state, by the lists of children with the list of the top level, and
by the initial states. `Machine.Contained` is the invariant that keeps the three
in step; every reachable machine satisfies it.
-/

namespace Statechart

namespace Machine

/-- The states directly inside a composite, or at the top level. -/
def childrenOf (machine : Machine) : Option StateIndex → List StateIndex
  | none => machine.topLevel
  | some index => ((machine.state? index).map (·.children)).getD []

/-- The links between states and what contains them agree. A parent stands
before its children, which is why every walk up or down ends. -/
structure Contained (machine : Machine) : Prop where
  mem_childrenOf : ∀ {index container}, index ∈ machine.childrenOf container ↔
    ∃ state, machine.state? index = some state ∧ state.parent = container
  increasing : ∀ container, (machine.childrenOf container).Pairwise (· < ·)
  parent_lt : ∀ {index state parent}, machine.state? index = some state →
    state.parent = some parent → parent < index
  parent_composite : ∀ {index state parent}, machine.state? index = some state →
    state.parent = some parent →
      ∃ held, machine.state? parent = some held ∧ held.isComposite = true
  composite_not_final : ∀ {index state}, machine.state? index = some state →
    state.isComposite = true → state.isFinal = false
  entered_child : ∀ {index state initial}, machine.state? index = some state →
    state.initial = some initial →
      initial.target ∈ machine.childrenOf (some index) ∧ initial.parent = some index
  entered_topLevel : ∀ {initial}, machine.initial = some initial →
    initial.target ∈ machine.childrenOf none ∧ initial.parent = none

@[simp] theorem childrenOf_of_state? {machine : Machine} {index : StateIndex} {state : State}
    (found : machine.state? index = some state) :
    machine.childrenOf (some index) = state.children := by
  simp [childrenOf, found]

theorem Contained.lt_length {machine : Machine} (contained : machine.Contained)
    {index : StateIndex} {container : Option StateIndex}
    (member : index ∈ machine.childrenOf container) : index < machine.states.length := by
  rcases contained.mem_childrenOf.mp member with ⟨state, found, -⟩
  exact lt_of_state? found

/-! ## What stays of a state

Most steps leave every state where it is and change only its links. -/

/-- The place of a state: what contains it, whether it is composite and whether
it is final. -/
def placeOf (machine : Machine) (index : StateIndex) : Option (Option StateIndex × Bool × Bool) :=
  (machine.state? index).map fun state => (state.parent, state.isComposite, state.isFinal)

theorem exists_samePlace {machine other : Machine} {index : StateIndex} {state : State}
    (same : other.placeOf index = machine.placeOf index)
    (found : machine.state? index = some state) :
    ∃ counterpart, other.state? index = some counterpart ∧ counterpart.parent = state.parent ∧
      counterpart.isComposite = state.isComposite ∧ counterpart.isFinal = state.isFinal := by
  simp only [placeOf, found, Option.map_some, Option.map_eq_some_iff, Prod.mk.injEq] at same
  exact same

/-- Links may change as long as places and lists of children stay. -/
theorem Contained.of_samePlace {machine after : Machine} (contained : machine.Contained)
    (places : ∀ index, after.placeOf index = machine.placeOf index)
    (lists : ∀ container, after.childrenOf container = machine.childrenOf container)
    (entered_child : ∀ {index state initial}, after.state? index = some state →
      state.initial = some initial →
        initial.target ∈ machine.childrenOf (some index) ∧ initial.parent = some index)
    (entered_topLevel : ∀ {initial}, after.initial = some initial →
      initial.target ∈ machine.childrenOf none ∧ initial.parent = none) :
    after.Contained := by
  constructor
  case mem_childrenOf =>
    intro index container
    rw [lists, contained.mem_childrenOf]
    constructor
    · rintro ⟨state, found, rfl⟩
      rcases exists_samePlace (places index) found with ⟨counterpart, foundAfter, parent, -⟩
      exact ⟨counterpart, foundAfter, parent⟩
    · rintro ⟨state, found, rfl⟩
      rcases exists_samePlace (places index).symm found with ⟨counterpart, foundBefore, parent, -⟩
      exact ⟨counterpart, foundBefore, parent⟩
  case increasing =>
    intro container
    rw [lists]
    exact contained.increasing container
  case parent_lt =>
    intro index state parentIndex found nested
    rcases exists_samePlace (places index).symm found with ⟨held, foundBefore, parent, -⟩
    exact contained.parent_lt foundBefore (parent.trans nested)
  case parent_composite =>
    intro index state parentIndex found nested
    rcases exists_samePlace (places index).symm found with ⟨held, foundBefore, parent, -⟩
    rcases contained.parent_composite foundBefore (parent.trans nested) with
      ⟨container, foundContainer, composite⟩
    rcases exists_samePlace (places parentIndex) foundContainer with
      ⟨counterpart, foundAfter, -, sameKind, -⟩
    exact ⟨counterpart, foundAfter, sameKind.trans composite⟩
  case composite_not_final =>
    intro index state found composite
    rcases exists_samePlace (places index).symm found with
      ⟨held, foundBefore, -, sameKind, sameFinal⟩
    exact sameFinal.symm.trans
      (contained.composite_not_final foundBefore (sameKind.trans composite))
  case entered_child =>
    intro index state initial found entered
    rw [lists]
    exact entered_child found entered
  case entered_topLevel =>
    intro initial entered
    rw [lists]
    exact entered_topLevel entered

/-! ## Starting -/

theorem contained_start (name : String) (location : Option Location) (ids : IdSource) :
    (Construction.start name location ids).machine.Contained where
  mem_childrenOf {index container} := by
    cases container <;> simp [Construction.start, childrenOf, state?]
  increasing container := by
    cases container <;> simp [Construction.start, childrenOf, state?]
  parent_lt found := by simp [Construction.start, state?] at found
  parent_composite found := by simp [Construction.start, state?] at found
  composite_not_final found := by simp [Construction.start, state?] at found
  entered_child found := by simp [Construction.start, state?] at found
  entered_topLevel entered := by simp [Construction.start] at entered

/-! ## New states -/

section AddState

variable {machine : Machine} {state : State}

theorem childrenOf_withState
    (parent : ∀ parent, state.parent = some parent →
      ∃ held, machine.state? parent = some held ∧ held.isComposite = true)
    (childless : state.children = []) (container : Option StateIndex) :
    (machine.withState state).childrenOf container =
      machine.childrenOf container ++
        if state.parent = container then [machine.states.length] else [] := by
  cases container with
  | none =>
      cases nested : state.parent <;> simp [childrenOf, withState, attach, nested]
  | some index =>
      have inRange : ∀ parent, state.parent = some parent → parent < machine.states.length := by
        intro parentIndex nested
        rcases parent parentIndex nested with ⟨held, found, -⟩
        exact lt_of_state? found
      rcases Nat.lt_trichotomy index machine.states.length with earlier | rfl | later
      · rcases exists_state? earlier with ⟨held, found⟩
        by_cases nested : state.parent = some index
        · rcases parent index nested with ⟨_, foundAgain, composite⟩
          cases found.symm.trans foundAgain
          simp [childrenOf, state?_withState_of_lt state earlier, found, nested,
            State.addChild_children composite]
        · simp [childrenOf, state?_withState_of_lt state earlier, found, nested]
      · have notSelf : state.parent ≠ some machine.states.length := by
          intro nested
          exact Nat.lt_irrefl _ (inRange _ nested)
        have absentBefore : machine.state? machine.states.length = none := by simp [state?]
        simp [childrenOf, state?_withState_self inRange, absentBefore, childless, notSelf]
      · have notNested : state.parent ≠ some index := by
          intro nested
          exact Nat.lt_asymm later (inRange _ nested)
        have absent : (machine.withState state).state? index = none := by
          simp only [state?, List.getElem?_eq_none_iff, length_withState]
          omega
        have absentBefore : machine.state? index = none := by
          simp only [state?, List.getElem?_eq_none_iff]
          omega
        simp [childrenOf, absent, absentBefore, notNested]

theorem placeOf_withState_of_lt (state : State) {index : StateIndex}
    (inRange : index < machine.states.length) :
    (machine.withState state).placeOf index = machine.placeOf index := by
  rw [placeOf, state?_withState_of_lt state inRange, Option.map_map, placeOf]
  congr 1
  funext held
  simp only [Function.comp_apply]
  split <;> simp

theorem Contained.withState (contained : machine.Contained)
    (parent : ∀ parent, state.parent = some parent →
      ∃ held, machine.state? parent = some held ∧ held.isComposite = true)
    (kind : state.kind = .simple ∨ state.kind = .composite [] none ∧ state.isFinal = false) :
    (machine.withState state).Contained := by
  have inRange : ∀ parent, state.parent = some parent → parent < machine.states.length := by
    intro parentIndex nested
    rcases parent parentIndex nested with ⟨held, found, -⟩
    exact lt_of_state? found
  have childless : state.children = [] := by
    rcases kind with kind | ⟨kind, -⟩ <;> simp [State.children, kind]
  have grown := childrenOf_withState parent childless
  have newest := state?_withState_self inRange
  -- A state after the step is the new one, or it was there before in the same place.
  have cases : ∀ {index after}, (machine.withState state).state? index = some after →
      index = machine.states.length ∧ after = state ∨
        (machine.withState state).placeOf index = machine.placeOf index := by
    intro index after found
    rcases state?_withState_cases inRange found with new | ⟨held, foundBefore, -⟩
    · exact .inl new
    · exact .inr (placeOf_withState_of_lt state (lt_of_state? foundBefore))
  constructor
  case mem_childrenOf =>
    intro index container
    rw [grown, List.mem_append, contained.mem_childrenOf]
    constructor
    · rintro (⟨held, found, rfl⟩ | new)
      · have same := placeOf_withState_of_lt state (lt_of_state? found)
        rcases exists_samePlace same found with ⟨after, foundAfter, sameParent, -⟩
        exact ⟨after, foundAfter, sameParent⟩
      · split at new
        case isTrue nested =>
          cases List.mem_singleton.mp new
          exact ⟨state, newest, nested⟩
        case isFalse => cases new
    · rintro ⟨after, found, rfl⟩
      rcases cases found with ⟨rfl, rfl⟩ | same
      · exact .inr (by simp)
      · rcases exists_samePlace same.symm found with ⟨held, foundBefore, sameParent, -⟩
        exact .inl ⟨held, foundBefore, sameParent⟩
  case increasing =>
    intro container
    rw [grown]
    refine List.pairwise_append.mpr ⟨contained.increasing container, by split <;> simp, ?_⟩
    intro earlier member later new
    split at new
    · cases List.mem_singleton.mp new
      exact contained.lt_length member
    · cases new
  case parent_lt =>
    intro index after parentIndex found nested
    rcases cases found with ⟨rfl, rfl⟩ | same
    · exact inRange parentIndex nested
    · rcases exists_samePlace same.symm found with ⟨held, foundBefore, sameParent, -⟩
      exact contained.parent_lt foundBefore (sameParent.trans nested)
  case parent_composite =>
    intro index after parentIndex found nested
    have before : ∃ held, machine.state? parentIndex = some held ∧ held.isComposite = true := by
      rcases cases found with ⟨rfl, rfl⟩ | same
      · exact parent parentIndex nested
      · rcases exists_samePlace same.symm found with ⟨held, foundBefore, sameParent, -⟩
        exact contained.parent_composite foundBefore (sameParent.trans nested)
    rcases before with ⟨container, foundBefore, composite⟩
    have same := placeOf_withState_of_lt state (lt_of_state? foundBefore)
    rcases exists_samePlace same foundBefore with ⟨counterpart, foundAfter, -, sameKind, -⟩
    exact ⟨counterpart, foundAfter, sameKind.trans composite⟩
  case composite_not_final =>
    intro index after found composite
    rcases cases found with ⟨rfl, rfl⟩ | same
    · rcases kind with kind | ⟨-, notFinal⟩
      · simp [State.isComposite, kind] at composite
      · exact notFinal
    · rcases exists_samePlace same.symm found with ⟨held, foundBefore, -, sameKind, sameFinal⟩
      exact sameFinal.symm.trans
        (contained.composite_not_final foundBefore (sameKind.trans composite))
  case entered_child =>
    intro index after initial found entered
    rcases state?_withState_cases inRange found with ⟨rfl, rfl⟩ | ⟨held, foundBefore, rfl⟩
    · rcases kind with kind | ⟨kind, -⟩ <;> simp [State.initial, kind] at entered
    · have enteredBefore : held.initial = some initial := by
        split at entered <;> simpa using entered
      rcases contained.entered_child foundBefore enteredBefore with ⟨member, child⟩
      exact ⟨by rw [grown]; exact List.mem_append_left _ member, child⟩
  case entered_topLevel =>
    intro initial entered
    rw [initial_withState] at entered
    rcases contained.entered_topLevel entered with ⟨member, topLevel⟩
    exact ⟨by rw [grown]; exact List.mem_append_left _ member, topLevel⟩

end AddState

/-! ## New transitions and initial states -/

section Link

variable {machine : Machine}

theorem Contained.withTransition (contained : machine.Contained) (transition : Transition) :
    (machine.withTransition transition).Contained := by
  apply contained.of_samePlace
  case places =>
    intro index
    rw [placeOf, state?_withTransition, Option.map_map, placeOf]
    congr 1
    funext held
    simp only [Function.comp_apply]
    split <;> split <;> rfl
  case lists =>
    intro container
    cases container with
    | none => rfl
    | some index =>
        rw [childrenOf, state?_withTransition, Option.map_map, childrenOf]
        congr 2
        funext held
        simp only [Function.comp_apply]
        split <;> split <;> rfl
  case entered_child =>
    intro index state initial found entered
    rw [state?_withTransition, Option.map_eq_some_iff] at found
    rcases found with ⟨held, foundBefore, rfl⟩
    apply contained.entered_child foundBefore
    split at entered <;> split at entered <;> exact entered
  case entered_topLevel =>
    intro initial entered
    exact contained.entered_topLevel entered

theorem Contained.withInitial (contained : machine.Contained) {target : StateIndex} {held : State}
    (found : machine.state? target = some held) (topLevel : held.parent = none) :
    (machine.withInitial target).Contained := by
  apply contained.of_samePlace
  case places => exact fun _ => rfl
  case lists =>
    intro container
    cases container <;> rfl
  case entered_child =>
    intro index state initial foundAfter entered
    exact contained.entered_child foundAfter entered
  case entered_topLevel =>
    intro initial entered
    cases entered
    exact ⟨contained.mem_childrenOf.mpr ⟨held, found, topLevel⟩, rfl⟩

theorem Contained.withCompositeInitial (contained : machine.Contained)
    {composite target : StateIndex} {held entered : State}
    (found : machine.state? composite = some held) (isComposite : held.isComposite = true)
    (foundTarget : machine.state? target = some entered)
    (child : entered.parent = some composite) :
    (machine.withCompositeInitial composite target).Contained := by
  apply contained.of_samePlace
  case places =>
    intro index
    rw [placeOf, state?_withCompositeInitial, Option.map_map, placeOf]
    congr 1
    funext held
    simp only [Function.comp_apply]
    split <;> simp
  case lists =>
    intro container
    cases container with
    | none => rfl
    | some index =>
        rw [childrenOf, state?_withCompositeInitial, Option.map_map, childrenOf]
        congr 2
        funext held
        simp only [Function.comp_apply]
        split <;> simp
  case entered_child =>
    intro index state initial foundAfter initialAfter
    rw [state?_withCompositeInitial, Option.map_eq_some_iff] at foundAfter
    rcases foundAfter with ⟨before, foundBefore, rfl⟩
    split at initialAfter
    case isTrue same =>
      subst same
      cases found.symm.trans foundBefore
      rw [State.setInitial_initial isComposite] at initialAfter
      cases initialAfter
      exact ⟨contained.mem_childrenOf.mpr ⟨entered, foundTarget, child⟩, rfl⟩
    case isFalse => exact contained.entered_child foundBefore initialAfter
  case entered_topLevel =>
    intro initial initialAfter
    exact contained.entered_topLevel initialAfter

theorem Contained.withMaxDepth (contained : machine.Contained) (maxDepth : Nat) :
    Contained { machine with maxDepth } := by
  apply contained.of_samePlace
  case places => exact fun _ => rfl
  case lists =>
    intro container
    cases container <;> rfl
  case entered_child =>
    intro index state initial found entered
    exact contained.entered_child found entered
  case entered_topLevel =>
    intro initial entered
    exact contained.entered_topLevel entered

end Link

/-! ## Every machine -/

theorem Contained.advance {before after : Construction}
    (advance : Construction.Advance before after) (contained : before.machine.Contained) :
    after.machine.Contained := by
  cases advance with
  | addState state _ parent _ _ kind => exact contained.withState parent kind
  | connect transition _ _ _ => exact contained.withTransition transition
  | setInitial found topLevel => exact contained.withInitial found topLevel
  | setCompositeInitial found isComposite foundTarget child =>
      exact contained.withCompositeInitial found isComposite foundTarget child
  | setMaxDepth maxDepth => exact contained.withMaxDepth maxDepth

theorem Reachable.contained {machine : Machine} (reachable : machine.Reachable) :
    machine.Contained :=
  reachable.preserves contained_start Contained.advance

/-! ## The containment tree -/

/-- Read together, the lists of a machine are one tree over its states: each state
is listed once, under its parent, and entered from there. -/
structure IsContainmentTree (machine : Machine) : Prop where
  listed_once : (machine.topLevel ++ machine.states.flatMap (·.children)).Perm
    (List.range machine.states.length)
  listed_at_parent : ∀ {index state}, machine.state? index = some state →
    match state.parent with
    | none => index ∈ machine.topLevel
    | some parent => ∃ held, machine.state? parent = some held ∧ index ∈ held.children
  topLevel_increasing : machine.topLevel.Pairwise (· < ·)
  children_increasing : ∀ state ∈ machine.states, state.children.Pairwise (· < ·)
  parent_earlier : ∀ {index state parent}, machine.state? index = some state →
    state.parent = some parent →
      parent < index ∧ ∃ held, machine.state? parent = some held ∧ held.isComposite = true
  simple_childless : ∀ state ∈ machine.states, state.isComposite = false → state.children = []
  composite_not_final : ∀ state ∈ machine.states, state.isComposite = true →
    state.isFinal = false
  composite_initial : ∀ {index state initial}, machine.state? index = some state →
    state.initial = some initial →
      initial.target ∈ state.children ∧ initial.parent = some index
  machine_initial : ∀ {initial}, machine.initial = some initial →
    initial.target ∈ machine.topLevel ∧ initial.parent = none

theorem Contained.nodup_childrenOf {machine : Machine} (contained : machine.Contained)
    (container : Option StateIndex) : (machine.childrenOf container).Nodup :=
  (contained.increasing container).imp Nat.ne_of_lt

/-- A state is a child of its parent only. -/
theorem Contained.container_unique {machine : Machine} (contained : machine.Contained)
    {index : StateIndex} {left right : Option StateIndex}
    (inLeft : index ∈ machine.childrenOf left) (inRight : index ∈ machine.childrenOf right) :
    left = right := by
  rcases contained.mem_childrenOf.mp inLeft with ⟨state, found, rfl⟩
  rcases contained.mem_childrenOf.mp inRight with ⟨_, foundAgain, rfl⟩
  rw [Option.some.inj (found.symm.trans foundAgain)]

theorem Contained.nodup_lists {machine : Machine} (contained : machine.Contained) :
    (machine.topLevel ++ machine.states.flatMap (·.children)).Nodup := by
  have childrenAt : ∀ (index : Nat) (inRange : index < machine.states.length),
      machine.childrenOf (some index) = machine.states[index].children := by
    intro index inRange
    exact childrenOf_of_state? (List.getElem?_eq_getElem inRange)
  refine List.nodup_append.mpr ⟨contained.nodup_childrenOf none, ?_, ?_⟩
  · refine List.pairwise_flatMap.mpr ⟨?_, List.pairwise_iff_getElem.mpr ?_⟩
    · intro state member
      rcases List.getElem_of_mem member with ⟨index, inRange, rfl⟩
      rw [← childrenAt index inRange]
      exact contained.nodup_childrenOf (some index)
    · intro left right leftInRange rightInRange before child inLeft other inRight same
      subst same
      rw [← childrenAt left leftInRange] at inLeft
      rw [← childrenAt right rightInRange] at inRight
      exact Nat.ne_of_lt before (Option.some.inj (contained.container_unique inLeft inRight))
  · intro child inTopLevel other inChildren same
    subst same
    rcases List.mem_flatMap.mp inChildren with ⟨state, member, inChildren⟩
    rcases List.getElem_of_mem member with ⟨index, inRange, rfl⟩
    rw [← childrenAt index inRange] at inChildren
    have inRoot : child ∈ machine.childrenOf none := inTopLevel
    cases contained.container_unique inRoot inChildren

theorem Contained.listed_at_parent {machine : Machine} (contained : machine.Contained)
    {index : StateIndex} {state : State} (found : machine.state? index = some state) :
    match state.parent with
    | none => index ∈ machine.topLevel
    | some parent => ∃ held, machine.state? parent = some held ∧ index ∈ held.children := by
  have member := contained.mem_childrenOf.mpr ⟨state, found, rfl⟩
  cases nested : state.parent with
  | none => simpa [nested, childrenOf] using member
  | some parent =>
      rcases contained.parent_composite found nested with ⟨held, foundParent, -⟩
      rw [nested, childrenOf_of_state? foundParent] at member
      exact ⟨held, foundParent, member⟩

/-- Among the top level and all lists of children each state is listed once. -/
theorem Contained.listed_once {machine : Machine} (contained : machine.Contained) :
    (machine.topLevel ++ machine.states.flatMap (·.children)).Perm
      (List.range machine.states.length) := by
  refine (List.perm_ext_iff_of_nodup contained.nodup_lists List.nodup_range).mpr ?_
  intro index
  rw [List.mem_append, List.mem_range]
  constructor
  · rintro (inTopLevel | inChildren)
    · have inRoot : index ∈ machine.childrenOf none := inTopLevel
      exact contained.lt_length inRoot
    · rcases List.mem_flatMap.mp inChildren with ⟨state, member, inChildren⟩
      rcases List.getElem_of_mem member with ⟨parent, inRange, rfl⟩
      have inParent : index ∈ machine.childrenOf (some parent) := by
        rwa [childrenOf_of_state? (List.getElem?_eq_getElem inRange)]
      exact contained.lt_length inParent
  · intro inRange
    rcases exists_state? inRange with ⟨state, found⟩
    have listed := contained.listed_at_parent found
    split at listed
    · exact .inl listed
    · rcases listed with ⟨held, foundParent, member⟩
      exact .inr (List.mem_flatMap.mpr ⟨held, List.mem_of_getElem? foundParent, member⟩)

theorem Reachable.isContainmentTree {machine : Machine} (reachable : machine.Reachable) :
    machine.IsContainmentTree := by
  have contained := reachable.contained
  have foundAt : ∀ state ∈ machine.states, ∃ index, machine.state? index = some state :=
    fun state member => List.mem_iff_getElem?.mp member
  constructor
  case listed_once => exact contained.listed_once
  case listed_at_parent => exact contained.listed_at_parent
  case topLevel_increasing => exact contained.increasing none
  case children_increasing =>
    intro state member
    rcases foundAt state member with ⟨index, found⟩
    rw [← childrenOf_of_state? found]
    exact contained.increasing (some index)
  case parent_earlier =>
    intro index state parent found nested
    exact ⟨contained.parent_lt found nested, contained.parent_composite found nested⟩
  case simple_childless => exact fun state _ simple => State.children_of_simple simple
  case composite_not_final =>
    intro state member composite
    rcases foundAt state member with ⟨index, found⟩
    exact contained.composite_not_final found composite
  case composite_initial =>
    intro index state initial found entered
    rw [← childrenOf_of_state? found]
    exact contained.entered_child found entered
  case machine_initial => exact contained.entered_topLevel

/-- A composite around a simple state that it enters; the step that would nest a
third state in the simple one is rejected. -/
theorem isContainmentTree_nested :
    let machine := ((Construction.start "door" none {}).run [
      .addComposite (some "closed") none none, .addSimple (some "locked") (some 0) false none,
      .addSimple (some "open") (some 1) false none, .setCompositeInitial 0 1, .setInitial 0]).2.machine
    machine.Reachable ∧ machine.states.length = 2 ∧ machine.IsContainmentTree :=
  ⟨reachable_run _ _ _ _, rfl, (reachable_run _ _ _ _).isContainmentTree⟩

end Machine

end Statechart
