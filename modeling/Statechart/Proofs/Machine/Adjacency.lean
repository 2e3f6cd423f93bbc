import Statechart.Proofs.Machine.Advance

/-!
Adjacency. A state lists the transitions that leave it and those that enter it;
`Machine.Adjacent` says that these lists are what the list of all transitions
tells. Every reachable machine satisfies it, so each transition leaves exactly one
state.
-/

namespace Statechart.Machine

/-- The positions of the transitions with a property, in their order. -/
def transitionsWhere (machine : Machine) (property : Transition → Bool) : List TransitionIndex :=
  (List.range machine.transitions.length).filter fun index =>
    (machine.transition? index).any property

theorem mem_transitionsWhere {machine : Machine} {property : Transition → Bool}
    {index : TransitionIndex} :
    index ∈ machine.transitionsWhere property ↔
      ∃ transition, machine.transition? index = some transition ∧ property transition = true := by
  rw [transitionsWhere, List.mem_filter, List.mem_range]
  cases found : machine.transition? index with
  | none => simp
  | some transition =>
      have inRange : index < machine.transitions.length := (List.getElem?_eq_some_iff.mp found).1
      simp [inRange]

structure Adjacent (machine : Machine) : Prop where
  outgoing : ∀ {index state}, machine.state? index = some state →
    state.outgoing = machine.transitionsWhere (·.source == index)
  incoming : ∀ {index state}, machine.state? index = some state →
    state.incoming = machine.transitionsWhere (·.target == index)
  endpoints : ∀ transition ∈ machine.transitions,
    transition.source < machine.states.length ∧ transition.target < machine.states.length

variable {machine : Machine}

theorem transitionsWhere_append {extended : Machine} {transition : Transition}
    (transitions : extended.transitions = machine.transitions ++ [transition])
    (property : Transition → Bool) :
    extended.transitionsWhere property = machine.transitionsWhere property ++
      if property transition then [machine.transitions.length] else [] := by
  have earlier : ∀ index ∈ List.range machine.transitions.length,
      (extended.transition? index).any property = (machine.transition? index).any property := by
    intro index member
    rw [transition?, transitions, List.getElem?_append_left (List.mem_range.mp member), transition?]
  have newest : extended.transition? machine.transitions.length = some transition := by
    simp [transition?, transitions]
  rw [transitionsWhere, transitions, List.length_append, List.length_singleton,
    List.range_succ, List.filter_append, List.filter_congr earlier]
  cases holds : property transition <;> simp [newest, holds, transitionsWhere]

theorem transitionsWhere_increasing (machine : Machine) (property : Transition → Bool) :
    (machine.transitionsWhere property).Pairwise (· < ·) :=
  List.pairwise_lt_range.filter _

/-- A transition is met once where it has the property. -/
theorem count_transitionsWhere {position : TransitionIndex} {transition : Transition}
    (found : machine.transition? position = some transition) (property : Transition → Bool) :
    (machine.transitionsWhere property).count position = if property transition then 1 else 0 := by
  have distinct : (machine.transitionsWhere property).Nodup :=
    (machine.transitionsWhere_increasing property).imp Nat.ne_of_lt
  have listed : position ∈ machine.transitionsWhere property ↔ property transition = true := by
    rw [mem_transitionsWhere, found]
    simp
  rw [distinct.count]
  simp only [listed]

theorem lt_length_of_mem_transitionsWhere {property : Transition → Bool}
    {position : TransitionIndex} (member : position ∈ machine.transitionsWhere property) :
    position < machine.transitions.length := by
  rcases mem_transitionsWhere.mp member with ⟨_, found, -⟩
  exact (List.getElem?_eq_some_iff.mp found).1

theorem transitionsWhere_congr {other : Machine} (same : other.transitions = machine.transitions)
    (property : Transition → Bool) :
    other.transitionsWhere property = machine.transitionsWhere property := by
  simp only [transitionsWhere, transition?, same]

/-- No transition leaves or enters a state that is not there. -/
theorem Adjacent.transitionsWhere_outside (adjacent : machine.Adjacent) {index : StateIndex}
    (outside : machine.states.length ≤ index) :
    machine.transitionsWhere (·.source == index) = [] ∧
      machine.transitionsWhere (·.target == index) = [] := by
  have noEndpoint : ∀ position transition, machine.transition? position = some transition →
      transition.source ≠ index ∧ transition.target ≠ index := by
    intro position transition found
    have bounds := adjacent.endpoints transition (List.mem_of_getElem? found)
    exact ⟨Nat.ne_of_lt (Nat.lt_of_lt_of_le bounds.1 outside),
      Nat.ne_of_lt (Nat.lt_of_lt_of_le bounds.2 outside)⟩
  constructor
  · apply List.eq_nil_iff_forall_not_mem.mpr
    intro position member
    rcases mem_transitionsWhere.mp member with ⟨transition, found, leaves⟩
    exact (noEndpoint position transition found).1 (beq_iff_eq.mp leaves)
  · apply List.eq_nil_iff_forall_not_mem.mpr
    intro position member
    rcases mem_transitionsWhere.mp member with ⟨transition, found, enters⟩
    exact (noEndpoint position transition found).2 (beq_iff_eq.mp enters)

/-! ## Steps -/

theorem adjacent_start (name : String) (location : Option Location) (ids : IdSource) :
    (Construction.start name location ids).machine.Adjacent where
  outgoing found := by simp [Construction.start, state?] at found
  incoming found := by simp [Construction.start, state?] at found
  endpoints transition member := by simp [Construction.start] at member

/-- Lists stay in order when the transitions stay, as long as each state keeps its
lists and new states have none. -/
theorem Adjacent.of_sameLists (adjacent : machine.Adjacent) {after : Machine}
    (transitions : after.transitions = machine.transitions)
    (longer : machine.states.length ≤ after.states.length)
    (lists : ∀ {index state}, after.state? index = some state →
      (∃ held, machine.state? index = some held ∧ state.outgoing = held.outgoing ∧
        state.incoming = held.incoming) ∨
      machine.states.length ≤ index ∧ state.outgoing = [] ∧ state.incoming = []) :
    after.Adjacent where
  outgoing := by
    intro index state found
    rw [transitionsWhere_congr transitions]
    rcases lists found with ⟨held, foundBefore, outgoing, -⟩ | ⟨outside, outgoing, -⟩
    · rw [outgoing, adjacent.outgoing foundBefore]
    · rw [outgoing, (adjacent.transitionsWhere_outside outside).1]
  incoming := by
    intro index state found
    rw [transitionsWhere_congr transitions]
    rcases lists found with ⟨held, foundBefore, -, incoming⟩ | ⟨outside, -, incoming⟩
    · rw [incoming, adjacent.incoming foundBefore]
    · rw [incoming, (adjacent.transitionsWhere_outside outside).2]
  endpoints := by
    intro transition member
    rw [transitions] at member
    have bounds := adjacent.endpoints transition member
    exact ⟨Nat.lt_of_lt_of_le bounds.1 longer, Nat.lt_of_lt_of_le bounds.2 longer⟩

theorem Adjacent.withState (adjacent : machine.Adjacent) {state : State}
    (parent : ∀ parent, state.parent = some parent → parent < machine.states.length)
    (outgoing : state.outgoing = []) (incoming : state.incoming = []) :
    (machine.withState state).Adjacent := by
  apply adjacent.of_sameLists (transitions_withState machine state) (by simp)
  intro index after found
  rcases state?_withState_cases parent found with ⟨rfl, rfl⟩ | ⟨held, foundBefore, rfl⟩
  · exact .inr ⟨Nat.le_refl _, outgoing, incoming⟩
  · exact .inl ⟨held, foundBefore, by split <;> simp⟩

theorem Adjacent.withTransition (adjacent : machine.Adjacent) {transition : Transition}
    (source : transition.source < machine.states.length)
    (target : transition.target < machine.states.length) :
    (machine.withTransition transition).Adjacent where
  outgoing := by
    intro index after found
    rw [state?_withTransition, Option.map_eq_some_iff] at found
    rcases found with ⟨held, foundBefore, rfl⟩
    rw [transitionsWhere_append rfl, ← adjacent.outgoing foundBefore]
    by_cases leaves : transition.source = index <;> by_cases enters : transition.target = index <;>
      simp [leaves, enters, State.addOutgoing, State.addIncoming]
  incoming := by
    intro index after found
    rw [state?_withTransition, Option.map_eq_some_iff] at found
    rcases found with ⟨held, foundBefore, rfl⟩
    rw [transitionsWhere_append rfl, ← adjacent.incoming foundBefore]
    by_cases leaves : transition.source = index <;> by_cases enters : transition.target = index <;>
      simp [leaves, enters, State.addOutgoing, State.addIncoming]
  endpoints := by
    intro other member
    rw [length_withTransition]
    rcases List.mem_append.mp member with before | new
    · exact adjacent.endpoints other before
    · cases List.mem_singleton.mp new
      exact ⟨source, target⟩

theorem Adjacent.advance {before after : Construction}
    (advance : Construction.Advance before after) (adjacent : before.machine.Adjacent) :
    after.machine.Adjacent := by
  cases advance with
  | addState state _ parent outgoing incoming _ =>
      apply adjacent.withState _ outgoing incoming
      intro index nested
      rcases parent index nested with ⟨held, found, -⟩
      exact lt_of_state? found
  | connect transition _ source target => exact adjacent.withTransition source target
  | setInitial found topLevel =>
      apply adjacent.of_sameLists
      case transitions => rfl
      case longer => exact Nat.le_refl _
      case lists =>
        intro index state found
        exact .inl ⟨state, found, rfl, rfl⟩
  | setCompositeInitial found isComposite foundTarget child =>
      apply adjacent.of_sameLists
      case transitions => rfl
      case longer => simp
      case lists =>
        intro index state foundAfter
        rw [state?_withCompositeInitial, Option.map_eq_some_iff] at foundAfter
        rcases foundAfter with ⟨held, foundBefore, rfl⟩
        exact .inl ⟨held, foundBefore, by split <;> simp⟩
  | setMaxDepth maxDepth =>
      apply adjacent.of_sameLists
      case transitions => rfl
      case longer => exact Nat.le_refl _
      case lists =>
        intro index state found
        exact .inl ⟨state, found, rfl, rfl⟩

theorem Reachable.adjacent {machine : Machine} (reachable : machine.Reachable) :
    machine.Adjacent :=
  reachable.preserves adjacent_start Adjacent.advance

/-! ## The wiring of transitions -/

/-- Read together, the lists of the states are the transitions once more: each of them leaves
its source once and enters its target once, also where these are one state, and no list says
anything else. -/
structure IsWiring (machine : Machine) : Prop where
  endpoints : ∀ transition ∈ machine.transitions,
    transition.source < machine.states.length ∧ transition.target < machine.states.length
  leaves_once : ∀ {position transition index state},
    machine.transition? position = some transition → machine.state? index = some state →
      state.outgoing.count position = if transition.source = index then 1 else 0
  enters_once : ∀ {position transition index state},
    machine.transition? position = some transition → machine.state? index = some state →
      state.incoming.count position = if transition.target = index then 1 else 0
  listed : ∀ state ∈ machine.states, ∀ position ∈ state.outgoing ++ state.incoming,
    position < machine.transitions.length
  outgoing_increasing : ∀ state ∈ machine.states, state.outgoing.Pairwise (· < ·)
  incoming_increasing : ∀ state ∈ machine.states, state.incoming.Pairwise (· < ·)

theorem Adjacent.increasing_outgoing (adjacent : machine.Adjacent) {index : StateIndex}
    {state : State} (found : machine.state? index = some state) :
    state.outgoing.Pairwise (· < ·) := by
  rw [adjacent.outgoing found]
  exact machine.transitionsWhere_increasing _

theorem Adjacent.increasing_incoming (adjacent : machine.Adjacent) {index : StateIndex}
    {state : State} (found : machine.state? index = some state) :
    state.incoming.Pairwise (· < ·) := by
  rw [adjacent.incoming found]
  exact machine.transitionsWhere_increasing _

theorem Adjacent.lt_length_of_listed (adjacent : machine.Adjacent) {index : StateIndex}
    {state : State} (found : machine.state? index = some state) {position : TransitionIndex}
    (member : position ∈ state.outgoing ++ state.incoming) :
    position < machine.transitions.length := by
  rw [adjacent.outgoing found, adjacent.incoming found] at member
  rcases List.mem_append.mp member with leaves | enters
  · exact lt_length_of_mem_transitionsWhere leaves
  · exact lt_length_of_mem_transitionsWhere enters

theorem Reachable.isWiring {machine : Machine} (reachable : machine.Reachable) :
    machine.IsWiring := by
  have adjacent := reachable.adjacent
  have foundAt : ∀ state ∈ machine.states, ∃ index, machine.state? index = some state :=
    fun state member => List.mem_iff_getElem?.mp member
  constructor
  case endpoints => exact adjacent.endpoints
  case leaves_once =>
    intro position transition index state foundTransition found
    rw [adjacent.outgoing found, count_transitionsWhere foundTransition]
    simp only [beq_iff_eq]
  case enters_once =>
    intro position transition index state foundTransition found
    rw [adjacent.incoming found, count_transitionsWhere foundTransition]
    simp only [beq_iff_eq]
  case listed =>
    intro state member position inLists
    rcases foundAt state member with ⟨index, found⟩
    exact adjacent.lt_length_of_listed found inLists
  case outgoing_increasing =>
    intro state member
    rcases foundAt state member with ⟨index, found⟩
    exact adjacent.increasing_outgoing found
  case incoming_increasing =>
    intro state member
    rcases foundAt state member with ⟨index, found⟩
    exact adjacent.increasing_incoming found

/-- A loop, two parallel transitions to a state that is made after the first of them was
tried, and a transition back. -/
theorem isWiring_blinker :
    let machine := ((Construction.start "blinker" none {}).run [
      .addSimple (some "dark") none false none, .connect 0 0 (some "wait") none none,
      .connect 0 1 (some "on") none none, .addSimple (some "lit") none false none,
      .connect 0 1 (some "on") none none, .connect 0 1 (some "flash") none none,
      .connect 1 0 none none none]).2.machine
    machine.Reachable ∧ machine.states.map (·.outgoing) = [[0, 1, 2], [3]] ∧
      machine.states.map (·.incoming) = [[0, 3], [1, 2]] ∧ machine.IsWiring :=
  ⟨reachable_run _ _ _ _, rfl, rfl, (reachable_run _ _ _ _).isWiring⟩

/-! ## The transitions of all states -/

/-- Read state by state, the outgoing transitions are all transitions. -/
theorem Adjacent.outgoing_perm (adjacent : machine.Adjacent) :
    (machine.states.flatMap (·.outgoing)).Perm (List.range machine.transitions.length) := by
  have outgoingAt : ∀ (position : Nat) (inRange : position < machine.states.length),
      machine.states[position].outgoing = machine.transitionsWhere (·.source == position) := by
    intro position inRange
    exact adjacent.outgoing (List.getElem?_eq_getElem inRange)
  refine (List.perm_ext_iff_of_nodup ?_ List.nodup_range).mpr ?_
  · refine List.pairwise_flatMap.mpr ⟨?_, List.pairwise_iff_getElem.mpr ?_⟩
    · intro state member
      rcases List.getElem_of_mem member with ⟨position, inRange, rfl⟩
      rw [outgoingAt]
      exact List.nodup_range.filter _
    · intro left right leftInRange rightInRange before index inLeft other inRight same
      subst same
      rw [outgoingAt] at inLeft inRight
      rcases mem_transitionsWhere.mp inLeft with ⟨transition, found, leavesLeft⟩
      rcases mem_transitionsWhere.mp inRight with ⟨_, foundAgain, leavesRight⟩
      cases found.symm.trans foundAgain
      have same := (beq_iff_eq.mp leavesLeft).symm.trans (beq_iff_eq.mp leavesRight)
      exact Nat.ne_of_lt before same
  · intro index
    rw [List.mem_flatMap, List.mem_range]
    constructor
    · intro listed
      rcases listed with ⟨state, member, outgoing⟩
      rcases List.getElem_of_mem member with ⟨position, inRange, rfl⟩
      rw [outgoingAt] at outgoing
      rcases mem_transitionsWhere.mp outgoing with ⟨transition, found, -⟩
      exact (List.getElem?_eq_some_iff.mp found).1
    · intro inRange
      have found : machine.transition? index = some machine.transitions[index] :=
        List.getElem?_eq_getElem inRange
      have source := (adjacent.endpoints _ (List.getElem_mem inRange)).1
      refine ⟨_, List.getElem_mem source, ?_⟩
      rw [outgoingAt]
      exact mem_transitionsWhere.mpr ⟨_, found, beq_iff_eq.mpr rfl⟩

end Statechart.Machine
