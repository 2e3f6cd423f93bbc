import Statechart.Proofs.Record.Rendering

/-!
What a rendered record shows. Whenever a machine is rendered, each of its elements
has one record in the tree, and each record tells of its element what can be read
back: its own data, the ids of the states inside it, its transitions in two lists
and the ids that it refers to.
-/

namespace Statechart

/-! ## Elements and their records -/

namespace Machine

/-- Whether a transition ends the execution. -/
def leadsToFinal (machine : Machine) (index : TransitionIndex) : Bool :=
  ((machine.transition? index).bind fun transition => machine.state? transition.target).any
    (·.isFinal)

variable (machine : Machine) (outputKey : String)

/-- The record of a transition refers to its target unless that is final. -/
structure ShowsTransition (index : TransitionIndex) (record : Record) : Prop where
  content : ∃ transition target, machine.transition? index = some transition ∧
    machine.state? transition.target = some target ∧
    record.id = transition.id ∧
    record.attributes = .ofList [
      ("input", .ofOption .text transition.input),
      (outputKey, .ofOption .text transition.output)] ∧
    record.location = transition.location ∧
    record.refs.entries = if target.isFinal then [] else [("target", target.id)]
  kind : record.kind = transitionType
  children : record.children = []

/-- The record of a state has its transitions in two lists, in their order. Exactly the
records of composites list states and refer to the one that is entered. -/
structure ShowsState (state : State) (record : Record) : Prop where
  id : record.id = state.id
  kind : record.kind = stateType
  attributes : record.attributes = .ofList [("name", .ofOption .text state.name)]
  location : record.location = state.location
  roles : record.children.map (·.1) =
    if state.isComposite then ["final transitions", "states", "transitions"]
    else ["final transitions", "transitions"]
  states : (record.childrenOf "states").map (·.id) = state.children.map machine.stateId
  transitions : List.Forall₂ (machine.ShowsTransition outputKey)
    (state.outgoing.filter fun index => !machine.leadsToFinal index)
    (record.childrenOf "transitions")
  finalTransitions : List.Forall₂ (machine.ShowsTransition outputKey)
    (state.outgoing.filter machine.leadsToFinal) (record.childrenOf "final transitions")
  refs : if state.isComposite then
      ∃ initial target, state.initial = some initial ∧ machine.state? initial.target = some target ∧
        record.refs.entries = [("initialState", target.id)]
    else record.refs.entries = []

/-- The record of a machine refers to the state that is entered, or by an empty id to
none. -/
structure ShowsMachine (record : Record) : Prop where
  id : record.id = machine.id
  kind : record.kind = machineType
  attributes : record.attributes = .ofList [("name", .text machine.name)]
  location : record.location = machine.location
  roles : record.children.map (·.1) = ["states"]
  states : (record.childrenOf "states").map (·.id) = machine.topLevel.map machine.stateId
  refs : match machine.initial with
    | none => record.refs.entries = [("initialState", "")]
    | some initial => ∃ target, machine.state? initial.target = some target ∧
        record.refs.entries = [("initialState", target.id)]

def Shows : Element → Record → Prop
  | .machine, record => machine.ShowsMachine record
  | .state index, record =>
      ∃ state, machine.state? index = some state ∧ machine.ShowsState outputKey state record
  | .transition index, record => machine.ShowsTransition outputKey index record

variable {machine} {outputKey}

theorem Shows.id {element : Element} {record : Record}
    (shows_ : machine.Shows outputKey element record) : record.id = machine.idOf element := by
  cases element with
  | machine => exact ShowsMachine.id shows_
  | state index =>
      rcases shows_ with ⟨state, found, showsState⟩
      exact showsState.id.trans (stateId_of_state? found).symm
  | transition index =>
      rcases ShowsTransition.content shows_ with ⟨transition, _, found, -, id, -⟩
      exact id.trans (transitionId_of_transition? found).symm

theorem Shows.kind {element : Element} {record : Record}
    (shows_ : machine.Shows outputKey element record) : record.kind = element.typeTag := by
  cases element with
  | machine => exact ShowsMachine.kind shows_
  | state index =>
      rcases shows_ with ⟨state, -, showsState⟩
      exact showsState.kind
  | transition index => exact ShowsTransition.kind shows_

/-! ## Each element once -/

variable (machine) (outputKey) in
/-- In the trees of some records each of the elements is shown once, and nothing else. -/
def ShowsEach (elements : List Element) (records : List Record) : Prop :=
  ∃ order, order.Perm elements ∧
    List.Forall₂ (machine.Shows outputKey) order (records.flatMap (·.preorder))

variable {elements others : List Element} {records later : List Record}

theorem showsEach_nil : machine.ShowsEach outputKey [] [] :=
  ⟨[], .refl _, .nil⟩

theorem ShowsEach.append (first : machine.ShowsEach outputKey elements records)
    (second : machine.ShowsEach outputKey others later) :
    machine.ShowsEach outputKey (elements ++ others) (records ++ later) := by
  rcases first with ⟨order, same, related⟩
  rcases second with ⟨laterOrder, sameLater, relatedLater⟩
  refine ⟨order ++ laterOrder, same.append sameLater, ?_⟩
  rw [List.flatMap_append]
  exact List.rel_append related relatedLater

theorem ShowsEach.reorder (each : machine.ShowsEach outputKey elements records)
    (same : elements.Perm others) : machine.ShowsEach outputKey others records := by
  rcases each with ⟨order, sameOrder, related⟩
  exact ⟨order, sameOrder.trans same, related⟩

theorem ShowsEach.node {element : Element} {record : Record}
    (own : machine.Shows outputKey element record)
    (below : machine.ShowsEach outputKey elements record.parts) :
    machine.ShowsEach outputKey (element :: elements) [record] := by
  rcases below with ⟨order, same, related⟩
  refine ⟨element :: order, same.cons element, ?_⟩
  rw [List.flatMap_singleton, Record.preorder_eq_cons]
  exact .cons own related

/-- Records without children, read one by one. -/
theorem showsEach_transitions {indices : List TransitionIndex}
    (related : List.Forall₂ (machine.ShowsTransition outputKey) indices records) :
    machine.ShowsEach outputKey (indices.map .transition) records := by
  induction related with
  | nil => exact showsEach_nil
  | @cons index record indices records first _ induction =>
      have childless : record.parts = [] := by rw [Record.parts, first.children]; rfl
      have alone : machine.ShowsEach outputKey [.transition index] [record] := by
        apply ShowsEach.node
        · exact first
        · rw [childless]
          exact showsEach_nil
      exact alone.append induction

/-- A list of states whose records show each what is in their subtrees. -/
theorem showsEach_flatMap {indices : List StateIndex} {elementsOf : StateIndex → List Element}
    (related : List.Forall₂ (fun index record =>
      machine.ShowsEach outputKey (elementsOf index) [record]) indices records) :
    machine.ShowsEach outputKey (indices.flatMap elementsOf) records := by
  induction related with
  | nil => exact showsEach_nil
  | cons first _ induction => exact first.append induction

/-- The element of a state and those of the transitions that leave it. -/
def ownedElements (machine : Machine) (index : StateIndex) : List Element :=
  .state index :: ((machine.state? index).map fun state =>
    state.outgoing.map .transition).getD []

theorem ownedElements_of_state? {index : StateIndex} {state : State}
    (found : machine.state? index = some state) :
    machine.ownedElements index = .state index :: state.outgoing.map .transition := by
  rw [ownedElements, found]
  rfl

/-- Read state by state, the elements of a machine are met once each. -/
theorem Adjacent.ownedElements_perm (adjacent : machine.Adjacent) :
    (.machine :: (List.range machine.states.length).flatMap machine.ownedElements).Perm
      machine.elements := by
  have split := List.flatMap_append_perm (List.range machine.states.length)
    (fun index => [Element.state index])
    fun index => ((machine.state? index).map fun state =>
      state.outgoing.map Element.transition).getD []
  have states : ((List.range machine.states.length).flatMap fun index => [Element.state index]) =
      (List.range machine.states.length).map .state := List.flatMap_pure_eq_map _ _
  have transitions : ((List.range machine.states.length).flatMap fun index =>
      ((machine.state? index).map fun state => state.outgoing.map Element.transition).getD []).Perm
      ((List.range machine.transitions.length).map .transition) := by
    have walked := (flatMap_eq_flatMap_range machine.states fun state =>
      state.outgoing.map Element.transition).symm
    unfold state?
    rw [walked, ← List.map_flatMap]
    exact adjacent.outgoing_perm.map _
  rw [states] at split
  exact (split.symm.trans (transitions.append_left _)).cons _

end Machine

/-! ## Reading a rendering back -/

namespace Renderer

open Machine

variable {renderer : Renderer}

theorem transition_shows {index : TransitionIndex} {record : Record}
    (rendered : renderer.transition index = .ok record) :
    renderer.machine.ShowsTransition renderer.outputKey index record := by
  rcases bind_eq_ok.mp rendered with ⟨edge, found, rest⟩
  rcases bind_eq_ok.mp rest with ⟨target, foundTarget, same⟩
  cases pure_eq_ok.mp same
  refine ⟨⟨edge, target, edge_eq_ok.mp found, lookup_eq_ok.mp foundTarget, rfl, rfl, rfl, ?_⟩,
    rfl, rfl⟩
  cases target.isFinal <;> rfl

theorem targetsFinal_eq_ok {index : TransitionIndex} {isFinal : Bool}
    (looked : renderer.targetsFinal index = .ok isFinal) :
    renderer.machine.leadsToFinal index = isFinal := by
  rcases bind_eq_ok.mp looked with ⟨edge, found, rest⟩
  rcases bind_eq_ok.mp rest with ⟨target, foundTarget, same⟩
  rw [leadsToFinal, edge_eq_ok.mp found, Option.bind_some, lookup_eq_ok.mp foundTarget,
    Option.any_some]
  exact pure_eq_ok.mp same

/-- The two lists are the outgoing transitions without and with a final target, each in
the order of the whole. -/
theorem partition_shows {indices : List TransitionIndex} {others finals : List Record}
    (rendered : renderer.partition indices = .ok (others, finals)) :
    List.Forall₂ (renderer.machine.ShowsTransition renderer.outputKey)
        (indices.filter fun index => !renderer.machine.leadsToFinal index) others ∧
      List.Forall₂ (renderer.machine.ShowsTransition renderer.outputKey)
        (indices.filter renderer.machine.leadsToFinal) finals := by
  induction indices generalizing others finals with
  | nil =>
      cases rendered
      exact ⟨.nil, .nil⟩
  | cons index indices induction =>
      rcases bind_eq_ok.mp rendered with ⟨record, shown, rest⟩
      rcases bind_eq_ok.mp rest with ⟨isFinal, looked, rest⟩
      rcases bind_eq_ok.mp rest with ⟨⟨laterOthers, laterFinals⟩, later, same⟩
      have shows_ := transition_shows shown
      have leads := targetsFinal_eq_ok looked
      rcases induction later with ⟨showOthers, showFinals⟩
      rw [List.filter_cons, List.filter_cons, leads]
      cases isFinal with
      | true =>
          cases pure_eq_ok.mp same
          exact ⟨showOthers, .cons shows_ showFinals⟩
      | false =>
          cases pure_eq_ok.mp same
          exact ⟨.cons shows_ showOthers, showFinals⟩

/-- What the rendering of a state has gone through when it is answered. -/
theorem stateWithin_eq_ok {levels : Nat} {index : StateIndex} {record : Record}
    (rendered : renderer.stateWithin (levels + 1) index = .ok record) :
    ∃ state others finals, renderer.machine.state? index = some state ∧
      renderer.partition state.outgoing = .ok (others, finals) ∧
      (state.isComposite = false ∧ record = stateRecord state others finals ∨
        state.isComposite = true ∧ ∃ initial target states,
          state.initial = some initial ∧ renderer.machine.state? initial.target = some target ∧
          state.children.mapM (renderer.stateWithin levels) = .ok states ∧
          record = compositeRecord state target others finals states) := by
  rw [stateWithin] at rendered
  rcases bind_eq_ok.mp rendered with ⟨state, found, rest⟩
  rcases bind_eq_ok.mp rest with ⟨entered, entry_, rest⟩
  rcases bind_eq_ok.mp rest with ⟨⟨others, finals⟩, partitioned, rest⟩
  refine ⟨state, others, finals, lookup_eq_ok.mp found, partitioned, ?_⟩
  rw [entry] at entry_
  split at entry_
  case h_1 simple =>
    cases entry_
    exact .inl ⟨by simp [State.isComposite, simple], (pure_eq_ok.mp rest).symm⟩
  case h_2 initial composite =>
    cases entry_
    rcases bind_eq_ok.mp rest with ⟨states, renderedStates, rest⟩
    rcases bind_eq_ok.mp rest with ⟨target, foundTarget, same⟩
    exact .inr ⟨by simp [State.isComposite, composite], initial, target, states,
      by simp [State.initial, composite], lookup_eq_ok.mp foundTarget, renderedStates,
      (pure_eq_ok.mp same).symm⟩
  case h_3 => cases entry_

section Owned

variable {state : State} {others finals : List Record}
  (partitioned : renderer.partition state.outgoing = .ok (others, finals))
include partitioned

/-- The records of the outgoing transitions, on both sides of those of other elements. -/
theorem partition_showsEach {elements : List Element} {states : List Record}
    (between : renderer.machine.ShowsEach renderer.outputKey elements states) :
    renderer.machine.ShowsEach renderer.outputKey (state.outgoing.map .transition ++ elements)
      (finals ++ (states ++ others)) := by
  rcases partition_shows partitioned with ⟨showOthers, showFinals⟩
  have around := (showsEach_transitions showFinals).append
    (between.append (showsEach_transitions showOthers))
  have both : ((state.outgoing.filter renderer.machine.leadsToFinal).map Element.transition ++
      (state.outgoing.filter fun index => !renderer.machine.leadsToFinal index).map
        Element.transition).Perm (state.outgoing.map Element.transition) := by
    rw [← List.map_append]
    exact (List.filter_append_perm _ _).map _
  apply around.reorder
  apply (List.perm_append_comm.append_left _).trans
  rw [← List.append_assoc]
  exact both.append_right elements

theorem stateRecord_shows (simple : state.isComposite = false) :
    renderer.machine.ShowsState renderer.outputKey state (stateRecord state others finals) := by
  rcases partition_shows partitioned with ⟨showOthers, showFinals⟩
  constructor
  case id | kind | attributes | location => rfl
  case roles => simp [simple, stateRecord]
  case states =>
    rw [State.children_of_simple simple]
    rfl
  case transitions => exact showOthers
  case finalTransitions => exact showFinals
  case refs =>
    rw [if_neg (by simp [simple])]
    rfl

theorem compositeRecord_shows {target : State} {initial : InitialState} {states : List Record}
    (composite : state.isComposite = true) (entered : state.initial = some initial)
    (foundTarget : renderer.machine.state? initial.target = some target)
    (ids : states.map (·.id) = state.children.map renderer.machine.stateId) :
    renderer.machine.ShowsState renderer.outputKey state
      (compositeRecord state target others finals states) := by
  rcases partition_shows partitioned with ⟨showOthers, showFinals⟩
  constructor
  case id | kind | attributes | location => rfl
  case roles => simp [composite, compositeRecord]
  case states => exact ids
  case transitions => exact showOthers
  case finalTransitions => exact showFinals
  case refs =>
    rw [if_pos composite]
    exact ⟨initial, target, entered, foundTarget, rfl⟩

end Owned

theorem map_id_eq {indices : List StateIndex} {records : List Record}
    (same : List.Forall₂ (fun index (record : Record) =>
      record.id = renderer.machine.stateId index) indices records) :
    records.map (·.id) = indices.map renderer.machine.stateId := by
  induction same with
  | nil => rfl
  | cons first _ induction => rw [List.map_cons, List.map_cons, first, induction]

/-- A rendered state shows itself and everything below it, and nothing lies deeper than
the levels that were left. -/
theorem stateWithin_shows (levels : Nat) {index : StateIndex} {record : Record}
    (rendered : renderer.stateWithin levels index = .ok record) :
    renderer.machine.ShowsEach renderer.outputKey
        ((renderer.machine.subtree levels index).flatMap renderer.machine.ownedElements) [record] ∧
      renderer.machine.generation levels [index] = [] ∧
      record.id = renderer.machine.stateId index := by
  induction levels generalizing index record with
  | zero => cases rendered
  | succ levels induction =>
      rcases stateWithin_eq_ok rendered with ⟨state, others, finals, found, partitioned, shape⟩
      rw [subtree, List.flatMap_cons, ownedElements_of_state? found, generation,
        List.flatMap_singleton, childrenOf_of_state? found, stateId_of_state? found,
        List.cons_append]
      rcases shape with ⟨simple, rfl⟩ | ⟨composite, initial, target, states, shape⟩
      · rw [State.children_of_simple simple]
        refine ⟨?_, generation_nil _ _, rfl⟩
        apply ShowsEach.node
        case own => exact ⟨state, found, stateRecord_shows partitioned simple⟩
        case below =>
          rw [parts_stateRecord]
          exact partition_showsEach partitioned showsEach_nil
      · rcases shape with ⟨entered, foundTarget, renderedStates, rfl⟩
        have each := (mapM_eq_ok.mp renderedStates).imp fun _ _ => induction
        have ids := map_id_eq (each.imp fun _ _ showing => showing.2.2)
        have inside := showsEach_flatMap (each.imp fun _ _ showing => showing.1)
        have noneDeeper := (List.forall₂_and_left _ _ |>.mp
          (each.imp fun _ _ showing => ⟨showing.2.1, showing.1⟩)).1
        refine ⟨?_, generation_eq_nil noneDeeper, rfl⟩
        apply ShowsEach.node
        case own =>
          exact ⟨state, found, compositeRecord_shows partitioned composite entered foundTarget ids⟩
        case below =>
          rw [parts_compositeRecord, List.flatMap_assoc]
          exact partition_showsEach partitioned inside

theorem initialId_eq_ok {id : String} (looked : renderer.initialId = .ok id) :
    match renderer.machine.initial with
    | none => id = ""
    | some initial => ∃ target, renderer.machine.state? initial.target = some target ∧
        id = target.id := by
  rw [initialId] at looked
  cases set : renderer.machine.initial with
  | none =>
      rw [set] at looked
      cases looked
      rfl
  | some initial =>
      rw [set] at looked
      rcases bind_eq_ok.mp looked with ⟨target, found, same⟩
      exact ⟨target, lookup_eq_ok.mp found, (pure_eq_ok.mp same).symm⟩

/-- The record of a machine with the records of its top level. -/
def machineRecord (machine : Machine) (entered : String) (states : List Record) : Record where
  id := machine.id
  kind := machineType
  attributes := .ofList [("name", .text machine.name)]
  children := [("states", .many states)]
  refs := .ofList [("initialState", entered)]
  location := machine.location

theorem parts_machineRecord (machine : Machine) (entered : String) (states : List Record) :
    (machineRecord machine entered states).parts = states := by
  simp [Record.parts, machineRecord, Child.toList]

theorem machineRecord_shows {entered : String} {states : List Record}
    (looked : renderer.initialId = .ok entered)
    (ids : states.map (·.id) = renderer.machine.topLevel.map renderer.machine.stateId) :
    renderer.machine.ShowsMachine (machineRecord renderer.machine entered states) := by
  have target := initialId_eq_ok looked
  constructor
  case id | kind | attributes | location | roles => rfl
  case states => exact ids
  case refs =>
    cases set : renderer.machine.initial with
    | none =>
        rw [set] at target
        cases target
        rfl
    | some initial =>
        rw [set] at target
        rcases target with ⟨target, found, rfl⟩
        exact ⟨target, found, rfl⟩

/-- The record of a machine shows the machine and each of its elements once. -/
theorem stateMachine_shows (contained : renderer.machine.Contained)
    (adjacent : renderer.machine.Adjacent) {root : Record}
    (rendered : renderer.stateMachine = .ok root) :
    renderer.machine.ShowsMachine root ∧
      renderer.machine.ShowsEach renderer.outputKey renderer.machine.elements [root] := by
  rcases bind_eq_ok.mp rendered with ⟨states, renderedStates, rest⟩
  rcases bind_eq_ok.mp rest with ⟨entered, looked, same⟩
  have isRoot : machineRecord renderer.machine entered states = root := pure_eq_ok.mp same
  have each := (mapM_eq_ok.mp renderedStates).imp fun _ _ => stateWithin_shows _
  have ids := map_id_eq (each.imp fun _ _ showing => showing.2.2)
  have inside := showsEach_flatMap (each.imp fun _ _ showing => showing.1)
  have noneDeeper := generation_eq_nil (List.forall₂_and_left _ _ |>.mp
    (each.imp fun _ _ showing => ⟨showing.2.1, showing.1⟩)).1
  have depths := contained.depth_lt_of_generation_eq_nil noneDeeper
  have everyState := contained.subtrees_perm fun index inRange =>
    Nat.le_of_lt_succ (depths index inRange)
  have own := machineRecord_shows looked ids
  rw [isRoot] at own
  have all : renderer.machine.ShowsEach renderer.outputKey (.machine ::
      (renderer.machine.topLevel.flatMap
        (renderer.machine.subtree (renderer.maxDepth + 1))).flatMap
          renderer.machine.ownedElements) [root] := by
    apply ShowsEach.node
    case own => exact own
    case below =>
      rw [List.flatMap_assoc, ← isRoot, parts_machineRecord]
      exact inside
  exact ⟨own, all.reorder (((everyState.flatMap_right _).cons _).trans adjacent.ownedElements_perm)⟩

end Renderer

end Statechart
