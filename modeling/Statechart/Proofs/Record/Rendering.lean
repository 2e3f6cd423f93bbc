import Statechart.Record.Rendering
import Statechart.Proofs.Machine.Adjacency
import Statechart.Proofs.Machine.Element
import Statechart.Proofs.Machine.Subtree
import Statechart.Proofs.Record.Check

/-!
Rendering. Where every composite says how it is entered and the levels suffice, a
machine is rendered, and its record holds each id of the machine once and refers
to nothing else.
-/

namespace Statechart

namespace Machine

/-- The ids of a state and of the transitions that it owns. -/
def ownedIds (machine : Machine) (index : StateIndex) : List String :=
  ((machine.state? index).map fun state =>
    state.id :: state.outgoing.map machine.transitionId).getD []

/-- The ids that a reference may name. -/
def stateIds (machine : Machine) : List String :=
  machine.states.map (·.id)

theorem ownedIds_of_state? {machine : Machine} {index : StateIndex} {state : State}
    (found : machine.state? index = some state) :
    machine.ownedIds index = state.id :: state.outgoing.map machine.transitionId := by
  rw [ownedIds, found]
  rfl

/-- Read state by state, the ids of a machine are met once each. -/
theorem Adjacent.ownedIds_perm {machine : Machine} (adjacent : machine.Adjacent) :
    (machine.id :: (List.range machine.states.length).flatMap machine.ownedIds).Perm
      machine.ids := by
  have owned : (List.range machine.states.length).flatMap machine.ownedIds =
      machine.states.flatMap fun state =>
        state.id :: state.outgoing.map machine.transitionId :=
    (flatMap_eq_flatMap_range _ _).symm
  have split := List.flatMap_append_perm machine.states (fun state => [state.id])
    fun state => state.outgoing.map machine.transitionId
  have transitions : (machine.states.flatMap fun state =>
      state.outgoing.map machine.transitionId).Perm (machine.transitions.map (·.id)) := by
    rw [← List.map_flatMap, ← map_transitionId_range]
    exact adjacent.outgoing_perm.map _
  have states : (machine.states.flatMap fun state => [state.id]) = machine.states.map (·.id) :=
    List.flatMap_pure_eq_map _ _
  rw [owned, ids]
  rw [states] at split
  exact (split.symm.trans (transitions.append_left _)).cons machine.id

end Machine

namespace Record

/-- The trees of a list of records hold these ids and refer to known ids only. -/
structure Holds (known : List String) (records : List Record) (ids : List String) : Prop where
  ids : ((records.flatMap (·.preorder)).map (·.id)).Perm ids
  refs : ∀ record ∈ records.flatMap (·.preorder), ∀ ref ∈ record.refs.entries, ref.2 ∈ known

variable {known : List String} {records others : List Record} {ids otherIds : List String}

theorem holds_nil (known : List String) : Holds known [] [] :=
  ⟨.refl _, by simp⟩

theorem Holds.append (holds : Holds known records ids) (othersHold : Holds known others otherIds) :
    Holds known (records ++ others) (ids ++ otherIds) where
  ids := by
    rw [List.flatMap_append, List.map_append]
    exact holds.ids.append othersHold.ids
  refs := by
    intro record member
    rw [List.flatMap_append] at member
    rcases List.mem_append.mp member with member | member
    · exact holds.refs record member
    · exact othersHold.refs record member

theorem Holds.reorder (holds : Holds known records ids) (same : others.Perm records)
    (sameIds : ids.Perm otherIds) : Holds known others otherIds where
  ids := (((same.flatMap_right _).map _).trans holds.ids).trans sameIds
  refs record member := holds.refs record ((same.flatMap_right _).mem_iff.mp member)

theorem Holds.weaken {more : List String} (holds : Holds known records ids)
    (included : ∀ id ∈ known, id ∈ more) : Holds more records ids where
  ids := holds.ids
  refs record member ref inRefs := included _ (holds.refs record member ref inRefs)

theorem Holds.node {record : Record} (own : ∀ ref ∈ record.refs.entries, ref.2 ∈ known)
    (below : Holds known record.parts ids) : Holds known [record] (record.id :: ids) where
  ids := by
    rw [List.flatMap_singleton, preorder_eq_cons, List.map_cons]
    exact below.ids.cons record.id
  refs := by
    intro inner member
    rw [List.flatMap_singleton, preorder_eq_cons] at member
    rcases List.mem_cons.mp member with rfl | member
    · exact own
    · exact below.refs inner member

end Record

namespace Renderer

variable {renderer : Renderer}

/-! ## Transitions -/

theorem lookup_eq_ok {index : StateIndex} {state : State} :
    renderer.lookup index = .ok state ↔ renderer.machine.state? index = some state := by
  rw [lookup]
  cases renderer.machine.state? index <;> simp

theorem edge_eq_ok {index : TransitionIndex} {transition : Transition} :
    renderer.edge index = .ok transition ↔
      renderer.machine.transition? index = some transition := by
  rw [edge]
  cases renderer.machine.transition? index <;> simp

/-- The record of a transition that leads to `target`. -/
def edgeRecord (renderer : Renderer) (edge : Transition) (target : State) : Record where
  id := edge.id
  kind := transitionType
  attributes := .ofList [
    ("input", .ofOption .text edge.input),
    (renderer.outputKey, .ofOption .text edge.output)]
  refs := if target.isFinal then .empty else .ofList [("target", target.id)]
  location := edge.location

theorem transition_of_found {index : TransitionIndex} {edge : Transition} {target : State}
    (found : renderer.machine.transition? index = some edge)
    (foundTarget : renderer.machine.state? edge.target = some target) :
    renderer.transition index = .ok (renderer.edgeRecord edge target) := by
  rw [Renderer.transition, edge_eq_ok.mpr found, ok_bind, lookup_eq_ok.mpr foundTarget]
  rfl

theorem targetsFinal_of_found {index : TransitionIndex} {edge : Transition} {target : State}
    (found : renderer.machine.transition? index = some edge)
    (foundTarget : renderer.machine.state? edge.target = some target) :
    renderer.targetsFinal index = .ok target.isFinal := by
  rw [targetsFinal, edge_eq_ok.mpr found, ok_bind, lookup_eq_ok.mpr foundTarget]
  rfl

theorem edgeRecord_holds {index : StateIndex} (edge : Transition) {target : State}
    (foundTarget : renderer.machine.state? index = some target) :
    Record.Holds renderer.machine.stateIds [renderer.edgeRecord edge target] [edge.id] := by
  have known : target.id ∈ renderer.machine.stateIds :=
    List.mem_map_of_mem (List.mem_of_getElem? foundTarget)
  apply Record.Holds.node
  case own =>
    intro ref member
    unfold edgeRecord at member
    cases final : target.isFinal with
    | true => simp [final, Dictionary.empty] at member
    | false =>
        simp only [final] at member
        cases List.mem_singleton.mp member
        exact known
  case below => exact Record.holds_nil _

/-- The transitions of a state are rendered, each of them in one of two lists. -/
theorem partition_renders (adjacent : renderer.machine.Adjacent) {indices : List TransitionIndex}
    (inRange : ∀ index ∈ indices, index < renderer.machine.transitions.length) :
    ∃ others finals, renderer.partition indices = .ok (others, finals) ∧
      Record.Holds renderer.machine.stateIds (finals ++ others)
        (indices.map renderer.machine.transitionId) := by
  induction indices with
  | nil => exact ⟨[], [], rfl, Record.holds_nil _⟩
  | cons index indices induction =>
      rcases induction (fun later member => inRange later (List.mem_cons_of_mem _ member)) with
        ⟨others, finals, rendered, holds⟩
      have bound := inRange index List.mem_cons_self
      have found : renderer.machine.transition? index = some renderer.machine.transitions[index] :=
        List.getElem?_eq_getElem bound
      have endpoints := adjacent.endpoints _ (List.getElem_mem bound)
      rcases Machine.exists_state? endpoints.2 with ⟨target, foundTarget⟩
      let record := renderer.edgeRecord renderer.machine.transitions[index] target
      have sameId : renderer.machine.transitionId index = renderer.machine.transitions[index].id := by
        rw [Machine.transitionId, found]
        rfl
      have all : Record.Holds renderer.machine.stateIds (record :: (finals ++ others))
          ((index :: indices).map renderer.machine.transitionId) := by
        rw [List.map_cons, sameId]
        exact (edgeRecord_holds _ foundTarget).append holds
      rw [partition, transition_of_found found foundTarget, ok_bind,
        targetsFinal_of_found found foundTarget, ok_bind, rendered, ok_bind]
      cases target.isFinal with
      | true => exact ⟨others, record :: finals, rfl, all⟩
      | false =>
          exact ⟨record :: others, finals, rfl, all.reorder List.perm_middle (.refl _)⟩

theorem outgoing_renders (adjacent : renderer.machine.Adjacent) {index : StateIndex} {state : State}
    (found : renderer.machine.state? index = some state) :
    ∃ others finals, renderer.partition state.outgoing = .ok (others, finals) ∧
      Record.Holds renderer.machine.stateIds (finals ++ others)
        (state.outgoing.map renderer.machine.transitionId) :=
  partition_renders adjacent fun _ member =>
    adjacent.lt_length_of_listed found (List.mem_append_left _ member)

/-! ## States -/

/-- The record of a state over the records of what it owns. -/
def stateRecord (state : State) (others finals : List Record) : Record where
  id := state.id
  kind := stateType
  attributes := .ofList [("name", .ofOption .text state.name)]
  children := [("final transitions", .many finals), ("transitions", .many others)]
  location := state.location

def compositeRecord (state target : State) (others finals states : List Record) : Record :=
  { stateRecord state others finals with
    children := [("final transitions", .many finals), ("states", .many states),
      ("transitions", .many others)]
    refs := .ofList [("initialState", target.id)] }

theorem stateWithin_simple {index : StateIndex} {state : State} {others finals : List Record}
    (found : renderer.machine.state? index = some state) (simple : state.isComposite = false)
    (rendered : renderer.partition state.outgoing = .ok (others, finals)) (levels : Nat) :
    renderer.stateWithin (levels + 1) index = .ok (stateRecord state others finals) := by
  rw [stateWithin, lookup_eq_ok.mpr found, ok_bind]
  cases kind : state.kind with
  | simple =>
      rw [entry, kind]
      simp only [ok_bind, rendered]
      rfl
  | composite children initial => simp [State.isComposite, kind] at simple

section Entered

variable {index : StateIndex} {state target : State} {initial : InitialState}
  {others finals : List Record} {levels : Nat}
  (found : renderer.machine.state? index = some state) (entered : state.initial = some initial)
  (foundTarget : renderer.machine.state? initial.target = some target)
  (rendered : renderer.partition state.outgoing = .ok (others, finals))
include found entered foundTarget rendered

/-- Whether a composite that is entered is rendered depends on the states inside it. -/
theorem stateWithin_entered :
    renderer.stateWithin (levels + 1) index = compositeRecord state target others finals <$>
      state.children.mapM (renderer.stateWithin levels) := by
  rw [stateWithin, lookup_eq_ok.mpr found, ok_bind]
  cases kind : state.kind with
  | simple => simp [State.initial, kind] at entered
  | composite children given =>
      simp only [State.initial, kind] at entered
      subst entered
      rw [entry, kind]
      simp only [ok_bind, rendered, lookup_eq_ok.mpr foundTarget]
      cases state.children.mapM (renderer.stateWithin levels) <;> rfl

theorem stateWithin_composite {states : List Record}
    (renderedStates : state.children.mapM (renderer.stateWithin levels) = .ok states) :
    renderer.stateWithin (levels + 1) index =
      .ok (compositeRecord state target others finals states) := by
  rw [stateWithin_entered found entered foundTarget rendered, renderedStates, map_ok]

end Entered

theorem parts_stateRecord (state : State) (others finals : List Record) :
    (stateRecord state others finals).parts = finals ++ others := by
  simp [Record.parts, stateRecord, Child.toList]

theorem parts_compositeRecord (state target : State) (others finals states : List Record) :
    (compositeRecord state target others finals states).parts = finals ++ (states ++ others) := by
  simp [Record.parts, compositeRecord, Child.toList]

variable {known : List String} {ids stateIds : List String}

theorem stateRecord_holds (state : State) {others finals : List Record}
    (owned : Record.Holds known (finals ++ others) ids) :
    Record.Holds known [stateRecord state others finals] (state.id :: ids) := by
  apply Record.Holds.node
  case own =>
    intro ref member
    cases member
  case below =>
    rw [parts_stateRecord]
    exact owned

theorem compositeRecord_holds (state : State) {target : State} (targetKnown : target.id ∈ known)
    {others finals states : List Record} (owned : Record.Holds known (finals ++ others) ids)
    (below : Record.Holds known states stateIds) :
    Record.Holds known [compositeRecord state target others finals states]
      (state.id :: (ids ++ stateIds)) := by
  apply Record.Holds.node
  case own =>
    intro ref member
    cases List.mem_singleton.mp member
    exact targetKnown
  case below =>
    have reordered : (finals ++ (states ++ others)).Perm ((finals ++ others) ++ states) := by
      rw [List.append_assoc]
      exact List.perm_append_comm.append_left finals
    rw [parts_compositeRecord]
    exact (owned.append below).reorder reordered (.refl _)

/-- Rendering a list of states that can be rendered one by one. -/
theorem mapM_renders {render : StateIndex → Except TreeError Record}
    {idsOf : StateIndex → List String} {indices : List StateIndex}
    (each : ∀ index ∈ indices, ∃ record, render index = .ok record ∧
      Record.Holds known [record] (idsOf index)) :
    ∃ records, indices.mapM render = .ok records ∧
      Record.Holds known records (indices.flatMap idsOf) := by
  induction indices with
  | nil => exact ⟨[], rfl, Record.holds_nil known⟩
  | cons index indices induction =>
      rcases each index List.mem_cons_self with ⟨record, rendered, holds⟩
      rcases induction (fun later member => each later (List.mem_cons_of_mem _ member)) with
        ⟨records, renderedLater, holdsLater⟩
      refine ⟨record :: records, ?_, holds.append holdsLater⟩
      rw [List.mapM_cons, rendered, ok_bind, renderedLater]
      rfl

section Machine

variable {deepest : Nat} (contained : renderer.machine.Contained)
  (adjacent : renderer.machine.Adjacent) (entered : renderer.machine.Entered)
  (depths : ∀ index < renderer.machine.states.length, renderer.machine.depth index ≤ deepest)
include contained adjacent entered depths

/-- With a level for each one that may lie below a state its record is made, and it
holds the ids of its subtree. -/
theorem stateWithin_renders (levels : Nat) {index : StateIndex}
    (inRange : index < renderer.machine.states.length)
    (enough : deepest < levels + renderer.machine.depth index) :
    ∃ record, renderer.stateWithin levels index = .ok record ∧
      Record.Holds renderer.machine.stateIds [record]
        ((renderer.machine.subtree levels index).flatMap renderer.machine.ownedIds) := by
  induction levels generalizing index with
  | zero =>
      have shallow := depths index inRange
      omega
  | succ levels induction =>
      rcases Machine.exists_state? inRange with ⟨state, found⟩
      rcases outgoing_renders adjacent found with ⟨others, finals, rendered, owned⟩
      rw [Machine.subtree, List.flatMap_cons, Machine.ownedIds_of_state? found,
        Machine.childrenOf_of_state? found]
      cases composite : state.isComposite with
      | false =>
          refine ⟨_, stateWithin_simple found composite rendered levels, ?_⟩
          rw [State.children_of_simple composite]
          simpa using stateRecord_holds state owned
      | true =>
          rcases entered.exists_initial found composite with ⟨initial, set⟩
          have targetInside := (contained.entered_child found set).1
          rcases Machine.exists_state? (contained.lt_length targetInside) with ⟨target, foundTarget⟩
          have targetKnown : target.id ∈ renderer.machine.stateIds :=
            List.mem_map_of_mem (List.mem_of_getElem? foundTarget)
          have each : ∀ child ∈ state.children, ∃ record,
              renderer.stateWithin levels child = .ok record ∧
                Record.Holds renderer.machine.stateIds [record]
                  ((renderer.machine.subtree levels child).flatMap renderer.machine.ownedIds) := by
            intro child member
            rw [← Machine.childrenOf_of_state? found] at member
            have deeper := contained.depth_child member
            exact induction (contained.lt_length member) (by omega)
          rcases mapM_renders each with ⟨states, renderedStates, below⟩
          refine ⟨_, stateWithin_composite found set foundTarget rendered renderedStates, ?_⟩
          rw [List.flatMap_assoc]
          exact compositeRecord_holds state targetKnown owned below

omit adjacent entered depths in
theorem initialId_renders : ∃ id, renderer.initialId = .ok id ∧
    (id = "" ∨ id ∈ renderer.machine.stateIds) := by
  rw [initialId]
  cases initial : renderer.machine.initial with
  | none => exact ⟨"", rfl, .inl rfl⟩
  | some initial =>
      have atTop := (contained.entered_topLevel initial).1
      rcases Machine.exists_state? (contained.lt_length atTop) with ⟨target, found⟩
      refine ⟨target.id, ?_, .inr (List.mem_map_of_mem (List.mem_of_getElem? found))⟩
      simp only [lookup_eq_ok.mpr found, map_ok]

/-- With levels for the deepest state the whole machine is rendered: its record holds
each of its ids once, and refers to states of it or, by an empty id, to nothing. -/
theorem stateMachine_renders (enough : deepest ≤ renderer.maxDepth) :
    ∃ root, renderer.stateMachine = .ok root ∧
      Record.Holds ("" :: renderer.machine.stateIds) [root] renderer.machine.ids := by
  have each : ∀ index ∈ renderer.machine.topLevel, ∃ record,
      renderer.stateWithin (renderer.maxDepth + 1) index = .ok record ∧
        Record.Holds renderer.machine.stateIds [record]
          ((renderer.machine.subtree (renderer.maxDepth + 1) index).flatMap
            renderer.machine.ownedIds) := by
    intro index member
    apply stateWithin_renders contained adjacent entered depths
    · exact contained.lt_length (show index ∈ renderer.machine.childrenOf none from member)
    · omega
  rcases mapM_renders each with ⟨states, rendered, holds⟩
  rcases initialId_renders contained with ⟨initialId, found, known⟩
  rw [stateMachine]
  simp only [rendered, found, ok_bind]
  refine ⟨_, rfl, ?_⟩
  have allStates := contained.subtrees_perm fun index inRange =>
    Nat.le_trans (depths index inRange) enough
  have allIds : (renderer.machine.id :: renderer.machine.topLevel.flatMap fun index =>
      (renderer.machine.subtree (renderer.maxDepth + 1) index).flatMap
        renderer.machine.ownedIds).Perm renderer.machine.ids := by
    rw [← List.flatMap_assoc]
    exact ((allStates.flatMap_right _).cons _).trans adjacent.ownedIds_perm
  have below : Record.Holds ("" :: renderer.machine.stateIds) states _ :=
    holds.weaken fun id member => List.mem_cons_of_mem _ member
  refine (Record.Holds.node ?_ ?_).reorder (.refl _) allIds
  case refine_1 =>
    intro ref member
    cases List.mem_singleton.mp member
    exact List.mem_cons.mpr known
  case refine_2 => simpa [Record.parts, Child.toList] using below

end Machine

end Renderer

namespace Record

/-- What holds different ids and refers to none but these is accepted as a response. -/
theorem Holds.checkResponse_eq_ok {root : Record} {known ids : List String}
    (holds : Holds ("" :: known) [root] ids) (distinct : ids.Nodup)
    (included : ∀ id ∈ known, id ∈ ids) : root.checkResponse = .ok () := by
  have sameIds := holds.ids
  rw [List.flatMap_singleton] at sameIds
  rw [Record.checkResponse_eq_ok]
  constructor
  · exact sameIds.nodup_iff.mpr distinct
  · intro record member ref inRefs
    have isKnown := holds.refs record (by rwa [List.flatMap_singleton]) ref inRefs
    rcases List.mem_cons.mp isKnown with empty | named
    · exact .inl empty
    · exact .inr (sameIds.mem_iff.mpr (included _ named))

end Record

end Statechart
