import Statechart.Proofs.Record.Faithful
import Statechart.Proofs.Record.Refusal

/-!
Excerpts. A state or a transition can be rendered on its own. A state is then
rendered with the levels that its depth leaves of the ceiling, and as many are left
where the rendering of the machine comes to it. So what is rendered alone is the
record that stands in the tree of the machine, with everything below it.
-/

namespace Statechart

namespace Record

theorem mem_preorder_self (record : Record) : record ∈ record.preorder := by
  rw [preorder_eq_cons]
  exact List.mem_cons_self

theorem preorder_subset_of_part {record part : Record} (isPart : part ∈ record.parts) :
    part.preorder ⊆ record.preorder := by
  rw [preorder_eq_cons record]
  exact fun _ inPart => List.mem_cons_of_mem _ (List.mem_flatMap.mpr ⟨part, isPart, inPart⟩)

/-- Where all ids are different, a record is the only one with its id. -/
theorem filter_id_eq_singleton {records : List Record} (distinct : (records.map (·.id)).Nodup)
    {record : Record} (member : record ∈ records) :
    (records.filter fun other => other.id = record.id) = [record] := by
  induction records with
  | nil => cases member
  | cons head rest induction =>
      rcases List.nodup_cons.mp distinct with ⟨notRepeated, distinctRest⟩
      rcases List.mem_cons.mp member with rfl | inRest
      · have noneLater : (rest.filter fun other => other.id = record.id) = [] := by
          refine List.filter_eq_nil_iff.mpr fun other later same => notRepeated ?_
          exact List.mem_map.mpr ⟨other, later, of_decide_eq_true same⟩
        rw [List.filter_cons_of_pos (by simp), noneLater]
      · have different : head.id ≠ record.id := fun same =>
          notRepeated (List.mem_map.mpr ⟨record, inRest, same.symm⟩)
        rw [List.filter_cons_of_neg (by simpa using different), induction distinctRest inRest]

end Record

namespace Renderer

open Machine

variable {renderer : Renderer}

/-! ## Levels from above and from below -/

theorem state_eq_stateWithin {levels : Nat} {index : StateIndex}
    (level : levels + renderer.machine.depth index = renderer.maxDepth + 1) :
    renderer.state index = renderer.stateWithin levels index := by
  rw [state, ← level, Nat.add_sub_cancel]

theorem state_topLevel (contained : renderer.machine.Contained) {index : StateIndex}
    (atTop : index ∈ renderer.machine.topLevel) :
    renderer.state index = renderer.stateWithin (renderer.maxDepth + 1) index :=
  state_eq_stateWithin (by rw [contained.depth_eq_zero atTop, Nat.add_zero])

/-! ## What stands in a tree of records -/

/-- Among the records are those that a state and its outgoing transitions have when they
are rendered on their own. -/
structure Excerpts (renderer : Renderer) (records : List Record) (index : StateIndex) : Prop where
  state : ∃ record ∈ records, renderer.state index = .ok record
  transitions : ∀ {state}, renderer.machine.state? index = some state →
    ∀ outgoing ∈ state.outgoing, ∃ record ∈ records, renderer.transition outgoing = .ok record

theorem Excerpts.weaken {records others : List Record} {index : StateIndex}
    (excerpts : renderer.Excerpts records index) (included : records ⊆ others) :
    renderer.Excerpts others index where
  state := by
    rcases excerpts.state with ⟨record, member, rendered⟩
    exact ⟨record, included member, rendered⟩
  transitions := by
    intro state found outgoing leaves
    rcases excerpts.transitions found outgoing leaves with ⟨record, member, rendered⟩
    exact ⟨record, included member, rendered⟩

theorem mem_of_partition {indices : List TransitionIndex} {others finals : List Record}
    (partitioned : renderer.partition indices = .ok (others, finals)) :
    ∀ index ∈ indices, ∃ record ∈ finals ++ others, renderer.transition index = .ok record := by
  induction indices generalizing others finals with
  | nil => exact fun _ member => nomatch member
  | cons head rest induction =>
      rcases bind_eq_ok.mp partitioned with ⟨record, rendered, later⟩
      rcases bind_eq_ok.mp later with ⟨isFinal, -, later⟩
      rcases bind_eq_ok.mp later with ⟨⟨laterOthers, laterFinals⟩, partitionedRest, same⟩
      have both : record ∈ finals ++ others ∧ laterFinals ++ laterOthers ⊆ finals ++ others := by
        cases isFinal <;> cases pure_eq_ok.mp same <;> simp
      intro index member
      rcases List.mem_cons.mp member with rfl | inRest
      · exact ⟨record, both.1, rendered⟩
      · rcases induction partitionedRest index inRest with ⟨other, inLater, renderedToo⟩
        exact ⟨other, both.2 inLater, renderedToo⟩

/-- The record of a state has an excerpt for every state in its subtree. -/
theorem stateWithin_excerpts (contained : renderer.machine.Contained) {levels : Nat}
    {index : StateIndex} {record : Record}
    (level : levels + renderer.machine.depth index = renderer.maxDepth + 1)
    (rendered : renderer.stateWithin levels index = .ok record) :
    ∀ inner ∈ renderer.machine.subtree levels index,
      renderer.Excerpts record.preorder inner := by
  induction levels generalizing index record with
  | zero => cases rendered
  | succ levels induction =>
      have alone := (state_eq_stateWithin level).trans rendered
      rcases stateWithin_eq_ok rendered with ⟨state, others, finals, found, partitioned, shape⟩
      -- The record itself and those of its transitions, whichever of the two shapes it has.
      have own : finals ++ others ⊆ record.parts → renderer.Excerpts record.preorder index := by
        intro owned
        refine ⟨⟨record, record.mem_preorder_self, alone⟩, fun foundAgain outgoing leaves => ?_⟩
        cases found.symm.trans foundAgain
        rcases mem_of_partition partitioned outgoing leaves with ⟨edge, member, renderedEdge⟩
        exact ⟨edge, Record.preorder_subset_of_part (owned member) edge.mem_preorder_self,
          renderedEdge⟩
      intro inner member
      rw [subtree, childrenOf_of_state? found] at member
      rcases shape with ⟨simple, rfl⟩ | ⟨-, initial, target, states, -, -, renderedStates, rfl⟩
      · rw [State.children_of_simple simple] at member
        cases List.mem_singleton.mp member
        exact own (by rw [parts_stateRecord]; exact fun _ isPart => isPart)
      · rcases List.mem_cons.mp member with rfl | below
        · apply own
          rw [parts_compositeRecord]
          intro edge isPart
          rcases List.mem_append.mp isPart with inFinals | inOthers
          · exact List.mem_append_left _ inFinals
          · exact List.mem_append_right _ (List.mem_append_right _ inOthers)
        · rcases List.mem_flatMap.mp below with ⟨child, isChild, inChild⟩
          rcases exists_right (mapM_eq_ok.mp renderedStates) isChild with
            ⟨childRecord, inStates, renderedChild⟩
          have inside : child ∈ renderer.machine.childrenOf (some index) := by
            rwa [childrenOf_of_state? found]
          have deeper := contained.depth_child inside
          have isPart : childRecord ∈
              (compositeRecord state target others finals states).parts := by
            rw [parts_compositeRecord]
            exact List.mem_append_right _ (List.mem_append_left _ inStates)
          exact (induction (by omega) renderedChild inner inChild).weaken
            (Record.preorder_subset_of_part isPart)

/-- The record of a machine has an excerpt for every state. -/
theorem stateMachine_excerpts (contained : renderer.machine.Contained)
    (adjacent : renderer.machine.Adjacent) {root : Record}
    (rendered : renderer.stateMachine = .ok root) {index : StateIndex}
    (inRange : index < renderer.machine.states.length) :
    renderer.Excerpts root.preorder index := by
  have accepted : errorOf? renderer.stateMachine = none := errorOf?_eq_none.mpr ⟨root, rendered⟩
  rw [errorOf?_stateMachine contained adjacent, contained.findSome?_renderDefect_eq_none] at accepted
  have listed := (contained.subtrees_perm accepted.2).mem_iff.mpr (List.mem_range.mpr inRange)
  rcases List.mem_flatMap.mp listed with ⟨top, atTop, below⟩
  rcases bind_eq_ok.mp rendered with ⟨states, renderedStates, rest⟩
  rcases bind_eq_ok.mp rest with ⟨entered, -, same⟩
  have isRoot : machineRecord renderer.machine entered states = root := pure_eq_ok.mp same
  rcases exists_right (mapM_eq_ok.mp renderedStates) atTop with ⟨record, inStates, renderedTop⟩
  have isPart : record ∈ root.parts := by rwa [← isRoot, parts_machineRecord]
  have level : renderer.maxDepth + 1 + renderer.machine.depth top = renderer.maxDepth + 1 := by
    rw [contained.depth_eq_zero atTop, Nat.add_zero]
  exact (stateWithin_excerpts contained level renderedTop index below).weaken
    (Record.preorder_subset_of_part isPart)

/-- A machine whose top level can be rendered state by state can be rendered. -/
theorem stateMachine_of_states (contained : renderer.machine.Contained)
    (each : ∀ index ∈ renderer.machine.topLevel, ∃ record, renderer.state index = .ok record) :
    ∃ root, renderer.stateMachine = .ok root ∧
      List.Forall₂ (fun index record => renderer.state index = .ok record)
        renderer.machine.topLevel (root.childrenOf "states") := by
  have noError : errorOf? (renderer.machine.topLevel.mapM renderer.state) = none := by
    rw [errorOf?_mapM, List.findSome?_eq_none_iff]
    exact fun index atTop => errorOf?_eq_none.mpr (each index atTop)
  rcases errorOf?_eq_none.mp noError with ⟨states, renderedStates⟩
  have related := mapM_eq_ok.mp renderedStates
  have renderedTop : renderer.machine.topLevel.mapM
      (renderer.stateWithin (renderer.maxDepth + 1)) = .ok states := by
    rw [← renderedStates]
    exact mapM_congr fun index atTop => (state_topLevel contained atTop).symm
  rcases initialId_renders contained with ⟨entered, looked, -⟩
  refine ⟨machineRecord renderer.machine entered states, ?_, related⟩
  rw [stateMachine]
  simp only [renderedTop, looked, ok_bind]
  rfl

end Renderer

namespace Machine

/-- Where the machine can be rendered, so can each of its states and transitions on its own,
and gives the only record with its id in the tree of the machine. Where each state of the top
level can be rendered, so can the machine, and lists what they give. -/
theorem Grown.rendering_excerpts {machine : Machine} {given : Nat} (grown : machine.Grown given)
    (room : given ≤ 2 ^ 64) (configuration : Configuration) :
    let renderer := Renderer.ofConfiguration machine configuration
    (∀ root, renderer.stateMachine = .ok root →
      (∀ index state, machine.state? index = some state →
        ∃ record, renderer.state index = .ok record ∧
          (root.preorder.filter fun other => other.id = state.id) = [record]) ∧
      ∀ index transition, machine.transition? index = some transition →
        ∃ record, renderer.transition index = .ok record ∧
          (root.preorder.filter fun other => other.id = transition.id) = [record]) ∧
    ((∀ index ∈ machine.topLevel, ∃ record, renderer.state index = .ok record) →
      ∃ root, renderer.stateMachine = .ok root ∧
        List.Forall₂ (fun index record => renderer.state index = .ok record) machine.topLevel
          (root.childrenOf "states")) := by
  intro renderer
  have contained := grown.reachable.contained
  have adjacent := grown.reachable.adjacent
  refine ⟨fun root rendered => ⟨?_, ?_⟩, @Renderer.stateMachine_of_states renderer contained⟩
  case refine_1 =>
    intro index state found
    have excerpts := Renderer.stateMachine_excerpts contained adjacent rendered (lt_of_state? found)
    rcases excerpts.state with ⟨record, member, alone⟩
    have id : record.id = state.id :=
      (Renderer.stateWithin_shows _ alone).2.2.trans (stateId_of_state? found)
    refine ⟨record, alone, ?_⟩
    rw [← id]
    exact Record.filter_id_eq_singleton (grown.portrays room rendered).distinct member
  case refine_2 =>
    intro index transition found
    have source := (adjacent.endpoints transition (List.mem_of_getElem? found)).1
    rcases exists_state? source with ⟨state, foundSource⟩
    have leaves : index ∈ state.outgoing := by
      rw [adjacent.outgoing foundSource, mem_transitionsWhere]
      exact ⟨transition, found, beq_self_eq_true _⟩
    have excerpts := Renderer.stateMachine_excerpts contained adjacent rendered source
    rcases excerpts.transitions foundSource index leaves with ⟨record, member, alone⟩
    have id : record.id = transition.id :=
      (Renderer.transition_shows alone).id.trans (transitionId_of_transition? found)
    refine ⟨record, alone, ?_⟩
    rw [← id]
    exact Record.filter_id_eq_singleton (grown.portrays room rendered).distinct member

/-- A state as deep as the ceiling allows, with a transition to a final state, and a ceiling
that is too low for the state on its own and for the machine. -/
theorem rendering_excerpts_gate :
    let machine := ((Construction.start "gate" none ⟨7⟩).run [
      .addComposite (some "closed") none none, .addSimple (some "locked") (some 0) false none,
      .addSimple (some "open") none true none, .setCompositeInitial 0 1, .setInitial 0,
      .connect 1 2 (some "pull") none none]).2.machine
    let renderer := Renderer.ofConfiguration machine { maxDepth := 1 }
    (∃ root locked pull, renderer.stateMachine = .ok root ∧
      renderer.state 1 = .ok locked ∧ renderer.transition 0 = .ok pull ∧
      (root.preorder.filter fun other => other.id = "state-9") = [locked] ∧
      (root.preorder.filter fun other => other.id = "transition-11") = [pull]) ∧
    (Renderer.ofConfiguration machine { maxDepth := 0 }).state 1 = .error (.recursionLimit 0) := by
  intro machine renderer
  have grown : machine.Grown (7 + 5) := Construction.grown_run "gate" none ⟨7⟩ _
  have excerpts := grown.rendering_excerpts (by decide) { maxDepth := 1 }
  have rendered : renderer.stateMachine = .ok _ := rfl
  rcases excerpts.1 _ rendered with ⟨states, transitions⟩
  rcases states 1 _ rfl with ⟨locked, alone, only⟩
  rcases transitions 0 _ rfl with ⟨pull, aloneToo, onlyToo⟩
  exact ⟨⟨_, locked, pull, rendered, alone, aloneToo, only, onlyToo⟩, rfl⟩

end Machine

end Statechart
