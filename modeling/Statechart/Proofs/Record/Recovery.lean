import Statechart.Proofs.Record.Faithful

/-!
Recovery. What the record of a machine tells is enough to make the machine again,
apart from the ceiling on its nesting and from its final states: a record tells
which transitions end the execution but not where they lead.
-/

namespace Statechart

/-! ## What records tell -/

theorem attributeOfOption_injective {first second : Option String}
    (same : Attribute.ofOption .text first = Attribute.ofOption .text second) : first = second := by
  cases first <;> cases second <;> cases same <;> rfl

theorem nameAttributes_injective {first second : Attribute}
    (same : Dictionary.ofList [("name", first)] = Dictionary.ofList [("name", second)]) :
    first = second := by
  have looked := congrArg (Dictionary.get? · "name") same
  simpa [Dictionary.ofList] using looked

/-- The texts of a transition can be read from its attributes, also when it is not known
how the key of the output is spelt. -/
theorem edgeAttributes_injective {first second : OutputAttribute}
    {input output otherInput otherOutput : Option String}
    (same : Dictionary.ofList [("input", Attribute.ofOption .text input),
        (first.key, Attribute.ofOption .text output)] =
      Dictionary.ofList [("input", Attribute.ofOption .text otherInput),
        (second.key, Attribute.ofOption .text otherOutput)]) :
    input = otherInput ∧ output = otherOutput := by
  have inputs := congrArg (Dictionary.get? · "input") same
  have outputs := congrArg (Dictionary.get? · first.key) same
  cases first <;> cases second <;>
    simp [Dictionary.ofList, OutputAttribute.key] at inputs outputs
  case legacy.legacy | corrected.corrected =>
    exact ⟨attributeOfOption_injective inputs, attributeOfOption_injective outputs⟩

/-- Positions with the same ids in a list of different ids. -/
theorem positions_eq {ids : List String} (distinct : ids.Nodup) {first second : List Nat}
    (firstInRange : ∀ position ∈ first, position < ids.length)
    (secondInRange : ∀ position ∈ second, position < ids.length)
    (same : first.map (fun position => ids[position]?.getD "") =
      second.map fun position => ids[position]?.getD "") : first = second := by
  have found : ∀ positions : List Nat, (∀ position ∈ positions, position < ids.length) →
      (positions.map fun position => ids[position]?.getD "").map ids.idxOf = positions := by
    intro positions inRange
    rw [List.map_map]
    calc
      _ = positions.map id := by
        apply List.map_congr_left
        intro position member
        have bound := inRange position member
        simp [bound, distinct.idxOf_getElem]
      _ = positions := List.map_id positions
  rw [← found first firstInRange, same, found second secondInRange]

theorem State.kind_eq {state other : State} (composite : state.isComposite = other.isComposite)
    (children : state.children = other.children) (initial : state.initial = other.initial) :
    state.kind = other.kind := by
  unfold State.isComposite at composite
  unfold State.children at children
  unfold State.initial at initial
  cases first : state.kind <;> cases second : other.kind <;> simp_all

namespace Machine

/-! ## What two machines with one record share -/

/-- A transition as it can be seen: without its target where that is final. -/
structure Arrow where
  id : String
  source : StateIndex
  target : Option StateIndex
  input : Option String
  output : Option String
  location : Option Location

def arrow (machine : Machine) (transition : Transition) : Arrow where
  id := transition.id
  source := transition.source
  target := if (machine.state? transition.target).any (·.isFinal) then none
    else some transition.target
  input := transition.input
  output := transition.output
  location := transition.location

/-- A state as it can be seen: what enters it and whether it is final is told by the
transitions. -/
def plain (state : State) : State :=
  { state with isFinal := false, incoming := [] }

/-- Two machines that no record tells apart. -/
structure Alike (machine other : Machine) : Prop where
  id : machine.id = other.id
  name : machine.name = other.name
  location : machine.location = other.location
  initial : machine.initial = other.initial
  topLevel : machine.topLevel = other.topLevel
  states : machine.states.map plain = other.states.map plain
  transitions : machine.transitions.map machine.arrow = other.transitions.map other.arrow

theorem filter_elements_state (machine : Machine) :
    machine.elements.filter (·.typeTag = stateType) =
      (List.range machine.states.length).map .state := by
  have ofStates : ∀ index, decide ((Element.state index).typeTag = stateType) = true :=
    fun _ => rfl
  have ofTransitions : ∀ index, decide ((Element.transition index).typeTag = stateType) = false :=
    fun _ => rfl
  have ofMachine : decide (Element.machine.typeTag = stateType) = false := rfl
  simp [elements, List.filter_append, List.filter_map, Function.comp_def,
    ofStates, ofTransitions, ofMachine]

theorem filter_elements_transition (machine : Machine) :
    machine.elements.filter (·.typeTag = transitionType) =
      (List.range machine.transitions.length).map .transition := by
  have ofStates : ∀ index, decide ((Element.state index).typeTag = transitionType) = false :=
    fun _ => rfl
  have ofTransitions : ∀ index,
      decide ((Element.transition index).typeTag = transitionType) = true := fun _ => rfl
  have ofMachine : decide (Element.machine.typeTag = transitionType) = false := rfl
  simp [elements, List.filter_append, List.filter_map, Function.comp_def,
    ofStates, ofTransitions, ofMachine]

theorem map_id_filter_of_shows {machine : Machine} {outputKey : String} {order : List Element}
    {records : List Record} (related : List.Forall₂ (machine.Shows outputKey) order records)
    (tag : String) :
    (records.filter (·.kind = tag)).map (·.id) =
      (order.filter (·.typeTag = tag)).map machine.idOf := by
  induction related with
  | nil => rfl
  | @cons element record _ _ first _ induction =>
      rw [List.filter_cons, List.filter_cons, first.kind]
      by_cases tagged : element.typeTag = tag
      · rw [if_pos (decide_eq_true tagged), if_pos (decide_eq_true tagged), List.map_cons,
          List.map_cons, first.id, induction]
      · rw [if_neg (by simpa using tagged), if_neg (by simpa using tagged), induction]

theorem Portrays.filtered {machine : Machine} {outputKey : String} {root : Record}
    (portrays : machine.Portrays outputKey root) (tag : String) :
    ((root.preorder.filter (·.kind = tag)).map (·.id)).Perm
      ((machine.elements.filter (·.typeTag = tag)).map machine.idOf) := by
  rcases portrays.each with ⟨order, same, related⟩
  rw [map_id_filter_of_shows related]
  exact (same.filter _).map _

section Comparison

variable {machine other : Machine} {given otherGiven : Nat}
  {spelling otherSpelling : OutputAttribute} {root : Record}

/-- What is known of a machine that has its ids from a source and has been rendered. -/
structure Rendered (machine : Machine) (given : Nat) (spelling : OutputAttribute) (root : Record) :
    Prop where
  contained : machine.Contained
  adjacent : machine.Adjacent
  numbered : machine.Numbered given
  portrays : machine.Portrays spelling.key root

variable (rendered : machine.Rendered given spelling root)
  (renderedToo : other.Rendered otherGiven otherSpelling root)
include rendered renderedToo

/-- The ids of states, sorted by number, are those of the records of states. -/
theorem Rendered.stateIds_eq : machine.states.map (·.id) = other.states.map (·.id) := by
  have same := (rendered.portrays.filtered stateType).symm.trans
    (renderedToo.portrays.filtered stateType)
  rw [filter_elements_state, filter_elements_state, List.map_map, List.map_map] at same
  change ((List.range _).map machine.stateId).Perm ((List.range _).map other.stateId) at same
  rw [map_stateId_range, map_stateId_range] at same
  exact same.eq_of_pairwise (fun _ _ _ _ less more => absurd less (Nat.lt_asymm more))
    rendered.numbered.states renderedToo.numbered.states

theorem Rendered.transitionIds_eq :
    machine.transitions.map (·.id) = other.transitions.map (·.id) := by
  have same := (rendered.portrays.filtered transitionType).symm.trans
    (renderedToo.portrays.filtered transitionType)
  rw [filter_elements_transition, filter_elements_transition, List.map_map, List.map_map] at same
  change ((List.range _).map machine.transitionId).Perm ((List.range _).map other.transitionId)
    at same
  rw [map_transitionId_range, map_transitionId_range] at same
  exact same.eq_of_pairwise (fun _ _ _ _ less more => absurd less (Nat.lt_asymm more))
    rendered.numbered.transitions renderedToo.numbered.transitions

theorem Rendered.length_states : machine.states.length = other.states.length := by
  simpa using congrArg List.length (rendered.stateIds_eq renderedToo)

theorem Rendered.length_transitions : machine.transitions.length = other.transitions.length := by
  simpa using congrArg List.length (rendered.transitionIds_eq renderedToo)

theorem Rendered.elements_eq : machine.elements = other.elements := by
  rw [elements, elements, rendered.length_states renderedToo,
    rendered.length_transitions renderedToo]

theorem Rendered.id_eq : machine.id = other.id :=
  rendered.portrays.head.id.symm.trans renderedToo.portrays.head.id

theorem Rendered.idOf_eq (element : Element) : machine.idOf element = other.idOf element := by
  cases element with
  | machine => exact rendered.id_eq renderedToo
  | state index =>
      rw [idOf, idOf, stateId_eq_getElem, stateId_eq_getElem, rendered.stateIds_eq renderedToo]
  | transition index =>
      rw [idOf, idOf, transitionId_eq_getElem, transitionId_eq_getElem,
        rendered.transitionIds_eq renderedToo]

/-- One record shows an element of both. -/
theorem Rendered.common {element : Element} (member : element ∈ machine.elements) :
    ∃ record ∈ root.preorder, machine.Shows spelling.key element record ∧
      other.Shows otherSpelling.key element record := by
  rcases rendered.portrays.exists_shows member with ⟨record, inRoot, shows_⟩
  refine ⟨record, inRoot, shows_, renderedToo.portrays.shows_of_id ?_ inRoot ?_⟩
  · rwa [← rendered.elements_eq renderedToo]
  · rw [shows_.id, rendered.idOf_eq renderedToo]

/-! ### Positions -/

theorem Rendered.stateIndices_eq {first second : List StateIndex}
    (firstInRange : ∀ index ∈ first, index < machine.states.length)
    (secondInRange : ∀ index ∈ second, index < other.states.length)
    (same : first.map machine.stateId = second.map other.stateId) : first = second := by
  have distinct : (machine.states.map (·.id)).Nodup :=
    (List.nodup_append.mp (List.nodup_cons.mp rendered.numbered.distinct).2).1
  rw [stateId_eq_getElem, stateId_eq_getElem, ← rendered.stateIds_eq renderedToo] at same
  refine positions_eq distinct ?_ ?_ same
  · simpa using firstInRange
  · simpa [rendered.length_states renderedToo] using secondInRange

theorem Rendered.transitionIndices_eq {first second : List TransitionIndex}
    (firstInRange : ∀ index ∈ first, index < machine.transitions.length)
    (secondInRange : ∀ index ∈ second, index < other.transitions.length)
    (same : first.map machine.transitionId = second.map other.transitionId) : first = second := by
  have distinct : (machine.transitions.map (·.id)).Nodup :=
    (List.nodup_append.mp (List.nodup_cons.mp rendered.numbered.distinct).2).2.1
  rw [transitionId_eq_getElem, transitionId_eq_getElem, ← rendered.transitionIds_eq renderedToo]
    at same
  refine positions_eq distinct ?_ ?_ same
  · simpa using firstInRange
  · simpa [rendered.length_transitions renderedToo] using secondInRange

theorem Rendered.target_eq {index counterpart : StateIndex} {target targetToo : State}
    (found : machine.state? index = some target)
    (foundToo : other.state? counterpart = some targetToo)
    (same : target.id = targetToo.id) : index = counterpart := by
  have alone : [index] = [counterpart] := by
    apply rendered.stateIndices_eq renderedToo
    · simpa using lt_of_state? found
    · simpa using lt_of_state? foundToo
    · simpa [stateId_of_state? found, stateId_of_state? foundToo] using same
  exact List.singleton_inj.mp alone

/-! ### States -/

variable {index : StateIndex} {state counterpart : State}

theorem Rendered.topLevel_eq : machine.topLevel = other.topLevel := by
  apply rendered.stateIndices_eq renderedToo
  · exact fun index member =>
      rendered.contained.lt_length (show index ∈ machine.childrenOf none from member)
  · exact fun index member =>
      renderedToo.contained.lt_length (show index ∈ other.childrenOf none from member)
  · exact rendered.portrays.head.states.symm.trans renderedToo.portrays.head.states

section State

variable (found : machine.state? index = some state)
  (foundToo : other.state? index = some counterpart)
include found foundToo

theorem Rendered.commonState : ∃ record ∈ root.preorder,
    machine.ShowsState spelling.key state record ∧
      other.ShowsState otherSpelling.key counterpart record := by
  rcases rendered.common renderedToo (mem_elements_state (lt_of_state? found)) with
    ⟨record, inRoot, ⟨held, foundHeld, showing⟩, heldToo, foundHeldToo, showingToo⟩
  cases found.symm.trans foundHeld
  cases foundToo.symm.trans foundHeldToo
  exact ⟨record, inRoot, showing, showingToo⟩

theorem Rendered.isComposite_eq : state.isComposite = counterpart.isComposite := by
  rcases rendered.commonState renderedToo found foundToo with ⟨record, -, showing, showingToo⟩
  have roles := showing.roles.symm.trans showingToo.roles
  cases composite : state.isComposite <;> cases compositeToo : counterpart.isComposite <;>
    simp [composite, compositeToo] at roles ⊢

theorem Rendered.children_eq : state.children = counterpart.children := by
  rcases rendered.commonState renderedToo found foundToo with ⟨record, -, showing, showingToo⟩
  apply rendered.stateIndices_eq renderedToo
  · intro child member
    rw [← childrenOf_of_state? found] at member
    exact rendered.contained.lt_length member
  · intro child member
    rw [← childrenOf_of_state? foundToo] at member
    exact renderedToo.contained.lt_length member
  · exact showing.states.symm.trans showingToo.states

theorem Rendered.stateInitial_eq : state.initial = counterpart.initial := by
  rcases rendered.commonState renderedToo found foundToo with ⟨record, -, showing, showingToo⟩
  have sameKind := rendered.isComposite_eq renderedToo found foundToo
  cases composite : state.isComposite with
  | false =>
      rw [State.initial_of_simple composite, State.initial_of_simple (sameKind ▸ composite)]
  | true =>
      have refs := showing.refs
      have refsToo := showingToo.refs
      rw [if_pos composite] at refs
      rw [if_pos (sameKind ▸ composite)] at refsToo
      rcases refs with ⟨initial, target, set, foundTarget, entries⟩
      rcases refsToo with ⟨initialToo, targetToo, setToo, foundTargetToo, entriesToo⟩
      have sameId : target.id = targetToo.id := by
        simpa using entries.symm.trans entriesToo
      have sameTarget := rendered.target_eq renderedToo foundTarget foundTargetToo sameId
      have parent := (rendered.contained.entered_child found set).2
      have parentToo := (renderedToo.contained.entered_child foundToo setToo).2
      cases initial
      cases initialToo
      simp_all

theorem Rendered.outgoing_eq : state.outgoing = counterpart.outgoing := by
  rcases rendered.commonState renderedToo found foundToo with
    ⟨record, inRoot, showing, showingToo⟩
  have merged := rendered.portrays.merged found inRoot showing.id
  have mergedToo := renderedToo.portrays.merged foundToo inRoot showingToo.id
  apply rendered.transitionIndices_eq renderedToo
  · intro edge member
    rcases exists_right merged member with ⟨_, -, shows_⟩
    exact transition_lt_of_shows shows_
  · intro edge member
    rcases exists_right mergedToo member with ⟨_, -, shows_⟩
    exact transition_lt_of_shows shows_
  · exact (map_id_of_showsTransition merged).symm.trans (map_id_of_showsTransition mergedToo)

end State

theorem Rendered.childrenOf_eq (container : Option StateIndex) :
    machine.childrenOf container = other.childrenOf container := by
  cases container with
  | none => exact rendered.topLevel_eq renderedToo
  | some index =>
      by_cases inRange : index < machine.states.length
      · rcases exists_state? inRange with ⟨state, found⟩
        rcases exists_state? (rendered.length_states renderedToo ▸ inRange) with
          ⟨counterpart, foundToo⟩
        rw [childrenOf_of_state? found, childrenOf_of_state? foundToo]
        exact rendered.children_eq renderedToo found foundToo
      · have outsideToo : ¬index < other.states.length :=
          rendered.length_states renderedToo ▸ inRange
        simp [childrenOf, state?, List.getElem?_eq_none (Nat.le_of_not_lt inRange),
          List.getElem?_eq_none (Nat.le_of_not_lt outsideToo)]

theorem Rendered.parent_eq (found : machine.state? index = some state)
    (foundToo : other.state? index = some counterpart) : state.parent = counterpart.parent := by
  have listed := rendered.contained.mem_childrenOf.mpr ⟨state, found, rfl⟩
  rw [rendered.childrenOf_eq renderedToo] at listed
  rcases renderedToo.contained.mem_childrenOf.mp listed with ⟨held, foundHeld, parent⟩
  cases foundToo.symm.trans foundHeld
  exact parent.symm

theorem Rendered.plain_eq (found : machine.state? index = some state)
    (foundToo : other.state? index = some counterpart) : plain state = plain counterpart := by
  rcases rendered.commonState renderedToo found foundToo with ⟨record, -, showing, showingToo⟩
  have id : state.id = counterpart.id := showing.id.symm.trans showingToo.id
  have name : state.name = counterpart.name := attributeOfOption_injective
    (nameAttributes_injective (showing.attributes.symm.trans showingToo.attributes))
  have location : state.location = counterpart.location :=
    showing.location.symm.trans showingToo.location
  have parent := rendered.parent_eq renderedToo found foundToo
  have outgoing := rendered.outgoing_eq renderedToo found foundToo
  have kind : state.kind = counterpart.kind :=
    State.kind_eq (rendered.isComposite_eq renderedToo found foundToo)
      (rendered.children_eq renderedToo found foundToo)
      (rendered.stateInitial_eq renderedToo found foundToo)
  rw [plain, plain, id, name, location, parent, outgoing, kind]

theorem Rendered.states_eq : machine.states.map plain = other.states.map plain := by
  apply List.ext_getElem
  · simpa using rendered.length_states renderedToo
  · intro index inRange inRangeToo
    rw [List.getElem_map, List.getElem_map]
    rw [List.length_map] at inRange inRangeToo
    exact rendered.plain_eq renderedToo (List.getElem?_eq_getElem inRange)
      (List.getElem?_eq_getElem inRangeToo)

/-! ### Transitions and the machine itself -/

theorem Rendered.source_eq {edge : TransitionIndex} {transition transitionToo : Transition}
    (found : machine.transition? edge = some transition)
    (foundToo : other.transition? edge = some transitionToo) :
    transition.source = transitionToo.source := by
  have inRange := (rendered.adjacent.endpoints transition (List.mem_of_getElem? found)).1
  rcases exists_state? inRange with ⟨state, foundState⟩
  rcases exists_state? (rendered.length_states renderedToo ▸ inRange) with
    ⟨counterpart, foundCounterpart⟩
  have leaves : edge ∈ state.outgoing := by
    rw [rendered.adjacent.outgoing foundState]
    exact mem_transitionsWhere.mpr ⟨transition, found, by simp⟩
  rw [rendered.outgoing_eq renderedToo foundState foundCounterpart,
    renderedToo.adjacent.outgoing foundCounterpart] at leaves
  rcases mem_transitionsWhere.mp leaves with ⟨held, foundHeld, sameSource⟩
  cases foundToo.symm.trans foundHeld
  exact (eq_of_beq sameSource).symm

theorem Rendered.arrow_eq {edge : TransitionIndex} {transition transitionToo : Transition}
    (found : machine.transition? edge = some transition)
    (foundToo : other.transition? edge = some transitionToo) :
    machine.arrow transition = other.arrow transitionToo := by
  have inRange := (List.getElem?_eq_some_iff.mp found).1
  rcases rendered.common renderedToo (mem_elements_transition inRange) with
    ⟨record, -, shows_, showsToo⟩
  rcases ShowsTransition.content shows_ with
    ⟨held, target, foundHeld, foundTarget, id, attributes, location, refs⟩
  rcases ShowsTransition.content showsToo with
    ⟨heldToo, targetToo, foundHeldToo, foundTargetToo, idToo, attributesToo, locationToo, refsToo⟩
  cases found.symm.trans foundHeld
  cases foundToo.symm.trans foundHeldToo
  have texts := edgeAttributes_injective (attributes.symm.trans attributesToo)
  have target_eq : (if target.isFinal then none else some transition.target) =
      if targetToo.isFinal then none else some transitionToo.target := by
    have sameRefs := refs.symm.trans refsToo
    cases ends : target.isFinal <;> cases endsToo : targetToo.isFinal <;>
      simp [ends, endsToo] at sameRefs ⊢
    exact rendered.target_eq renderedToo foundTarget foundTargetToo sameRefs
  rw [arrow, arrow, foundTarget, foundTargetToo, Option.any_some, Option.any_some, target_eq,
    ← id, ← idToo, rendered.source_eq renderedToo found foundToo, texts.1, texts.2, ← location,
    ← locationToo]

theorem Rendered.transitions_eq :
    machine.transitions.map machine.arrow = other.transitions.map other.arrow := by
  apply List.ext_getElem
  · simpa using rendered.length_transitions renderedToo
  · intro edge inRange inRangeToo
    rw [List.getElem_map, List.getElem_map]
    rw [List.length_map] at inRange inRangeToo
    exact rendered.arrow_eq renderedToo (List.getElem?_eq_getElem inRange)
      (List.getElem?_eq_getElem inRangeToo)

omit rendered renderedToo in
/-- No state has the empty id, which stands for no state at all. -/
theorem Numbered.id_ne_empty (numbered : machine.Numbered given)
    (found : machine.state? index = some state) : state.id ≠ "" := by
  have member : state.id ∈ machine.ids := List.mem_cons_of_mem _
    (List.mem_append_left _ (List.mem_map_of_mem (List.mem_of_getElem? found)))
  rcases numbered.minted _ member with ⟨kind, number, id⟩
  rw [id]
  exact IdSource.idAt_ne_empty kind number

theorem Rendered.initial_eq : machine.initial = other.initial := by
  have refs := rendered.portrays.head.refs
  have refsToo := renderedToo.portrays.head.refs
  cases set : machine.initial with
  | none =>
      rw [set] at refs
      cases setToo : other.initial with
      | none => rfl
      | some initialToo =>
          rw [setToo] at refsToo
          rcases refsToo with ⟨targetToo, foundToo, entriesToo⟩
          have empty : "" = targetToo.id := by simpa using refs.symm.trans entriesToo
          exact absurd empty.symm (renderedToo.numbered.id_ne_empty foundToo)
  | some initial =>
      rw [set] at refs
      rcases refs with ⟨target, foundTarget, entries⟩
      cases setToo : other.initial with
      | none =>
          rw [setToo] at refsToo
          have empty : target.id = "" := by simpa using entries.symm.trans refsToo
          exact absurd empty (rendered.numbered.id_ne_empty foundTarget)
      | some initialToo =>
          rw [setToo] at refsToo
          rcases refsToo with ⟨targetToo, foundTargetToo, entriesToo⟩
          have sameId : target.id = targetToo.id := by simpa using entries.symm.trans entriesToo
          have sameTarget := rendered.target_eq renderedToo foundTarget foundTargetToo sameId
          have parent := (rendered.contained.entered_topLevel set).2
          have parentToo := (renderedToo.contained.entered_topLevel setToo).2
          cases initial
          cases initialToo
          simp_all

theorem Rendered.alike : machine.Alike other where
  id := rendered.id_eq renderedToo
  name := by
    have same := nameAttributes_injective
      (rendered.portrays.head.attributes.symm.trans renderedToo.portrays.head.attributes)
    exact Attribute.text.inj same
  location := rendered.portrays.head.location.symm.trans renderedToo.portrays.head.location
  initial := rendered.initial_eq renderedToo
  topLevel := rendered.topLevel_eq renderedToo
  states := rendered.states_eq renderedToo
  transitions := rendered.transitions_eq renderedToo

end Comparison

theorem Grown.rendered {machine : Machine} {given : Nat} (grown : machine.Grown given)
    (room : given ≤ 2 ^ 64) {configuration : Configuration} {root : Record}
    (rendered : (Renderer.ofConfiguration machine configuration).stateMachine = .ok root) :
    machine.Rendered given configuration.outputAttribute root where
  contained := grown.reachable.contained
  adjacent := grown.reachable.adjacent
  numbered := grown.numbered room
  portrays := grown.portrays room rendered

/-- Rendering loses nothing and repeats nothing: the record of a machine portrays it, and
any machine with the same record is like it. -/
theorem Grown.rendering_faithful {machine : Machine} {given : Nat} (grown : machine.Grown given)
    (room : given ≤ 2 ^ 64) {configuration : Configuration} {root : Record}
    (rendered : (Renderer.ofConfiguration machine configuration).stateMachine = .ok root) :
    machine.Portrays configuration.outputAttribute.key root ∧
      ∀ {other : Machine} {otherGiven : Nat} {otherConfiguration : Configuration},
        other.Grown otherGiven → otherGiven ≤ 2 ^ 64 →
        (Renderer.ofConfiguration other otherConfiguration).stateMachine = .ok root →
          machine.Alike other := by
  refine ⟨grown.portrays room rendered, ?_⟩
  intro other otherGiven otherConfiguration grownToo roomToo renderedToo
  exact (grown.rendered room rendered).alike (grownToo.rendered roomToo renderedToo)

/-- Two machines that differ in what no record tells: their first transition ends in one
or in the other of two final states. -/
theorem rendering_faithful_gates :
    let gate (target : StateIndex) := ((Construction.start "gate" none ⟨7⟩).run [
      .addComposite (some "closed") none none, .addSimple (some "locked") (some 0) false none,
      .addSimple (some "open") none true none, .addSimple none none true none,
      .setCompositeInitial 0 1, .connect 0 target (some "pull") none none,
      .connect 0 0 (some "push") none none]).2.machine
    ∃ root, (Renderer.ofConfiguration (gate 2) {}).stateMachine = .ok root ∧
      (Renderer.ofConfiguration (gate 3) {}).stateMachine = .ok root ∧
      (gate 2).Portrays "ouptut" root ∧ (gate 2).Alike (gate 3) := by
  intro gate
  have rendered : (Renderer.ofConfiguration (gate 2) {}).stateMachine = .ok _ := rfl
  have renderedToo : (Renderer.ofConfiguration (gate 3) {}).stateMachine = .ok _ := rfl
  have grown : (gate 2).Grown (7 + 7) := Construction.grown_run "gate" none ⟨7⟩ _
  have grownToo : (gate 3).Grown (7 + 7) := Construction.grown_run "gate" none ⟨7⟩ _
  have faithful := grown.rendering_faithful (by decide) rendered
  exact ⟨_, rendered, renderedToo, faithful.1, faithful.2 grownToo (by decide) renderedToo⟩

end Machine

end Statechart
