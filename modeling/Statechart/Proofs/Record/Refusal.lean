import Statechart.Proofs.Record.Showing

/-!
Which machines are refused, and for what. Going down with one level fewer at each
step a rendering has as many levels left as the ceiling allows below the depth of
the state it is at. It therefore meets what is wrong with the states of a machine
in the order of the document, and reports the first of it.
-/

namespace Statechart

namespace Machine

/-- What keeps a state out of a tree with so many levels below its first one. -/
def renderDefect (machine : Machine) (maxDepth : Nat) (index : StateIndex) : Option TreeError :=
  if maxDepth < machine.depth index then some (.recursionLimit maxDepth)
  else (machine.state? index).bind fun state =>
    if state.isComposite && state.initial.isNone then some (.malformedTree state.id) else none

variable {machine : Machine} {maxDepth : Nat} {index : StateIndex} {state : State}

theorem renderDefect_of_deep (deep : maxDepth < machine.depth index) :
    machine.renderDefect maxDepth index = some (.recursionLimit maxDepth) :=
  if_pos deep

theorem renderDefect_of_state? (shallow : machine.depth index ≤ maxDepth)
    (found : machine.state? index = some state) :
    machine.renderDefect maxDepth index =
      if state.isComposite && state.initial.isNone then some (.malformedTree state.id)
      else none := by
  rw [renderDefect, if_neg (Nat.not_lt_of_le shallow), found, Option.bind_some]

/-- Only two kinds of defects are looked for. -/
theorem renderDefect_eq_some {error : TreeError}
    (defect : machine.renderDefect maxDepth index = some error) :
    error = .recursionLimit maxDepth ∨ ∃ id, error = .malformedTree id := by
  rw [renderDefect] at defect
  split at defect
  case isTrue =>
    cases defect
    exact .inl rfl
  case isFalse =>
    rcases Option.bind_eq_some_iff.mp defect with ⟨state, -, missing⟩
    split at missing
    case isTrue =>
      cases missing
      exact .inr ⟨state.id, rfl⟩
    case isFalse => cases missing

theorem renderDefect_eq_none (inRange : index < machine.states.length) :
    machine.renderDefect maxDepth index = none ↔
      machine.depth index ≤ maxDepth ∧ ∀ state, machine.state? index = some state →
        state.isComposite = true → ∃ initial, state.initial = some initial := by
  rcases exists_state? inRange with ⟨state, found⟩
  rcases Nat.lt_or_ge maxDepth (machine.depth index) with deep | shallow
  · rw [renderDefect_of_deep deep]
    simp [Nat.not_le_of_lt deep]
  · rw [renderDefect_of_state? shallow found, found]
    cases composite : state.isComposite <;> cases set : state.initial <;>
      simp [shallow, composite, set]

/-- No state is kept out exactly when none lies too deep and every composite is entered. -/
theorem Contained.findSome?_renderDefect_eq_none (contained : machine.Contained) :
    machine.documentOrder.findSome? (machine.renderDefect maxDepth) = none ↔
      machine.Entered ∧ ∀ index < machine.states.length, machine.depth index ≤ maxDepth := by
  have everyone : ∀ index, index ∈ machine.documentOrder ↔ index < machine.states.length :=
    fun index => contained.documentOrder_perm.mem_iff.trans List.mem_range
  rw [List.findSome?_eq_none_iff]
  constructor
  · intro sound
    have each := fun index inRange =>
      (renderDefect_eq_none inRange).mp (sound index ((everyone index).mpr inRange))
    exact ⟨⟨fun found => (each _ (lt_of_state? found)).2 _ found⟩,
      fun index inRange => (each index inRange).1⟩
  · intro sound index member
    have inRange := (everyone index).mp member
    exact (renderDefect_eq_none inRange).mpr
      ⟨sound.2 index inRange, fun _ found => sound.1.exists_initial found⟩

end Machine

namespace Renderer

open Machine

variable {renderer : Renderer}

/-! ## The first defect -/

/-- A composite that does not say how it is entered is refused at once. -/
theorem stateWithin_of_initial_none {levels : Nat} {index : StateIndex} {state : State}
    (found : renderer.machine.state? index = some state) (composite : state.isComposite = true)
    (unset : state.initial = none) :
    renderer.stateWithin (levels + 1) index = .error (.malformedTree state.id) := by
  rw [stateWithin, lookup_eq_ok.mpr found, ok_bind]
  cases kind : state.kind with
  | simple => simp [State.isComposite, kind] at composite
  | composite children initial =>
      simp only [State.initial, kind] at unset
      subst unset
      rw [entry, kind]
      rfl

section Machine

variable (contained : renderer.machine.Contained) (adjacent : renderer.machine.Adjacent)
include contained adjacent

/-- A state is refused with the first defect in its subtree when the levels that are left
and its depth come to what the ceiling allows. -/
theorem errorOf?_stateWithin {bound levels : Nat} {index : StateIndex}
    (inRange : index < renderer.machine.states.length)
    (level : levels + renderer.machine.depth index = renderer.maxDepth + 1)
    (enough : renderer.machine.states.length ≤ bound + index) :
    errorOf? (renderer.stateWithin levels index) =
      (renderer.machine.subtree bound index).findSome?
        (renderer.machine.renderDefect renderer.maxDepth) := by
  induction bound generalizing levels index with
  | zero =>
      rw [Nat.zero_add] at enough
      exact absurd inRange (Nat.not_lt_of_le enough)
  | succ bound induction =>
      rw [subtree, findSome?_cons_eq_or, findSome?_flatMap]
      cases levels with
      | zero =>
          have deep : renderer.maxDepth < renderer.machine.depth index := by omega
          rw [renderDefect_of_deep deep]
          rfl
      | succ levels =>
          have shallow : renderer.machine.depth index ≤ renderer.maxDepth := by omega
          rcases exists_state? inRange with ⟨state, found⟩
          rcases outgoing_renders adjacent found with ⟨others, finals, rendered, -⟩
          rw [renderDefect_of_state? shallow found, childrenOf_of_state? found]
          cases composite : state.isComposite with
          | false =>
              rw [stateWithin_simple found composite rendered, State.children_of_simple composite]
              rfl
          | true =>
              cases set : state.initial with
              | none =>
                  rw [stateWithin_of_initial_none found composite set]
                  rfl
              | some initial =>
                  have targetInside := (contained.entered_child found set).1
                  rcases exists_state? (contained.lt_length targetInside) with
                    ⟨target, foundTarget⟩
                  rw [stateWithin_entered found set foundTarget rendered, errorOf?_map,
                    errorOf?_mapM]
                  change _ = state.children.findSome? _
                  apply findSome?_congr
                  intro child member
                  have inside : child ∈ renderer.machine.childrenOf (some index) := by
                    rwa [childrenOf_of_state? found]
                  have deeper := contained.depth_child inside
                  exact induction (contained.lt_length inside) (by omega)
                    (contained.length_le_of_child inside enough)

/-- A machine is refused with the first defect in the order of the document. -/
theorem errorOf?_stateMachine : errorOf? renderer.stateMachine =
    renderer.machine.documentOrder.findSome?
      (renderer.machine.renderDefect renderer.maxDepth) := by
  have each : ∀ index ∈ renderer.machine.topLevel,
      errorOf? (renderer.stateWithin (renderer.maxDepth + 1) index) =
        (renderer.machine.subtree renderer.machine.states.length index).findSome?
          (renderer.machine.renderDefect renderer.maxDepth) := by
    intro index member
    have inRoot : index ∈ renderer.machine.childrenOf none := member
    exact errorOf?_stateWithin contained adjacent (contained.lt_length inRoot)
      (by rw [contained.depth_eq_zero member]) (Nat.le_add_right _ _)
  rcases initialId_renders contained with ⟨entered, looked, -⟩
  rw [documentOrder, findSome?_flatMap, ← findSome?_congr each, ← errorOf?_mapM,
    stateMachine]
  cases renderer.machine.topLevel.mapM (renderer.stateWithin (renderer.maxDepth + 1)) with
  | error error => rfl
  | ok states =>
      simp only [ok_bind, looked]
      rfl

end Machine

/-! ## Other ceilings

Once the levels suffice the record is the same however many are left. -/

section Ceilings

variable (maxDepth : Nat)

def withMaxDepth (renderer : Renderer) (maxDepth : Nat) : Renderer :=
  { renderer with maxDepth }

theorem partition_withMaxDepth (indices : List TransitionIndex) :
    (renderer.withMaxDepth maxDepth).partition indices = renderer.partition indices := by
  induction indices with
  | nil => rfl
  | cons index indices induction =>
      rw [partition, partition, induction]
      rfl

theorem stateWithin_withMaxDepth {levels : Nat} (more : Nat) {index : StateIndex} {record : Record}
    (rendered : renderer.stateWithin levels index = .ok record) :
    (renderer.withMaxDepth maxDepth).stateWithin (levels + more) index = .ok record := by
  induction levels generalizing index record with
  | zero => cases rendered
  | succ levels induction =>
      rcases stateWithin_eq_ok rendered with ⟨state, others, finals, found, partitioned, shape⟩
      have foundAgain : (renderer.withMaxDepth maxDepth).machine.state? index = some state := found
      rw [← partition_withMaxDepth maxDepth] at partitioned
      rw [Nat.add_right_comm]
      rcases shape with ⟨simple, rfl⟩ | ⟨-, initial, target, states, shape⟩
      · exact stateWithin_simple foundAgain simple partitioned _
      · rcases shape with ⟨entered, foundTarget, renderedStates, rfl⟩
        apply stateWithin_composite foundAgain entered foundTarget partitioned
        exact mapM_eq_ok.mpr ((mapM_eq_ok.mp renderedStates).imp fun _ _ => induction)

variable {maxDepth}

theorem stateMachine_withMaxDepth (higher : renderer.maxDepth ≤ maxDepth) {root : Record}
    (rendered : renderer.stateMachine = .ok root) :
    (renderer.withMaxDepth maxDepth).stateMachine = .ok root := by
  rcases bind_eq_ok.mp rendered with ⟨states, renderedStates, rest⟩
  have same : renderer.machine.topLevel.mapM
      ((renderer.withMaxDepth maxDepth).stateWithin (maxDepth + 1)) = .ok states := by
    rw [← Nat.add_sub_cancel' (Nat.add_le_add_right higher 1)]
    exact mapM_eq_ok.mpr
      ((mapM_eq_ok.mp renderedStates).imp fun _ _ => stateWithin_withMaxDepth _ _)
  exact bind_eq_ok.mpr ⟨states, same, rest⟩

theorem stateMachine_unique {root other : Record} (rendered : renderer.stateMachine = .ok root)
    (renderedAgain : (renderer.withMaxDepth maxDepth).stateMachine = .ok other) :
    root = other := by
  rcases Nat.le_total renderer.maxDepth maxDepth with higher | lower
  · have same := stateMachine_withMaxDepth higher rendered
    rw [renderedAgain] at same
    cases same
    rfl
  · have same : ((renderer.withMaxDepth maxDepth).withMaxDepth renderer.maxDepth).stateMachine =
        .ok other := stateMachine_withMaxDepth lower renderedAgain
    change renderer.stateMachine = .ok other at same
    rw [rendered] at same
    cases same
    rfl

end Ceilings

end Renderer

/-- A machine is rendered exactly when each of its composites says how it is entered and
none of its states lies deeper than the ceiling. Otherwise the answer is what is wrong with
the first state, in the order of the document, that has a defect; a broken reference is
never among that. A record does not depend on the ceiling under which it was made. -/
theorem Machine.Reachable.stateMachine_outcome {machine : Machine} (reachable : machine.Reachable)
    (configuration : Configuration) :
    let maxDepth := configuration.maxDepth.toNat
    let outcome := (Renderer.ofConfiguration machine configuration).stateMachine
    ((∃ root, outcome = .ok root) ↔
      (∀ index state, machine.state? index = some state →
        state.isComposite = true → ∃ initial, state.initial = some initial) ∧
      ∀ index < machine.states.length, machine.depth index ≤ maxDepth) ∧
    (∀ error, outcome = .error error ↔
      machine.documentOrder.findSome? (machine.renderDefect maxDepth) = some error) ∧
    (∀ role id, outcome ≠ .error (.unresolvedReference role id)) ∧
    ∀ other : Configuration, other.outputAttribute = configuration.outputAttribute →
      ∀ root again, outcome = .ok root →
        (Renderer.ofConfiguration machine other).stateMachine = .ok again → root = again := by
  intro maxDepth outcome
  have contained := reachable.contained
  let renderer := Renderer.ofConfiguration machine configuration
  have first : errorOf? renderer.stateMachine =
      machine.documentOrder.findSome? (machine.renderDefect maxDepth) :=
    Renderer.errorOf?_stateMachine contained reachable.adjacent
  have refused : ∀ error, outcome = .error error ↔
      machine.documentOrder.findSome? (machine.renderDefect maxDepth) = some error := by
    intro error
    rw [← errorOf?_eq_some]
    change errorOf? renderer.stateMachine = _ ↔ _
    rw [first]
  refine ⟨?_, refused, ?_, ?_⟩
  case refine_1 =>
    rw [← errorOf?_eq_none]
    change errorOf? renderer.stateMachine = _ ↔ _
    rw [first, contained.findSome?_renderDefect_eq_none]
    exact and_congr_left' ⟨fun entered _ _ => entered.exists_initial, fun entered => ⟨entered _ _⟩⟩
  case refine_2 =>
    intro role id failed
    rcases List.exists_of_findSome?_eq_some ((refused _).mp failed) with ⟨index, -, defect⟩
    rcases Machine.renderDefect_eq_some defect with same | ⟨_, same⟩ <;> cases same
  case refine_3 =>
    intro other sameKey root again rendered renderedAgain
    rw [Renderer.ofConfiguration, sameKey] at renderedAgain
    have rendered : renderer.stateMachine = .ok root := rendered
    have renderedAgain : (renderer.withMaxDepth other.maxDepth.toNat).stateMachine = .ok again :=
      renderedAgain
    exact Renderer.stateMachine_unique rendered renderedAgain

/-- Two composites side by side inside a third, of which only the first is entered. What
lies inside it is met before the second one. -/
theorem Machine.stateMachine_outcome_nested :
    let machine := ((Construction.start "door" none {}).run [
      .addComposite (some "outer") none none, .addComposite (some "left") (some 0) none,
      .addSimple (some "deep") (some 1) false none, .addComposite (some "right") (some 0) none,
      .setCompositeInitial 0 1, .setCompositeInitial 1 2, .setInitial 0]).2.machine
    machine.Reachable ∧
    (Renderer.ofConfiguration machine { maxDepth := 1 }).stateMachine =
      .error (.recursionLimit 1) ∧
    (Renderer.ofConfiguration machine { maxDepth := 2 }).stateMachine =
      .error (.malformedTree "state-4") := by
  intro machine
  have reachable : machine.Reachable := reachable_run _ _ _ _
  exact ⟨reachable, ((reachable.stateMachine_outcome _).2.1 _).mpr rfl,
    ((reachable.stateMachine_outcome _).2.1 _).mpr rfl⟩

end Statechart
