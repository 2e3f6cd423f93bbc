import Statechart.Proofs.Declaration.Usability
import Statechart.Proofs.Protocol.RoundTrip
import Statechart.Proofs.Record.Nesting

/-!
How deep a machine may be to be sent. Declarations are accepted down to the ceiling of the
configuration, whose default counts 256 levels of states. The text of a response may have
127 brackets open at once, and each level of states opens three of them: the response to
a parse can be read back down to a depth of 39, or of 40 where nothing leaves the deepest
states, and no further.
-/

namespace Statechart

open Json

namespace Machine

/-- The depth of the deepest states, if there are states. -/
def greatestDepth (machine : Machine) : Option Nat :=
  ((List.range machine.states.length).map machine.depth).max?

theorem greatestDepth_eq_none {machine : Machine} :
    machine.greatestDepth = none ↔ machine.states = [] := by
  rw [greatestDepth, List.max?_eq_none_iff, List.map_eq_nil_iff, List.range_eq_nil,
    List.length_eq_zero_iff]

theorem greatestDepth_eq_some {machine : Machine} {greatest : Nat} :
    machine.greatestDepth = some greatest ↔
      (∃ index < machine.states.length, machine.depth index = greatest) ∧
        ∀ index < machine.states.length, machine.depth index ≤ greatest := by
  simp [greatestDepth, List.max?_eq_some_iff]

/-- States stand as deep as they are declared. -/
theorem Realizes.depths_eq {machine : Machine} {ids : IdSource} {maxDepth : Nat}
    {declaration : MachineDeclaration} (realizes : machine.Realizes ids maxDepth declaration) :
    (List.range machine.states.length).map machine.depth = declaration.nested.map (·.1) := by
  have length : machine.states.length = declaration.outline.length := by
    have lengths := congrArg List.length realizes.follows.states
    rwa [length_unlinkedStates, List.length_map] at lengths
  have positions : List.range machine.states.length = declaration.outline.map (·.position) := by
    rw [length, List.range_eq_range', MachineDeclaration.outline,
      StateDeclaration.outlineAll_positions]
  rw [positions, ← MachineDeclaration.outline_nested, List.map_map, List.map_map]
  exact List.map_congr_left fun placement member => realizes.follows.depth_eq_level member

end Machine

/-! ## Reading a response back -/

theorem nesting_parseResponse (root : Record) :
    (ParseResponse.codec.encode ⟨root⟩).nesting = 1 + root.encode.nesting := by
  have written : ParseResponse.codec.encode ⟨root⟩ = .object [("astRoot", root.encode)] := rfl
  rw [written, nesting, nestingOfMembers, nestingOfMembers, Nat.max_zero, Nat.add_comm]

/-- All states of a machine stand where the text of a response reaches. -/
def Machine.WithinReach (machine : Machine) : Prop :=
  ∀ index state, machine.state? index = some state →
    4 + 3 * machine.depth index + state.ownNesting ≤ nestingLimit

section Rendered

variable {renderer : Renderer} (contained : renderer.machine.Contained)
  (depths : ∀ index < renderer.machine.states.length,
    renderer.machine.depth index ≤ renderer.maxDepth)
  {root : Record} (rendered : renderer.stateMachine = .ok root)
include contained depths rendered

theorem openAtOnce_response_le :
    openAtOnce (ParseResponse.codec.render ⟨root⟩) ≤ nestingLimit ↔
      renderer.machine.WithinReach := by
  rw [Codec.render, openAtOnce_compact, nesting_parseResponse,
    Renderer.nesting_stateMachine_le contained depths rendered]
  exact and_iff_right (by decide)

/-- A response is read back exactly where all states are within reach, and is refused as no
JSON otherwise. -/
theorem parse_response_of_reach (adjacent : renderer.machine.Adjacent) :
    (renderer.machine.WithinReach →
      ParseResponse.codec.parse (ParseResponse.codec.render ⟨root⟩) = .ok ⟨root⟩) ∧
    (¬ renderer.machine.WithinReach →
      ParseResponse.codec.parse (ParseResponse.codec.render ⟨root⟩) = .error .malformed) := by
  have outcome := Format.parse_render .parseResponse ⟨root⟩
    (Renderer.ordered_stateMachine contained adjacent rendered)
  have fits := openAtOnce_response_le contained depths rendered
  constructor
  · intro within
    exact outcome.trans (if_pos (fits.mpr within))
  · intro beyond
    exact outcome.trans (if_neg fun small => beyond (fits.mp small))

end Rendered

/-- The greatest depth decides, but for the transitions of the states that lie at depth 40. -/
theorem Machine.withinReach_iff {machine : Machine} :
    machine.WithinReach ↔ ∀ greatest, machine.greatestDepth = some greatest →
      greatest ≤ 40 ∧ (greatest = 40 → ∀ index state, machine.state? index = some state →
        machine.depth index = 40 → state.outgoing = []) := by
  constructor
  · intro within greatest deepest
    obtain ⟨⟨index, inRange, depth⟩, -⟩ := greatestDepth_eq_some.mp deepest
    obtain ⟨state, found⟩ := exists_state? inRange
    constructor
    · have reached := within index state found
      rw [depth, State.ownNesting, nestingLimit] at reached
      split at reached <;> omega
    · intro _ other held foundOther deep
      have reached := within other held foundOther
      rw [deep, State.ownNesting, nestingLimit] at reached
      split at reached
      case isTrue nothing => exact nothing
      case isFalse => omega
  · intro shallow index state found
    have inRange := lt_of_state? found
    cases deepest : machine.greatestDepth with
    | none =>
        rw [greatestDepth_eq_none.mp deepest] at inRange
        cases inRange
    | some greatest =>
        have atMost := (greatestDepth_eq_some.mp deepest).2 index inRange
        obtain ⟨bounded, atEdge⟩ := shallow greatest deepest
        rw [State.ownNesting, nestingLimit]
        by_cases edge : machine.depth index = 40
        · have last : greatest = 40 := by omega
          rw [if_pos (atEdge last index state found edge)]
          omega
        · split <;> omega

/-! ## Nests -/

/-- A state inside a state, so many levels down. -/
def StateDeclaration.nest : Nat → StateDeclaration
  | 0 => { name := some "inner" }
  | levels + 1 =>
      { name := some "inner", initial := some "inner", states := [nest levels] }

def MachineDeclaration.nest (levels : Nat) : MachineDeclaration :=
  { name := "nest", initial := some "inner", states := [.nest levels] }

namespace StateDeclaration

theorem levels_nest (level levels : Nat) :
    (nestedAll level [nest levels]).map (·.1) = List.range' level (levels + 1) := by
  induction levels generalizing level with
  | zero => rfl
  | succ levels induction =>
      rw [nestedAll_cons, List.map_cons, List.range'_succ, nestedAll, List.append_nil]
      exact congrArg (level :: ·) (induction (level + 1))

theorem mem_nest {level levels : Nat} {entry : Nat × StateDeclaration}
    (member : entry ∈ nestedAll level [nest levels]) : ∃ below, entry.2 = nest below := by
  induction levels generalizing level with
  | zero =>
      cases List.mem_singleton.mp member
      exact ⟨0, rfl⟩
  | succ levels induction =>
      rw [nestedAll_cons, nestedAll, List.append_nil] at member
      rcases List.mem_cons.mp member with rfl | inside
      · exact ⟨levels + 1, rfl⟩
      · exact induction inside

theorem transitions_nest (levels : Nat) : allTransitionsOf [nest levels] = [] := by
  induction levels with
  | zero => rfl
  | succ levels induction =>
      rw [allTransitionsOf_cons, nest, induction]
      rfl

theorem countNamed_nest (levels : Nat) : countNamed "inner" [nest levels] = 1 := by
  cases levels <;> rfl

end StateDeclaration

theorem MachineDeclaration.buildable_nest {levels maxDepth : Nat} (enough : levels ≤ maxDepth) :
    (nest levels).Buildable maxDepth := by
  have isNest : ∀ state ∈ (nest levels).allStates, ∃ below, state = .nest below := by
    intro state member
    obtain ⟨entry, listed, rfl⟩ := List.mem_map.mp member
    exact StateDeclaration.mem_nest listed
  constructor
  case level_le =>
    intro entry member
    have listed : entry.1 ∈ (nest levels).nested.map (·.1) := List.mem_map_of_mem member
    rw [nested, nest, StateDeclaration.levels_nest, List.mem_range'_1] at listed
    omega
  case composite =>
    intro state member composite
    obtain ⟨below, rfl⟩ := isNest state member
    cases below with
    | zero => cases composite
    | succ below => exact ⟨rfl, rfl⟩
  case simple =>
    intro state member simple
    obtain ⟨below, rfl⟩ := isNest state member
    cases below with
    | zero => rfl
    | succ below => cases simple
  case endpoints =>
    intro transition member
    rw [allTransitions, nest, StateDeclaration.transitions_nest] at member
    cases member
  case initial =>
    intro state member composite name declared
    obtain ⟨below, rfl⟩ := isNest state member
    cases below with
    | zero => cases composite
    | succ below =>
        cases declared
        exact StateDeclaration.countNamed_nest below
  case machine_initial =>
    intro name declared
    cases declared
    exact StateDeclaration.countNamed_nest levels

/-- A nest of no more levels than the ceiling is built and rendered. -/
theorem MachineDeclaration.accepts_nest {levels maxDepth : Nat} (enough : levels ≤ maxDepth)
    (ids : IdSource) {configuration : Configuration}
    (sufficient : maxDepth ≤ configuration.maxDepth.toNat) :
    ∃ machine root, ((nest levels).build maxDepth ids).1 = .ok machine ∧
      machine.greatestDepth = some levels ∧
      (Renderer.ofConfiguration machine configuration).stateMachine = .ok root := by
  have sound := buildable_nest enough
  have decides := (nest levels).build_decides maxDepth ids
  rw [firstDefect_eq_none.mpr sound] at decides
  obtain ⟨machine, built, realizes⟩ := decides
  have deepest : machine.greatestDepth = some levels := by
    rw [Machine.greatestDepth, realizes.depths_eq, nested, nest, StateDeclaration.levels_nest,
      List.max?_eq_some_iff]
    simp only [List.mem_range'_1]
    exact ⟨by omega, fun level inRange => by omega⟩
  let renderer := Renderer.ofConfiguration machine configuration
  obtain ⟨root, rendered, -⟩ := renderer.stateMachine_renders realizes.follows.contained
    realizes.reachable.adjacent (realizes.entered_everywhere sound) (realizes.depth_le sound)
    sufficient
  exact ⟨machine, root, built, deepest, rendered⟩

/-! ## Built machines -/

/-- The response to a parse is read back from its text when no state of the machine lies
deeper than 39 levels, and it is refused when one lies deeper than 40. At 40 levels it depends
on whether transitions leave the deepest states. By default, machines of up to 256 levels are
built and rendered all the same. -/
theorem response_read_back_iff_shallow :
    (∀ (declaration : MachineDeclaration) (ceiling : Nat) (ids : IdSource) (machine : Machine),
      (declaration.build ceiling ids).1 = .ok machine →
      ∀ configuration : Configuration, (∀ index < machine.states.length,
        machine.depth index ≤ configuration.maxDepth.toNat) →
      ∃ root, (Renderer.ofConfiguration machine configuration).stateMachine = .ok root ∧
        let response : ParseResponse := ⟨root⟩
        let readBack := ParseResponse.codec.parse (ParseResponse.codec.render response)
        match machine.greatestDepth with
        | none => readBack = .ok response
        | some greatest =>
            (greatest ≤ 39 → readBack = .ok response) ∧
            (greatest = 40 → (readBack = .ok response ↔
              ∀ index state, machine.state? index = some state → machine.depth index = 40 →
                state.outgoing = [])) ∧
            (41 ≤ greatest → readBack = .error .malformed)) ∧
    ({} : Configuration).maxDepth.toNat = 256 ∧
    ∀ levels ≤ 256, ∀ ids, ∃ machine root,
      ((MachineDeclaration.nest levels).build 256 ids).1 = .ok machine ∧
      machine.greatestDepth = some levels ∧
      (Renderer.ofConfiguration machine {}).stateMachine = .ok root := by
  refine ⟨?readBack, rfl, fun levels enough ids =>
    MachineDeclaration.accepts_nest enough ids (Nat.le_refl 256)⟩
  intro declaration ceiling ids machine built configuration sufficient
  obtain ⟨sound, realizes⟩ := MachineDeclaration.build_eq_ok built
  have sound := MachineDeclaration.firstDefect_eq_none.mp sound
  have contained := realizes.follows.contained
  have adjacent := realizes.reachable.adjacent
  let renderer := Renderer.ofConfiguration machine configuration
  obtain ⟨root, rendered, -⟩ := renderer.stateMachine_renders contained adjacent
    (realizes.entered_everywhere sound) sufficient (Nat.le_refl _)
  obtain ⟨accepted, refused⟩ := parse_response_of_reach contained sufficient rendered adjacent
  refine ⟨root, rendered, ?_⟩
  cases deepest : machine.greatestDepth with
  | none =>
      have stateless : machine.WithinReach := by
        rw [Machine.withinReach_iff, deepest]
        simp
      exact accepted stateless
  | some greatest =>
      have reach : machine.WithinReach ↔ greatest ≤ 40 ∧ (greatest = 40 →
          ∀ index state, machine.state? index = some state → machine.depth index = 40 →
            state.outgoing = []) := by
        rw [Machine.withinReach_iff, deepest]
        simp
      refine ⟨fun shallow => ?_, fun atEdge => ⟨fun readBack => ?_, fun nothingLeaves => ?_⟩,
        fun deep => ?_⟩
      · exact accepted (reach.mpr ⟨by omega, by omega⟩)
      · by_contra something
        have beyond : ¬ machine.WithinReach := fun within => something ((reach.mp within).2 atEdge)
        rw [refused beyond] at readBack
        cases readBack
      · exact accepted (reach.mpr ⟨by omega, fun _ => nothingLeaves⟩)
      · exact refused fun within => absurd (reach.mp within).1 (by omega)

/-- A nest of 39 levels is read back and one of 41 levels is not. -/
theorem response_read_back_iff_shallow_nests :
    ∃ shallow deep : Machine, shallow.greatestDepth = some 39 ∧ deep.greatestDepth = some 41 ∧
      ∃ root other, (Renderer.ofConfiguration shallow {}).stateMachine = .ok root ∧
        (Renderer.ofConfiguration deep {}).stateMachine = .ok other ∧
        ParseResponse.codec.parse (ParseResponse.codec.render ⟨root⟩) = .ok ⟨root⟩ ∧
        ParseResponse.codec.parse (ParseResponse.codec.render ⟨other⟩) = .error .malformed := by
  obtain ⟨decided, -, accepts⟩ := response_read_back_iff_shallow
  have sufficient {machine : Machine} {greatest : Nat}
      (deepest : machine.greatestDepth = some greatest) (atMost : greatest ≤ 256) :
      ∀ index < machine.states.length,
        machine.depth index ≤ ({} : Configuration).maxDepth.toNat :=
    fun index inRange =>
      Nat.le_trans ((Machine.greatestDepth_eq_some.mp deepest).2 index inRange) atMost
  obtain ⟨shallow, -, built, deepest, -⟩ := accepts 39 (by decide) ⟨0⟩
  obtain ⟨deep, -, builtToo, deepestToo, -⟩ := accepts 41 (by decide) ⟨0⟩
  obtain ⟨root, rendered, readBack⟩ :=
    decided _ _ _ shallow built {} (sufficient deepest (by decide))
  obtain ⟨other, renderedToo, refused⟩ :=
    decided _ _ _ deep builtToo {} (sufficient deepestToo (by decide))
  simp only [deepest] at readBack
  simp only [deepestToo] at refused
  exact ⟨shallow, deep, deepest, deepestToo, root, other, rendered, renderedToo,
    readBack.1 (Nat.le_refl 39), refused.2.2 (Nat.le_refl 41)⟩

end Statechart
