import Statechart.Proofs.Machine.Ascent
import Statechart.Proofs.Record.Refusal

/-!
Visits. A rendering goes down from the top level, and counts the levels on its way. Here
it is done once more with a note of each visit, of the state and of the level: its outcome
is the same, and it comes to the states in the order of the document, to each of them at
the level of its depth, until it is through or has come to the first that is refused.
-/

namespace Statechart

/-! ## Noting visits -/

/-- A state that a rendering comes to, and the level at which it does. -/
structure Visit where
  index : StateIndex
  level : Nat

/-- What a computation comes to, with the visits that it has made by then. -/
structure Visiting (α : Type) where
  visits : List Visit
  outcome : Except TreeError α

namespace Visiting

variable {α β γ : Type}

/-- A computation without visits. -/
def of (outcome : Except TreeError α) : Visiting α :=
  ⟨[], outcome⟩

def note (visit : Visit) : Visiting Unit :=
  ⟨[visit], .ok ()⟩

instance : Monad Visiting where
  pure value := of (.ok value)
  bind first next :=
    match first.outcome with
    | .ok value => ⟨first.visits ++ (next value).visits, (next value).outcome⟩
    | .error error => ⟨first.visits, .error error⟩

@[simp] theorem outcome_of (outcome : Except TreeError α) : (of outcome).outcome = outcome := rfl

@[simp] theorem outcome_note (visit : Visit) : (note visit).outcome = .ok () := rfl

@[simp] theorem outcome_bind (first : Visiting α) (next : α → Visiting β) :
    (first >>= next).outcome = first.outcome >>= fun value => (next value).outcome := by
  rcases first with ⟨visits, error | value⟩ <;> rfl

theorem visits_note_bind (visit : Visit) (next : Unit → Visiting β) :
    (note visit >>= next).visits = visit :: (next ()).visits := rfl

theorem visits_bind_of_error {first : Visiting α} {error : TreeError}
    (failed : first.outcome = .error error) (next : α → Visiting β) :
    (first >>= next).visits = first.visits := by
  rcases first with ⟨visits, outcome⟩
  cases failed
  rfl

theorem visits_bind_of_ok {first : Visiting α} {value : α} (passed : first.outcome = .ok value)
    (next : α → Visiting β) : (first >>= next).visits = first.visits ++ (next value).visits := by
  rcases first with ⟨visits, outcome⟩
  cases passed
  rfl

/-- What is done without visits adds none. -/
theorem visits_bind_of_nil {first : Visiting α} {next : α → Visiting β}
    (none : ∀ value, (next value).visits = []) : (first >>= next).visits = first.visits := by
  cases outcome : first.outcome with
  | error error => exact visits_bind_of_error outcome next
  | ok value => rw [visits_bind_of_ok outcome, none, List.append_nil]

theorem of_ok_bind (value : α) (next : α → Visiting β) : of (.ok value) >>= next = next value := by
  change Visiting.mk ([] ++ (next value).visits) (next value).outcome = next value
  rw [List.nil_append]

theorem ext_outcome {left right : Visiting α} (sameVisits : left.visits = right.visits)
    (sameOutcome : left.outcome = right.outcome) : left = right := by
  cases left
  cases right
  cases sameVisits
  cases sameOutcome
  rfl

theorem id_map (first : Visiting α) : id <$> first = first := by
  rcases first with ⟨visits, error | value⟩
  · rfl
  · exact ext_outcome (List.append_nil visits) rfl

theorem pure_bind (value : α) (next : α → Visiting β) : pure value >>= next = next value :=
  ext_outcome (List.nil_append _) rfl

theorem bind_assoc (first : Visiting α) (next : α → Visiting β) (last : β → Visiting γ) :
    first >>= next >>= last = first >>= fun value => next value >>= last := by
  rcases first with ⟨visits, error | value⟩
  · rfl
  · cases passed : (next value).outcome with
    | error error => simp only [bind, passed]
    | ok middle => simp only [bind, passed, List.append_assoc]

instance : LawfulMonad Visiting :=
  .mk' Visiting id_map pure_bind bind_assoc

/-! ## Up to the first failure -/

/-- The items up to the first bad one, which is the last of them. -/
def upToFirst (bad : α → Bool) : List α → List α
  | [] => []
  | item :: items => item :: if bad item then [] else upToFirst bad items

theorem upToFirst_append (bad : α → Bool) (items others : List α) :
    upToFirst bad (items ++ others) =
      upToFirst bad items ++ if items.any bad then [] else upToFirst bad others := by
  induction items with
  | nil => rfl
  | cons item items induction =>
      rw [List.cons_append, upToFirst, upToFirst, induction, List.any_cons]
      cases bad item <;> simp

/-- An item is reached when none before it is bad. -/
theorem mem_upToFirst [DecidableEq α] {bad : α → Bool} {items : List α} {item : α}
    (member : item ∈ items) :
    item ∈ upToFirst bad items ↔ ∀ earlier ∈ items.takeWhile (· ≠ item), bad earlier = false := by
  induction items with
  | nil => cases member
  | cons head items induction =>
      rw [upToFirst, List.takeWhile_cons]
      by_cases same : head = item
      · simp [same]
      · have later : item ∈ items := (List.mem_cons.mp member).resolve_left (Ne.symm same)
        cases notBad : bad head <;> simp [same, Ne.symm same, notBad, induction later]

theorem upToFirst_sublist (bad : α → Bool) (items : List α) :
    (upToFirst bad items).Sublist items := by
  induction items with
  | nil => exact .refl _
  | cons item items induction =>
      rw [upToFirst]
      cases bad item with
      | true => exact (List.nil_sublist items).cons_cons item
      | false => exact induction.cons_cons item

theorem outcome_mapM (action : α → Visiting β) (items : List α) :
    (items.mapM action).outcome = items.mapM fun item => (action item).outcome := by
  induction items with
  | nil => rfl
  | cons item items induction =>
      rw [List.mapM_cons, List.mapM_cons, outcome_bind]
      simp only [outcome_bind, induction]
      rfl

/-- Item by item the visits are made, until one of them is bad and its action fails. -/
theorem visits_mapM {action : α → Visiting β} {part : α → List γ} {bad : γ → Bool}
    {visit : γ → Visit} {items : List α}
    (each : ∀ item ∈ items, (action item).visits = (upToFirst bad (part item)).map visit ∧
      (errorOf? (action item).outcome).isSome = (part item).any bad) :
    (items.mapM action).visits = (upToFirst bad (items.flatMap part)).map visit := by
  induction items with
  | nil => rfl
  | cons item items induction =>
      rcases each item List.mem_cons_self with ⟨visited, failed⟩
      have rest := induction fun later member => each later (List.mem_cons_of_mem _ member)
      rw [List.mapM_cons, List.flatMap_cons, upToFirst_append, List.map_append, ← visited, ← failed]
      cases outcome : (action item).outcome with
      | error error =>
          rw [visits_bind_of_error outcome]
          exact (List.append_nil _).symm
      | ok value =>
          rw [visits_bind_of_ok outcome, visits_bind_of_nil fun _ => rfl, rest]
          rfl

end Visiting

namespace Renderer

open Visiting Machine

/-! ## The rendering with its visits -/

/-- Renders a state that is come to at some level, from the top level down. -/
def visitState (renderer : Renderer) (level : Nat) (index : StateIndex) : Visiting Record := do
  note ⟨index, level⟩
  if renderer.maxDepth < level then of (.error (.recursionLimit renderer.maxDepth))
  else do
    let state ← of (renderer.lookup index)
    let entered ← of (entry state)
    let (others, finals) ← of (renderer.partition state.outgoing)
    match entered with
    | none => return stateRecord state others finals
    | some target => do
        let states ← state.children.mapM (renderer.visitState (level + 1))
        let target ← of (renderer.lookup target)
        return compositeRecord state target others finals states
termination_by renderer.maxDepth + 1 - level

def visitMachine (renderer : Renderer) : Visiting Record := do
  let machine := renderer.machine
  let states ← machine.topLevel.mapM (renderer.visitState 0)
  let initialId ← of renderer.initialId
  return {
    id := machine.id
    kind := machineType
    attributes := .ofList [("name", .text machine.name)]
    children := [("states", .many states)]
    refs := .ofList [("initialState", initialId)]
    location := machine.location }

variable {renderer : Renderer}

theorem outcome_visitState (levels : Nat) {level : Nat} (index : StateIndex)
    (left : levels + level = renderer.maxDepth + 1) :
    (renderer.visitState level index).outcome = renderer.stateWithin levels index := by
  induction levels generalizing level index with
  | zero =>
      have deep : renderer.maxDepth < level := by omega
      rw [visitState, if_pos deep]
      rfl
  | succ levels induction =>
      have shallow : ¬renderer.maxDepth < level := by omega
      have inside : ∀ child,
          (renderer.visitState (level + 1) child).outcome = renderer.stateWithin levels child :=
        fun child => induction child (by omega)
      rw [visitState, if_neg shallow, stateWithin]
      simp only [outcome_bind, outcome_note, outcome_of, ok_bind]
      refine bind_congr fun state => bind_congr fun entered => bind_congr fun partitioned => ?_
      cases entered with
      | none => rfl
      | some target =>
          simp only [outcome_bind, outcome_mapM, outcome_of, inside]
          exact bind_congr fun states => bind_congr fun target => rfl

/-- Noting the visits changes nothing about a rendering. -/
theorem outcome_visitMachine (renderer : Renderer) :
    renderer.visitMachine.outcome = renderer.stateMachine := by
  have each : ∀ index, (renderer.visitState 0 index).outcome =
      renderer.stateWithin (renderer.maxDepth + 1) index :=
    fun index => outcome_visitState (renderer.maxDepth + 1) index rfl
  rw [visitMachine, stateMachine]
  simp only [outcome_bind, outcome_mapM, outcome_of, each]
  rfl

/-! ## Which states are visited -/

/-- A state with which a rendering does not go on. -/
def refuses (renderer : Renderer) (index : StateIndex) : Bool :=
  (renderer.machine.renderDefect renderer.maxDepth index).isSome

/-- The visit of a state at the level of its depth. -/
def visitOf (renderer : Renderer) (index : StateIndex) : Visit :=
  ⟨index, renderer.machine.depth index⟩

theorem visits_visitState_of_deep {level : Nat} (deep : renderer.maxDepth < level)
    (index : StateIndex) : (renderer.visitState level index).visits = [⟨index, level⟩] := by
  rw [visitState, if_pos deep]
  rfl

/-- A state that is not too deep is gone through when it is entered. -/
theorem visits_visitState {level : Nat} {index : StateIndex} {state : State}
    {others finals : List Record} (shallow : level ≤ renderer.maxDepth)
    (found : renderer.machine.state? index = some state)
    (rendered : renderer.partition state.outgoing = .ok (others, finals)) :
    (renderer.visitState level index).visits = ⟨index, level⟩ ::
      if state.initial.isSome then
        (state.children.mapM (renderer.visitState (level + 1))).visits
      else [] := by
  rw [visitState, if_neg (Nat.not_lt_of_le shallow), lookup_eq_ok.mpr found, visits_note_bind]
  refine congrArg _ ?_
  rcases state with ⟨_, _, _, _, _, _, _, _ | ⟨children, _ | initial⟩⟩ <;>
    simp only [entry, of_ok_bind, rendered]
  · rfl
  · rfl
  · refine visits_bind_of_nil fun states => ?_
    exact visits_bind_of_nil fun target => rfl

section Machine

variable (contained : renderer.machine.Contained) (adjacent : renderer.machine.Adjacent)
include contained adjacent

/-- The rendering of a state at the level of its depth fails when its subtree holds a state
that is refused. -/
theorem isSome_errorOf?_visitState {bound : Nat} {index : StateIndex}
    (inRange : index < renderer.machine.states.length)
    (level : renderer.machine.depth index ≤ renderer.maxDepth + 1)
    (enough : renderer.machine.states.length ≤ bound + index) :
    (errorOf? (renderer.visitState (renderer.machine.depth index) index).outcome).isSome =
      (renderer.machine.subtree bound index).any renderer.refuses := by
  have left := Nat.sub_add_cancel level
  rw [outcome_visitState _ index left, errorOf?_stateWithin contained adjacent inRange left enough,
    List.isSome_findSome?]
  rfl

/-- The states of a subtree are visited in their order, each at the level of its depth, up
to the first that is refused. -/
theorem visits_subtree {bound : Nat} {index : StateIndex}
    (inRange : index < renderer.machine.states.length)
    (enough : renderer.machine.states.length ≤ bound + index) :
    (renderer.visitState (renderer.machine.depth index) index).visits =
      (upToFirst renderer.refuses (renderer.machine.subtree bound index)).map renderer.visitOf := by
  induction bound generalizing index with
  | zero =>
      rw [Nat.zero_add] at enough
      exact absurd inRange (Nat.not_lt_of_le enough)
  | succ bound induction =>
      rw [subtree, upToFirst, List.map_cons]
      rcases Nat.lt_or_ge renderer.maxDepth (renderer.machine.depth index) with deep | shallow
      · rw [visits_visitState_of_deep deep, refuses, renderDefect_of_deep deep]
        rfl
      · rcases exists_state? inRange with ⟨state, found⟩
        rcases outgoing_renders adjacent found with ⟨others, finals, rendered, -⟩
        rw [visits_visitState shallow found rendered, refuses, renderDefect_of_state? shallow found,
          childrenOf_of_state? found]
        refine congrArg _ ?_
        cases composite : state.isComposite with
        | false =>
            rw [State.initial_of_simple composite, State.children_of_simple composite]
            rfl
        | true =>
            cases state.initial with
            | none => rfl
            | some initial =>
                change (state.children.mapM (renderer.visitState _)).visits = _
                apply visits_mapM
                intro child member
                have inside : child ∈ renderer.machine.childrenOf (some index) := by
                  rwa [childrenOf_of_state? found]
                have enoughInside := contained.length_le_of_child inside enough
                rw [← contained.depth_child inside]
                refine ⟨induction (contained.lt_length inside) enoughInside, ?_⟩
                refine isSome_errorOf?_visitState contained adjacent (contained.lt_length inside) ?_
                  enoughInside
                rw [contained.depth_child inside]
                exact Nat.succ_le_succ shallow

theorem visits_visitMachine : renderer.visitMachine.visits =
    (upToFirst renderer.refuses renderer.machine.documentOrder).map renderer.visitOf := by
  rw [visitMachine, visits_bind_of_nil fun states => visits_bind_of_nil fun initialId => rfl]
  apply visits_mapM
  intro index member
  have inRange := contained.lt_length (show index ∈ renderer.machine.childrenOf none from member)
  have enough := Nat.le_add_right renderer.machine.states.length index
  rw [← contained.depth_eq_zero member]
  refine ⟨visits_subtree contained adjacent inRange enough, ?_⟩
  refine isSome_errorOf?_visitState contained adjacent inRange ?_ enough
  rw [contained.depth_eq_zero member]
  exact Nat.zero_le _

end Machine

/-- How a rendering comes to a state: once, at the level of its depth, unless it has come to
a state with a defect before. -/
structure ComesTo (renderer : Renderer) (index : StateIndex) : Prop where
  renders : renderer.visitMachine.outcome = renderer.stateMachine
  level : ∀ {level}, ⟨index, level⟩ ∈ renderer.visitMachine.visits →
    level = renderer.machine.depth index
  once : (renderer.visitMachine.visits.map (·.index)).count index ≤ 1
  comes : ⟨index, renderer.machine.depth index⟩ ∈ renderer.visitMachine.visits ↔
    ∀ earlier ∈ renderer.machine.documentOrder.takeWhile (· ≠ index),
      renderer.machine.renderDefect renderer.maxDepth earlier = none
  goesThrough : (∃ root, renderer.stateMachine = .ok root) →
    ⟨index, renderer.machine.depth index⟩ ∈ renderer.visitMachine.visits

theorem comesTo (contained : renderer.machine.Contained) (adjacent : renderer.machine.Adjacent)
    {index : StateIndex} (inRange : index < renderer.machine.states.length) :
    renderer.ComesTo index := by
  let order := renderer.machine.documentOrder
  have everyone : order.Perm (List.range renderer.machine.states.length) :=
    contained.documentOrder_perm
  have visits := visits_visitMachine contained adjacent
  have comes : ⟨index, renderer.machine.depth index⟩ ∈ renderer.visitMachine.visits ↔
      ∀ earlier ∈ order.takeWhile (· ≠ index),
        renderer.machine.renderDefect renderer.maxDepth earlier = none := by
    have visited : ⟨index, renderer.machine.depth index⟩ ∈ renderer.visitMachine.visits ↔
        index ∈ upToFirst renderer.refuses order := by
      rw [visits, List.mem_map]
      constructor
      · rintro ⟨other, member, same⟩
        cases same
        exact member
      · exact fun member => ⟨index, member, rfl⟩
    have listed := everyone.mem_iff.mpr (List.mem_range.mpr inRange)
    rw [visited, mem_upToFirst listed]
    simp only [refuses, Option.isSome_eq_false_iff, Option.isNone_iff_eq_none]
  constructor
  case renders => exact renderer.outcome_visitMachine
  case level =>
    intro level visited
    rw [visits] at visited
    rcases List.mem_map.mp visited with ⟨other, -, same⟩
    cases same
    rfl
  case once =>
    have indices : renderer.visitMachine.visits.map (·.index) =
        upToFirst renderer.refuses order := by
      rw [visits, List.map_map]
      exact List.map_id _
    rw [indices]
    have distinct := everyone.nodup_iff.mpr List.nodup_range
    exact List.nodup_iff_count_le_one.mp (distinct.sublist (upToFirst_sublist _ _)) index
  case comes => exact comes
  case goesThrough =>
    intro rendered
    rw [← errorOf?_eq_none, errorOf?_stateMachine contained adjacent] at rendered
    refine comes.mpr fun earlier before => ?_
    exact List.findSome?_eq_none_iff.mp rendered earlier ((List.takeWhile_sublist _).mem before)

end Renderer

namespace Machine

/-- The depth of a state is what the walk up from it counts and the level to which the way
down has come when it gets there. -/
structure MeasuresNesting (machine : Machine) (index : StateIndex) : Prop where
  ends : ∀ turns last,
    EndsAfter (Ascent.turn machine) turns (Ascent.start machine index) last ↔
      turns = machine.depth index ∧ last = ⟨machine.depth index, none⟩
  bounded : machine.depth index ≤ index
  outside : machine.states.length ≤ index → machine.depth index = 0
  around : ∃ around : List StateIndex, around.Nodup ∧ around.length = machine.depth index ∧
    ∀ outer, outer ∈ around ↔
      Relation.TransGen (fun inner outer => machine.parent? inner = some outer) index outer
  topLevel : index < machine.states.length →
    (machine.depth index = 0 ↔ index ∈ machine.topLevel)
  nested : index < machine.states.length → index ∉ machine.topLevel →
    ∃ parent, machine.parent? index = some parent ∧
      machine.depth index = machine.depth parent + 1
  visited : index < machine.states.length → ∀ renderer : Renderer, renderer.machine = machine →
    renderer.ComesTo index

variable {machine : Machine}

theorem Reachable.depth_measuresNesting (reachable : machine.Reachable) (index : StateIndex) :
    machine.MeasuresNesting index := by
  have contained := reachable.contained
  constructor
  case ends => exact (contained.ascent_endsAfter index).iff
  case bounded => exact contained.depth_le index
  case outside => exact fun outside => depth_topLevel (parent?_of_not_lt outside)
  case around => exact contained.exists_around index
  case topLevel => exact contained.depth_eq_zero_iff
  case nested =>
    intro inRange inside
    rw [contained.mem_topLevel_iff inRange] at inside
    rcases Option.ne_none_iff_exists'.mp inside with ⟨parent, nested⟩
    exact ⟨parent, nested, contained.depth_nested nested⟩
  case visited =>
    rintro inRange renderer rfl
    exact Renderer.comesTo contained reachable.adjacent inRange

/-- A state two levels down, and a place behind the last state. -/
theorem depth_measuresNesting_door :
    let machine := ((Construction.start "door" none {}).run [
      .addComposite (some "shut") none none, .addSimple (some "open") none false none,
      .addComposite (some "locked") (some 0) none, .addSimple (some "once") (some 2) false none,
      .setCompositeInitial 0 2, .setCompositeInitial 2 3]).2.machine
    machine.Reachable ∧ machine.depth 3 = 2 ∧ machine.MeasuresNesting 3 ∧
      machine.depth 7 = 0 ∧ machine.MeasuresNesting 7 := by
  intro machine
  have reachable : machine.Reachable := reachable_run _ _ _ _
  exact ⟨reachable, rfl, reachable.depth_measuresNesting 3, rfl, reachable.depth_measuresNesting 7⟩

end Machine

end Statechart
