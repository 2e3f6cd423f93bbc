import Statechart.Proofs.Declaration.Deciding
import Statechart.Proofs.Declaration.Outline
import Statechart.Proofs.Machine.Unlinked

/-!
The first pass. It stops with the first defect among the checks of the single
declarations, or it makes the states of the outline and notes their names, their
transitions and the initial names of the composites.
-/

namespace Statechart

/-! ## What is noted of a placement -/

namespace Placement

/-- The state as it is made, with the ids of states numbered from `first` on. -/
def state (first : UInt64) (placement : Placement) : State where
  id := IdSource.idAt "state" (first + UInt64.ofNat placement.position)
  name := placement.declaration.name
  isFinal := placement.declaration.isFinal
  parent := placement.parent
  outgoing := []
  incoming := []
  location := placement.declaration.location
  kind := if placement.declaration.isComposite then .composite [] none else .simple

def bearer? (placement : Placement) : Option (String × StateIndex) :=
  placement.declaration.name.map (·, placement.position)

/-- The initial name of a composite. -/
def entrance? (placement : Placement) : Option (StateIndex × String) :=
  if placement.declaration.isComposite then
    placement.declaration.initial.map (placement.position, ·)
  else none

/-- A composite is noted after the states inside it. -/
theorem bearers_cons (placement : Placement) (below : List Placement) :
    (below.filterMap (·.bearer?) ++ placement.bearer?.toList).Perm
      ((placement :: below).filterMap (·.bearer?)) := by
  cases bearer : placement.bearer? with
  | none => simp [bearer]
  | some noted =>
      rw [List.filterMap_cons_some bearer]
      exact List.perm_append_singleton noted _

theorem entrance?_eq_some {placement : Placement} {composite : StateIndex} {name : String} :
    placement.entrance? = some (composite, name) ↔
      composite = placement.position ∧ placement.declaration.isComposite = true ∧
        placement.declaration.initial = some name := by
  rw [entrance?]
  cases placement.declaration.isComposite <;> cases placement.declaration.initial <;>
    simp [eq_comm]

theorem initialDefect_eq_bind_entrance? (placement : Placement) :
    placement.declaration.initialDefect = placement.entrance?.bind fun entry =>
      bearerDefect entry.2 (StateDeclaration.countNamed entry.2 placement.declaration.states) := by
  rw [StateDeclaration.initialDefect, entrance?]
  cases placement.declaration.isComposite <;> cases placement.declaration.initial <;> rfl

@[simp] theorem state_isComposite (first : UInt64) (placement : Placement) :
    (placement.state first).isComposite = placement.declaration.isComposite := by
  rw [state]
  cases placement.declaration.isComposite <;> rfl

@[simp] theorem unlinked_state (first : UInt64) (placement : Placement) :
    (placement.state first).unlinked = placement.state first := by
  rw [State.unlinked]
  rw [state_isComposite]
  rfl

end Placement

/-! ## Growing a draft -/

namespace Draft

def machine (draft : Draft) : Machine :=
  draft.construction.machine

/-- The next state gets the id with its position behind `first`. -/
def Numbered (first : UInt64) (draft : Draft) : Prop :=
  draft.construction.ids.next = first + UInt64.ofNat draft.machine.states.length

/-- A draft has grown by the states at `placements`, and so have its notes. -/
structure Grows (first : UInt64) (before after : Draft) (placements : List Placement)
    (bearers : List (String × StateIndex)) (transitions : List TransitionDeclaration) : Prop where
  reaches : before.construction.Reaches after.construction
  numbered : after.Numbered first
  states : after.machine.unlinkedStates =
    before.machine.unlinkedStates ++ placements.map (·.state first)
  bearers : after.bearers.Perm (before.bearers ++ bearers)
  transitions : after.transitions = before.transitions ++ transitions
  initials : after.initials = before.initials ++ placements.filterMap (·.entrance?)
  connected : after.machine.transitions = before.machine.transitions
  entered : after.machine.initial = before.machine.initial
  maxDepth : after.machine.maxDepth = before.machine.maxDepth

variable {first : UInt64} {before middle after : Draft}

theorem Grows.trans {placements laterPlacements : List Placement}
    {bearers laterBearers : List (String × StateIndex)}
    {transitions laterTransitions : List TransitionDeclaration}
    (earlier : before.Grows first middle placements bearers transitions)
    (later : middle.Grows first after laterPlacements laterBearers laterTransitions) :
    before.Grows first after (placements ++ laterPlacements) (bearers ++ laterBearers)
      (transitions ++ laterTransitions) where
  reaches := earlier.reaches.trans later.reaches
  numbered := later.numbered
  states := by
    rw [later.states, earlier.states, List.map_append, List.append_assoc]
  bearers := by
    have grown := later.bearers.trans (earlier.bearers.append_right laterBearers)
    rwa [List.append_assoc] at grown
  transitions := by
    rw [later.transitions, earlier.transitions, List.append_assoc]
  initials := by
    rw [later.initials, earlier.initials, List.filterMap_append, List.append_assoc]
  connected := later.connected.trans earlier.connected
  entered := later.entered.trans earlier.entered
  maxDepth := later.maxDepth.trans earlier.maxDepth

theorem Grows.refl (numbered : before.Numbered first) : before.Grows first before [] [] [] where
  reaches := .refl _
  numbered := numbered
  states := by simp
  bearers := by simp
  transitions := by simp
  initials := by simp
  connected := rfl
  entered := rfl
  maxDepth := rfl

theorem Grows.reorder {placements : List Placement}
    {bearers otherBearers : List (String × StateIndex)} {transitions : List TransitionDeclaration}
    (grows : before.Grows first after placements bearers transitions)
    (same : bearers.Perm otherBearers) :
    before.Grows first after placements otherBearers transitions :=
  { grows with bearers := grows.bearers.trans (same.append_left before.bearers) }

theorem Grows.length_states {placements : List Placement} {bearers : List (String × StateIndex)}
    {transitions : List TransitionDeclaration}
    (grows : before.Grows first after placements bearers transitions) :
    after.machine.states.length = before.machine.states.length + placements.length := by
  have lengths := congrArg List.length grows.states
  simpa using lengths

/-- What accepts states before still does afterwards. -/
theorem Grows.checkParent {placements : List Placement} {bearers : List (String × StateIndex)}
    {transitions : List TransitionDeclaration}
    (grows : before.Grows first after placements bearers transitions) {parent : Option StateIndex}
    (accepted : before.construction.checkParent parent = .ok ()) :
    after.construction.checkParent parent = .ok () := by
  rw [Construction.checkParent_eq_ok] at accepted ⊢
  intro index nested
  rcases accepted index nested with ⟨held, found, composite⟩
  have inRange := Machine.lt_of_state? found
  have counterpart : after.machine.unlinkedStates[index]? = some held.unlinked := by
    rw [grows.states, List.getElem?_append_left (by rwa [Machine.length_unlinkedStates]),
      Machine.getElem?_unlinkedStates]
    exact congrArg (Option.map _) found
  rw [Machine.getElem?_unlinkedStates, Option.map_eq_some_iff] at counterpart
  rcases counterpart with ⟨heldAfter, foundAfter, same⟩
  refine ⟨heldAfter, foundAfter, ?_⟩
  rw [← State.unlinked_isComposite, same, State.unlinked_isComposite]
  exact composite

/-- The effect of making one state and noting its initial name. -/
theorem grows_made (numbered : before.Numbered first) {placement : Placement}
    (reaches : before.construction.Reaches
      ⟨before.machine.withState (placement.state first), ⟨before.construction.ids.next + 1⟩⟩)
    {initials : List (StateIndex × String)}
    (noted : initials = before.initials ++ placement.entrance?.toList) :
    before.Grows first
      { before with
        construction :=
          ⟨before.machine.withState (placement.state first), ⟨before.construction.ids.next + 1⟩⟩
        initials }
      [placement] [] [] where
  reaches := reaches
  numbered := by
    rw [Numbered] at numbered ⊢
    simp only [machine, Machine.length_withState, numbered, UInt64.ofNat_add, UInt64.add_assoc]
    rfl
  states := by simp [machine]
  bearers := by simp
  transitions := by simp
  initials := by
    rw [noted]
    cases entry : placement.entrance? <;> simp [entry]
  connected := Machine.transitions_withState _ _
  entered := Machine.initial_withState _ _
  maxDepth := Machine.maxDepth_withState _ _

theorem grows_noteState (numbered : before.Numbered first) (placement : Placement) :
    before.Grows first
      { before with
        bearers := before.bearers ++ placement.bearer?.toList
        transitions := before.transitions ++ placement.declaration.transitions }
      [] placement.bearer?.toList placement.declaration.transitions where
  reaches := .refl _
  numbered := numbered
  states := by simp [machine]
  bearers := .refl _
  transitions := rfl
  initials := by simp
  connected := rfl
  entered := rfl
  maxDepth := rfl

end Draft

/-! ## Drafting a state -/

namespace StateDeclaration

open Drafting

variable {maxDepth level : Nat} {state : StateDeclaration}

theorem draft_of_defect {error : BuildError} (defective : state.defect maxDepth level = some error)
    (parent : Option StateIndex) (draft : Draft) :
    state.draft maxDepth parent level draft = .error error draft := by
  rcases state with ⟨name, isFinal, initial, states, transitions, location⟩
  by_cases deep : maxDepth < level
  · simp only [defect, deep, if_true, Option.some.injEq] at defective
    subst defective
    cases initial <;> simp only [StateDeclaration.draft, gt_iff_lt, deep, if_true] <;> rfl
  · cases childless : states.isEmpty <;> cases isFinal <;> cases initial <;>
      simp [defect, isComposite, deep, childless] at defective <;> subst defective <;>
      simp [StateDeclaration.draft, deep, childless] <;> rfl

theorem draft_simple (sound : state.defect maxDepth level = none)
    (simple : state.isComposite = false) (parent : Option StateIndex) :
    state.draft maxDepth parent level = (do
      let index ← construct (·.addSimple state.name parent state.isFinal state.location)
      noteState state.name index state.transitions) := by
  rcases state with ⟨name, isFinal, initial, states, transitions, location⟩
  rw [defect_eq_none] at sound
  rcases sound with ⟨shallow, -, simpleSound⟩
  cases simpleSound simple
  have childless : states.isEmpty = true := by simpa [isComposite] using simple
  simp [StateDeclaration.draft, Nat.not_lt.mpr shallow, childless]

theorem draft_composite (sound : state.defect maxDepth level = none)
    (composite : state.isComposite = true) {initial : String}
    (entered : state.initial = some initial) (parent : Option StateIndex) :
    state.draft maxDepth parent level = (do
      let index ← construct (·.addComposite state.name parent state.location)
      noteInitial index initial
      draftAll maxDepth state.states (some index) (level + 1)
      noteState state.name index state.transitions) := by
  rcases state with ⟨name, isFinal, _, states, transitions, location⟩
  cases entered
  rw [defect_eq_none] at sound
  rcases sound with ⟨shallow, compositeSound, -⟩
  cases (compositeSound composite).1
  have populated : states.isEmpty = false := by simpa [isComposite] using composite
  simp [StateDeclaration.draft, Nat.not_lt.mpr shallow, populated]

/-- The first defect of single declarations, those inside a declaration after its own. -/
def firstDefect (maxDepth level : Nat) (states : List StateDeclaration) : Option BuildError :=
  (nestedAll level states).findSome? fun entry => entry.2.defect maxDepth entry.1

theorem firstDefect_cons (maxDepth level : Nat) (state : StateDeclaration)
    (states : List StateDeclaration) :
    firstDefect maxDepth level (state :: states) =
      ((state.defect maxDepth level).or (firstDefect maxDepth (level + 1) state.states)).or
        (firstDefect maxDepth level states) := by
  rw [firstDefect, nestedAll_cons, findSome?_cons_eq_or, List.findSome?_append, Option.or_assoc]
  rfl

/-- Drafting a list of states stops with its first defect, or makes its outline. -/
def Drafts (maxDepth : Nat) (first : UInt64) (states : List StateDeclaration) : Prop :=
  ∀ parent level draft, draft.Numbered first → draft.construction.checkParent parent = .ok () →
    (draftAll maxDepth states parent level).Decides draft (firstDefect maxDepth level states)
      fun _ after =>
        let placements := outlineAll parent level draft.machine.states.length states
        draft.Grows first after placements (placements.filterMap (·.bearer?))
          (allTransitionsOf states)

variable {first : UInt64} {parent : Option StateIndex} {draft : Draft}

theorem draft_decides_of_simple (sound : state.defect maxDepth level = none)
    (simple : state.isComposite = false) (numbered : draft.Numbered first)
    (accepted : draft.construction.checkParent parent = .ok ()) :
    (state.draft maxDepth parent level).Decides draft none fun _ after =>
      let placement : Placement := ⟨draft.machine.states.length, parent, level, state⟩
      draft.Grows first after [placement] ([placement].filterMap (·.bearer?)) state.transitions := by
  let placement : Placement := ⟨draft.machine.states.length, parent, level, state⟩
  have added : draft.construction.addSimple state.name parent state.isFinal state.location =
      .ok (draft.machine.states.length,
        ⟨draft.machine.withState (placement.state first), ⟨draft.construction.ids.next + 1⟩⟩) := by
    rw [Construction.addSimple, Construction.addState_of_accepted accepted, numbered]
    simp [placement, Placement.state, simple, Draft.machine]
  have unentered : placement.entrance? = none := by simp [Placement.entrance?, placement, simple]
  have noted : draft.initials = draft.initials ++ placement.entrance?.toList := by simp [unentered]
  have made := Draft.grows_made numbered (.of_addSimple added) noted
  rw [draft_simple sound simple]
  apply Decides.construct_bind added
  apply decides_modify
  have all := made.trans (Draft.grows_noteState made.numbered placement)
  exact all.reorder (Placement.bearers_cons placement [])

theorem draft_decides_of_composite (sound : state.defect maxDepth level = none)
    (composite : state.isComposite = true) (inside : Drafts maxDepth first state.states)
    (numbered : draft.Numbered first)
    (accepted : draft.construction.checkParent parent = .ok ()) :
    (state.draft maxDepth parent level).Decides draft
      (firstDefect maxDepth (level + 1) state.states) fun _ after =>
        let index := draft.machine.states.length
        let placement : Placement := ⟨index, parent, level, state⟩
        let below := outlineAll (some index) (level + 1) (index + 1) state.states
        draft.Grows first after (placement :: below)
          ((placement :: below).filterMap (·.bearer?))
          (allTransitionsOf state.states ++ state.transitions) := by
  let index := draft.machine.states.length
  let placement : Placement := ⟨index, parent, level, state⟩
  have named := ((defect_eq_none.mp sound).2.1 composite).2
  rcases Option.isSome_iff_exists.mp named with ⟨initial, entered⟩
  have added : draft.construction.addComposite state.name parent state.location =
      .ok (index,
        ⟨draft.machine.withState (placement.state first), ⟨draft.construction.ids.next + 1⟩⟩) := by
    rw [Construction.addComposite, Construction.addState_of_accepted accepted, numbered]
    simp [placement, index, Placement.state, composite, Draft.machine,
      ((defect_eq_none.mp sound).2.1 composite).1]
  have noted : draft.initials ++ [(index, initial)] =
      draft.initials ++ placement.entrance?.toList := by
    simp [Placement.entrance?, placement, composite, entered]
  have made := Draft.grows_made numbered (.of_addComposite added) noted
  have isComposite : (placement.state first).isComposite = true := by simpa using composite
  have acceptedBelow :=
    Construction.checkParent_withState accepted isComposite ⟨draft.construction.ids.next + 1⟩
  have length := made.length_states
  rw [draft_composite sound composite entered]
  apply Decides.construct_bind added
  apply Decides.modify_bind
  refine (inside _ _ _ made.numbered acceptedBelow).bind_pass ?_
  intro _ middle grown
  apply decides_modify
  rw [length] at grown
  have all := (made.trans grown).trans (Draft.grows_noteState grown.numbered placement)
  simp only [List.append_nil, List.nil_append, List.cons_append] at all
  exact all.reorder (Placement.bearers_cons placement _)

theorem draft_decides (inside : Drafts maxDepth first state.states)
    (numbered : draft.Numbered first)
    (accepted : draft.construction.checkParent parent = .ok ()) :
    (state.draft maxDepth parent level).Decides draft
      ((state.defect maxDepth level).or (firstDefect maxDepth (level + 1) state.states))
      fun _ after =>
        let index := draft.machine.states.length
        let placement : Placement := ⟨index, parent, level, state⟩
        let below := outlineAll (some index) (level + 1) (index + 1) state.states
        draft.Grows first after (placement :: below)
          ((placement :: below).filterMap (·.bearer?))
          (allTransitionsOf state.states ++ state.transitions) := by
  cases defective : state.defect maxDepth level with
  | some error => exact ⟨draft, draft_of_defect defective parent draft⟩
  | none =>
      cases composite : state.isComposite with
      | true => exact draft_decides_of_composite defective composite inside numbered accepted
      | false =>
          have childless : state.states = [] := by simpa [isComposite] using composite
          rw [childless]
          exact draft_decides_of_simple defective composite numbered accepted

theorem drafts (maxDepth : Nat) (first : UInt64) (states : List StateDeclaration) :
    Drafts maxDepth first states := by
  induction states using states_induction with
  | nil =>
      intro parent level draft numbered accepted
      exact decides_pure (Draft.Grows.refl numbered)
  | cons state states inside later =>
      intro parent level draft numbered accepted
      rw [draftAll, firstDefect_cons]
      refine (draft_decides inside numbered accepted).bind ?_
      intro _ middle grown
      have length := grown.length_states
      refine (later parent level middle grown.numbered (grown.checkParent accepted)).weaken ?_
      intro _ after grownLater
      rw [List.length_cons, ← Nat.add_assoc, Nat.add_right_comm] at length
      rw [length] at grownLater
      have all := grown.trans grownLater
      rw [← List.filterMap_append, List.cons_append] at all
      rw [outlineAll_cons, allTransitionsOf_cons]
      exact all

end StateDeclaration

end Statechart
