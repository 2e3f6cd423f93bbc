import Mathlib.Data.List.Forall2
import Statechart.Proofs.Declaration.Following

/-!
The later passes. They make no states: each stops with the first name that does
not stand for one state, or links the states that there are, every name to the one
state that it stands for.
-/

namespace Statechart

namespace Machine

def initialOf (machine : Machine) (index : StateIndex) : Option InitialState :=
  (machine.state? index).bind (·.initial)

theorem initialOf_withTransition (machine : Machine) (transition : Transition)
    (index : StateIndex) :
    (machine.withTransition transition).initialOf index = machine.initialOf index := by
  unfold initialOf
  rw [state?_withTransition]
  cases machine.state? index with
  | none => rfl
  | some held =>
      simp only [Option.map_some, Option.bind_some]
      split <;> split <;> rfl

theorem initialOf_withCompositeInitial {machine : Machine} {composite : StateIndex} {held : State}
    (found : machine.state? composite = some held) (isComposite : held.isComposite = true)
    (target index : StateIndex) :
    (machine.withCompositeInitial composite target).initialOf index =
      if composite = index then some ⟨target, some composite⟩ else machine.initialOf index := by
  unfold initialOf
  rw [state?_withCompositeInitial]
  by_cases same : composite = index
  · subst same
    simp [found, State.setInitial_initial isComposite]
  · cases machine.state? index <;> simp [same]

end Machine

namespace Placement

/-- Among the placements the one at `index` bears the name, and no other one does. -/
def OnlyBearer (placements : List Placement) (name : String) (index : Nat) : Prop :=
  ∀ candidate, (∃ placement ∈ placements, placement.position = candidate ∧
    placement.declaration.name = some name) ↔ candidate = index

theorem OnlyBearer.exists_bearer {placements : List Placement} {name : String} {index : Nat}
    (only : OnlyBearer placements name index) :
    ∃ placement ∈ placements, placement.position = index ∧
      placement.declaration.name = some name :=
  (only index).mpr rfl

end Placement

namespace Draft

/-- The ids of so many transitions in a row. -/
def transitionIds (next : UInt64) (count : Nat) : List String :=
  (List.range count).map fun offset => IdSource.idAt "transition" (next + UInt64.ofNat offset)

theorem transitionIds_add (next : UInt64) (count later : Nat) :
    transitionIds next (count + later) =
      transitionIds next count ++ transitionIds (next + UInt64.ofNat count) later := by
  simp [transitionIds, List.range_add, UInt64.ofNat_add, UInt64.add_assoc, Function.comp_def]

/-- A draft has been linked by some transitions more, numbered one after the other.
The states and the notes taken of them stay. -/
structure Links (before after : Draft) (added : List Transition) : Prop where
  reaches : before.construction.Reaches after.construction
  states : after.machine.unlinkedStates = before.machine.unlinkedStates
  bearers : after.bearers = before.bearers
  initials : after.initials = before.initials
  connected : after.machine.transitions = before.machine.transitions ++ added
  numbered : added.map (·.id) = transitionIds before.construction.ids.next added.length
  next : after.construction.ids.next = before.construction.ids.next + UInt64.ofNat added.length
  maxDepth : after.machine.maxDepth = before.machine.maxDepth

theorem Links.refl (draft : Draft) : Links draft draft [] where
  reaches := .refl _
  states := rfl
  bearers := rfl
  initials := rfl
  connected := by simp
  numbered := rfl
  next := (UInt64.add_zero _).symm
  maxDepth := rfl

theorem Links.trans {before middle after : Draft} {added later : List Transition}
    (earlier : Links before middle added) (links : Links middle after later) :
    Links before after (added ++ later) where
  reaches := earlier.reaches.trans links.reaches
  states := links.states.trans earlier.states
  bearers := links.bearers.trans earlier.bearers
  initials := links.initials.trans earlier.initials
  connected := by rw [links.connected, earlier.connected, List.append_assoc]
  numbered := by
    rw [List.map_append, List.length_append, transitionIds_add, earlier.numbered, links.numbered,
      earlier.next]
  next := by rw [links.next, earlier.next, List.length_append, UInt64.ofNat_add, UInt64.add_assoc]
  maxDepth := links.maxDepth.trans earlier.maxDepth

/-- All states of a declaration are made and their names are noted. -/
structure Complete (first : UInt64) (declaration : MachineDeclaration) (draft : Draft) :
    Prop where
  follows : draft.machine.Follows first declaration
  bearers : draft.bearers.Perm (declaration.outline.filterMap (·.bearer?))

variable {first : UInt64} {declaration : MachineDeclaration} {draft after : Draft}

theorem Complete.links (complete : draft.Complete first declaration) {added : List Transition}
    (links : Links draft after added) : after.Complete first declaration where
  follows :=
    { states := links.states.trans complete.follows.states
      contained := links.reaches.preserves Machine.Contained.advance complete.follows.contained }
  bearers := by
    rw [links.bearers]
    exact complete.bearers

/-- As many states bear a name as declarations do. -/
theorem Complete.length_bearers (complete : draft.Complete first declaration) (name : String) :
    (draft.bearers.filterMap fun bearer =>
        if bearer.1 = name then some bearer.2 else none).length =
      StateDeclaration.countNamed name declaration.allStates := by
  rw [(complete.bearers.filterMap _).length_eq, List.filterMap_filterMap,
    List.length_filterMap_eq_countP, StateDeclaration.countNamed,
    ← MachineDeclaration.outline_declarations, List.countP_map]
  apply List.countP_congr
  intro placement _
  cases named : placement.declaration.name with
  | none => simp [Placement.bearer?, named]
  | some borne => simp [Placement.bearer?, named]

/-- A name is noted for the states that bear it. -/
theorem Complete.mem_bearers (complete : draft.Complete first declaration) {name : String}
    {index : StateIndex} :
    (index ∈ draft.bearers.filterMap fun bearer =>
        if bearer.1 = name then some bearer.2 else none) ↔
      ∃ placement ∈ declaration.outline, placement.position = index ∧
        placement.declaration.name = some name := by
  rw [(complete.bearers.filterMap _).mem_iff, List.filterMap_filterMap, List.mem_filterMap]
  constructor
  · intro noted
    rcases noted with ⟨placement, member, bears⟩
    cases named : placement.declaration.name with
    | none => simp [Placement.bearer?, named] at bears
    | some borne =>
        simp only [Placement.bearer?, named, Option.map_some, Option.bind_some,
          Option.ite_none_right_eq_some, Option.some.injEq] at bears
        rcases bears with ⟨rfl, position⟩
        exact ⟨placement, member, position, named⟩
  · intro placed
    rcases placed with ⟨placement, member, position, named⟩
    exact ⟨placement, member, by simp [Placement.bearer?, named, position]⟩

end Draft

/-! ## Transitions -/

namespace MachineDeclaration

open Drafting

/-- A transition as it is declared, between the states that its names stand for. -/
structure Declares (declaration : MachineDeclaration) (given : TransitionDeclaration)
    (transition : Transition) : Prop where
  source : Placement.OnlyBearer declaration.outline given.source transition.source
  target : Placement.OnlyBearer declaration.outline given.target transition.target
  input : transition.input = given.input
  output : transition.output = given.output
  location : transition.location = given.location

variable {first : UInt64} {declaration : MachineDeclaration} {draft : Draft}

theorem onlyBearer_decides (name : String) (indices : List StateIndex) (draft : Draft) :
    (lift (onlyBearer name indices)).Decides draft (bearerDefect name indices.length)
      fun index after => indices = [index] ∧ after = draft := by
  match indices with
  | [] => exact ⟨draft, rfl⟩
  | [index] => exact ⟨index, draft, rfl, rfl, rfl⟩
  | _ :: _ :: _ => exact ⟨draft, rfl⟩

theorem resolve_decides (complete : draft.Complete first declaration) (name : String) :
    (lift (draft.resolve name)).Decides draft
      (bearerDefect name (StateDeclaration.countNamed name declaration.allStates))
      fun index after => Placement.OnlyBearer declaration.outline name index ∧ after = draft := by
  rw [← complete.length_bearers name]
  refine (onlyBearer_decides name _ draft).weaken ?_
  intro index after resolved
  rcases resolved with ⟨only, unchanged⟩
  refine ⟨?_, unchanged⟩
  intro candidate
  rw [← complete.mem_bearers, only, List.mem_singleton]

theorem links_connect {source target : StateIndex} {given : TransitionDeclaration}
    {index : TransitionIndex} {transition : Transition}
    (connected : draft.construction.connect source target given.input given.output given.location =
      .ok (index, ⟨draft.machine.withTransition transition, ⟨draft.construction.ids.next + 1⟩⟩))
    (id : transition.id = IdSource.idAt "transition" draft.construction.ids.next) :
    Draft.Links draft
      { draft with
        construction :=
          ⟨draft.machine.withTransition transition, ⟨draft.construction.ids.next + 1⟩⟩ }
      [transition] where
  reaches := .of_connect connected
  states := draft.machine.unlinkedStates_withTransition transition
  bearers := rfl
  initials := rfl
  connected := rfl
  numbered := by
    have number : draft.construction.ids.next + UInt64.ofNat 0 = draft.construction.ids.next :=
      UInt64.add_zero _
    simp only [Draft.transitionIds, List.map_cons, List.map_nil, List.length_singleton,
      List.range_one, number, id]
  next := rfl
  maxDepth := rfl

/-- The initial states of two machines are the same. -/
def SameEntrances (before after : Draft) : Prop :=
  (∀ index, after.machine.initialOf index = before.machine.initialOf index) ∧
    after.machine.initial = before.machine.initial

theorem connectAll_decides (complete : draft.Complete first declaration)
    (transitions : List TransitionDeclaration) :
    (connectAll transitions).Decides draft
      ((transitions.flatMap declaration.endpointDefects).findSome? id)
      fun _ after => ∃ added, Draft.Links draft after added ∧
        List.Forall₂ declaration.Declares transitions added ∧ SameEntrances draft after := by
  induction transitions generalizing draft with
  | nil =>
      exact decides_pure ⟨[], .refl draft, .nil, fun _ => rfl, rfl⟩
  | cons given transitions induction =>
      have defects : ((given :: transitions).flatMap declaration.endpointDefects).findSome? id =
          (bearerDefect given.source
            (StateDeclaration.countNamed given.source declaration.allStates)).or
          ((bearerDefect given.target
            (StateDeclaration.countNamed given.target declaration.allStates)).or
          ((transitions.flatMap declaration.endpointDefects).findSome? id)) := by
        rw [List.flatMap_cons, List.findSome?_append, endpointDefects]
        cases bearerDefect given.source _ <;> cases bearerDefect given.target _ <;> rfl
      rw [connectAll, defects]
      apply Decides.get_bind
      refine (resolve_decides complete given.source).bind ?_
      intro source _ resolved
      rcases resolved with ⟨onlySource, rfl⟩
      apply Decides.get_bind
      refine (resolve_decides complete given.target).bind ?_
      intro target _ resolved
      rcases resolved with ⟨onlyTarget, rfl⟩
      rcases onlySource.exists_bearer with ⟨sourcePlace, sourceMember, rfl, -⟩
      rcases onlyTarget.exists_bearer with ⟨targetPlace, targetMember, rfl, -⟩
      rcases complete.follows.exists_state sourceMember with ⟨held, found, -⟩
      rcases complete.follows.exists_state targetMember with ⟨entered, foundTarget, -⟩
      have connected := Construction.connect_of_found found foundTarget given.input given.output
        given.location
      apply Decides.construct_bind connected
      have links := links_connect connected rfl
      refine (induction (complete.links links)).weaken ?_
      intro _ after later
      rcases later with ⟨addedLater, linksLater, declared, sameInitials, sameInitial⟩
      refine ⟨_, links.trans linksLater, ?_, ?_, sameInitial⟩
      · exact .cons ⟨onlySource, onlyTarget, rfl, rfl, rfl⟩ declared
      · intro index
        rw [sameInitials]
        exact Machine.initialOf_withTransition _ _ index

/-! ## Initial states -/

/-- A name looked for inside a container stands for one of the states there. -/
theorem findNamed_decides (complete : draft.Complete first declaration)
    (container : Option StateIndex) (name : String) :
    (lift (draft.machine.findNamed (draft.machine.childrenOf container) name)).Decides draft
      (bearerDefect name (StateDeclaration.countNamed name
        ((declaration.outline.filter (·.parent = container)).map (·.declaration))))
      fun index after =>
        Placement.OnlyBearer (declaration.outline.filter (·.parent = container)) name index ∧
          after = draft := by
  rw [← complete.follows.length_named container name]
  refine (onlyBearer_decides name _ draft).weaken ?_
  intro index after resolved
  rcases resolved with ⟨only, unchanged⟩
  refine ⟨?_, unchanged⟩
  intro candidate
  rw [← complete.follows.mem_named, only, List.mem_singleton]

/-- The state of a container that a name stands for. -/
theorem exists_state_of_onlyBearer (complete : draft.Complete first declaration)
    {container : Option StateIndex} {name : String} {target : StateIndex}
    (only : Placement.OnlyBearer (declaration.outline.filter (·.parent = container)) name target) :
    ∃ held, draft.machine.state? target = some held ∧ held.parent = container := by
  rcases only.exists_bearer with ⟨placement, member, rfl, -⟩
  rcases List.mem_filter.mp member with ⟨inOutline, inContainer⟩
  rcases complete.follows.exists_state inOutline with ⟨held, found, same⟩
  have sameParent : held.parent = placement.parent := congrArg State.parent same
  exact ⟨held, found, sameParent.trans (of_decide_eq_true inContainer)⟩

theorem links_setCompositeInitial {composite target : StateIndex}
    (set : draft.construction.setCompositeInitial composite target =
      .ok ⟨draft.machine.withCompositeInitial composite target, draft.construction.ids⟩) :
    Draft.Links draft
      { draft with
        construction :=
          ⟨draft.machine.withCompositeInitial composite target, draft.construction.ids⟩ } [] where
  reaches := .of_setCompositeInitial set
  states := draft.machine.unlinkedStates_withCompositeInitial composite target
  bearers := rfl
  initials := rfl
  connected := (List.append_nil _).symm
  numbered := rfl
  next := (UInt64.add_zero _).symm
  maxDepth := rfl

/-- The composite at a placement is entered at the one state inside it that bears its
initial name. -/
def EntersAt (declaration : MachineDeclaration) (machine : Machine) (placement : Placement) :
    Prop :=
  ∀ name, placement.entrance? = some (placement.position, name) →
    ∃ target, machine.initialOf placement.position = some ⟨target, some placement.position⟩ ∧
      Placement.OnlyBearer
        (declaration.outline.filter (·.parent = some placement.position)) name target

/-- Each composite is entered once its turn has come, and no turn changes the others. -/
theorem enterAll_decides (complete : draft.Complete first declaration)
    (placements : List Placement)
    (members : ∀ placement ∈ placements, placement ∈ declaration.outline)
    (distinct : (placements.map (·.position)).Nodup) :
    (enterAll (placements.filterMap (·.entrance?))).Decides draft
      (placements.findSome? (·.declaration.initialDefect))
      fun _ after => Draft.Links draft after [] ∧
        (∀ placement ∈ placements, declaration.EntersAt after.machine placement) ∧
        (∀ index ∉ placements.map (·.position),
          after.machine.initialOf index = draft.machine.initialOf index) ∧
        after.machine.initial = draft.machine.initial := by
  induction placements generalizing draft with
  | nil =>
      exact decides_pure ⟨.refl draft, by simp, fun _ _ => rfl, rfl⟩
  | cons placement placements induction =>
      have member := members placement List.mem_cons_self
      have laterMembers : ∀ later ∈ placements, later ∈ declaration.outline :=
        fun later inLater => members later (List.mem_cons_of_mem _ inLater)
      rcases List.nodup_cons.mp distinct with ⟨notLater, laterDistinct⟩
      rw [findSome?_cons_eq_or, placement.initialDefect_eq_bind_entrance?]
      cases entry : placement.entrance? with
      | none =>
          rw [List.filterMap_cons_none entry]
          refine (induction complete laterMembers laterDistinct).weaken ?_
          intro _ after finished
          rcases finished with ⟨links, entered, untouched, same⟩
          refine ⟨links, List.forall_mem_cons.mpr ⟨?_, entered⟩, ?_, same⟩
          · intro name noted
            cases entry.symm.trans noted
          · intro index notListed
            exact untouched index fun listed => notListed (List.mem_cons_of_mem _ listed)
      | some noted =>
          rcases noted with ⟨composite, name⟩
          rcases Placement.entrance?_eq_some.mp entry with ⟨rfl, isComposite, -⟩
          rcases complete.follows.exists_state member with ⟨held, found, same⟩
          have heldComposite : held.isComposite = true := by
            rw [← State.unlinked_isComposite, same, Placement.state_isComposite, isComposite]
          rw [List.filterMap_cons_some entry, enterAll]
          apply Decides.get_bind
          have resolves := findNamed_decides complete (some placement.position) name
          rw [outline_filter_inside member] at resolves
          refine resolves.bind ?_
          intro target _ resolved
          rcases resolved with ⟨only, rfl⟩
          rcases exists_state_of_onlyBearer complete only with ⟨targetHeld, foundTarget, child⟩
          have set := Construction.setCompositeInitial_of_found found heldComposite foundTarget child
          have links := links_setCompositeInitial set
          have initials := Machine.initialOf_withCompositeInitial found heldComposite target
          apply Decides.construct_bind (by rw [set]; rfl)
          refine (induction (complete.links links) laterMembers laterDistinct).weaken ?_
          intro _ after finished
          rcases finished with ⟨linksLater, entered, untouched, same⟩
          refine ⟨links.trans linksLater, List.forall_mem_cons.mpr ⟨?_, entered⟩, ?_, same⟩
          · intro given noted
            cases entry.symm.trans noted
            refine ⟨target, ?_, only⟩
            rw [untouched _ notLater, Draft.machine, initials, if_pos rfl]
          · intro index notListed
            rw [List.map_cons, List.mem_cons, not_or] at notListed
            rw [untouched index notListed.2, Draft.machine, initials, if_neg (Ne.symm notListed.1)]

theorem links_setInitial {target : StateIndex}
    (set : draft.construction.setInitial target =
      .ok ⟨draft.machine.withInitial target, draft.construction.ids⟩) :
    Draft.Links draft
      { draft with
        construction := ⟨draft.machine.withInitial target, draft.construction.ids⟩ } [] where
  reaches := .of_setInitial set
  states := draft.machine.unlinkedStates_withInitial target
  bearers := rfl
  initials := rfl
  connected := (List.append_nil _).symm
  numbered := rfl
  next := (UInt64.add_zero _).symm
  maxDepth := rfl

/-- The machine is entered at the one state of its top level that bears its initial
name, if it has one. -/
def EntersMachine (declaration : MachineDeclaration) (machine : Machine) : Prop :=
  match declaration.initial with
  | none => machine.initial = none
  | some name => ∃ target, machine.initial = some ⟨target, none⟩ ∧
      Placement.OnlyBearer (declaration.outline.filter (·.parent = none)) name target

theorem enterMachine_decides (complete : draft.Complete first declaration)
    (unentered : draft.machine.initial = none) :
    (enterMachine declaration.initial).Decides draft declaration.initialDefect
      fun _ after => Draft.Links draft after [] ∧ declaration.EntersMachine after.machine ∧
        ∀ index, after.machine.initialOf index = draft.machine.initialOf index := by
  rw [initialDefect]
  cases declared : declaration.initial with
  | none =>
      exact decides_pure ⟨.refl draft, by simpa [EntersMachine, declared] using unentered,
        fun _ => rfl⟩
  | some name =>
      rw [enterMachine]
      apply Decides.get_bind
      have resolves := findNamed_decides complete none name
      rw [outline_filter_topLevel] at resolves
      refine resolves.bind_pass ?_
      intro target _ resolved
      rcases resolved with ⟨only, rfl⟩
      rcases exists_state_of_onlyBearer complete only with ⟨held, found, topLevel⟩
      have set := Construction.setInitial_of_found found topLevel
      refine decides_construct (by rw [set]; rfl) ⟨links_setInitial set, ?_, fun _ => rfl⟩
      simp only [EntersMachine, declared]
      exact ⟨target, rfl, only⟩

end MachineDeclaration

end Statechart
