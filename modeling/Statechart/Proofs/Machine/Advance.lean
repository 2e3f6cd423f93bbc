import Statechart.Machine.Construction
import Statechart.Proofs.Outcome

/-!
What construction steps do to a machine. An accepted step has one of five
effects, and `Construction.Advance` says for each of them what was checked and
what has changed; a rejected step has none. What every effect preserves holds of
each reachable machine.
-/

namespace Statechart

/-! ## Updates of a single state -/

namespace State

theorem children_of_simple {state : State} (simple : state.isComposite = false) :
    state.children = [] := by
  rcases state with ⟨_, _, _, _, _, _, _, _ | _⟩
  · rfl
  · cases simple

theorem initial_of_simple {state : State} (simple : state.isComposite = false) :
    state.initial = none := by
  rcases state with ⟨_, _, _, _, _, _, _, _ | _⟩
  · rfl
  · cases simple

@[simp] theorem addChild_isFinal (child : StateIndex) (state : State) :
    (state.addChild child).isFinal = state.isFinal := by
  rcases state with ⟨_, _, _, _, _, _, _, _ | _⟩ <;> rfl

@[simp] theorem addChild_parent (child : StateIndex) (state : State) :
    (state.addChild child).parent = state.parent := by
  rcases state with ⟨_, _, _, _, _, _, _, _ | _⟩ <;> rfl

@[simp] theorem addChild_outgoing (child : StateIndex) (state : State) :
    (state.addChild child).outgoing = state.outgoing := by
  rcases state with ⟨_, _, _, _, _, _, _, _ | _⟩ <;> rfl

@[simp] theorem addChild_incoming (child : StateIndex) (state : State) :
    (state.addChild child).incoming = state.incoming := by
  rcases state with ⟨_, _, _, _, _, _, _, _ | _⟩ <;> rfl

@[simp] theorem addChild_isComposite (child : StateIndex) (state : State) :
    (state.addChild child).isComposite = state.isComposite := by
  rcases state with ⟨_, _, _, _, _, _, _, _ | _⟩ <;> rfl

@[simp] theorem addChild_initial (child : StateIndex) (state : State) :
    (state.addChild child).initial = state.initial := by
  rcases state with ⟨_, _, _, _, _, _, _, _ | _⟩ <;> rfl

theorem addChild_children {state : State} (composite : state.isComposite = true)
    (child : StateIndex) : (state.addChild child).children = state.children ++ [child] := by
  rcases state with ⟨_, _, _, _, _, _, _, _ | _⟩
  · cases composite
  · rfl

@[simp] theorem setInitial_isFinal (initial : InitialState) (state : State) :
    (state.setInitial initial).isFinal = state.isFinal := by
  rcases state with ⟨_, _, _, _, _, _, _, _ | _⟩ <;> rfl

@[simp] theorem setInitial_parent (initial : InitialState) (state : State) :
    (state.setInitial initial).parent = state.parent := by
  rcases state with ⟨_, _, _, _, _, _, _, _ | _⟩ <;> rfl

@[simp] theorem setInitial_outgoing (initial : InitialState) (state : State) :
    (state.setInitial initial).outgoing = state.outgoing := by
  rcases state with ⟨_, _, _, _, _, _, _, _ | _⟩ <;> rfl

@[simp] theorem setInitial_incoming (initial : InitialState) (state : State) :
    (state.setInitial initial).incoming = state.incoming := by
  rcases state with ⟨_, _, _, _, _, _, _, _ | _⟩ <;> rfl

@[simp] theorem setInitial_isComposite (initial : InitialState) (state : State) :
    (state.setInitial initial).isComposite = state.isComposite := by
  rcases state with ⟨_, _, _, _, _, _, _, _ | _⟩ <;> rfl

@[simp] theorem setInitial_children (initial : InitialState) (state : State) :
    (state.setInitial initial).children = state.children := by
  rcases state with ⟨_, _, _, _, _, _, _, _ | _⟩ <;> rfl

theorem setInitial_initial {state : State} (composite : state.isComposite = true)
    (initial : InitialState) : (state.setInitial initial).initial = some initial := by
  rcases state with ⟨_, _, _, _, _, _, _, _ | _⟩
  · cases composite
  · rfl

end State

/-! ## Effects of accepted steps -/

namespace Machine

/-- Enters a new state, last in the list of states and last under its parent. -/
def withState (machine : Machine) (state : State) : Machine :=
  { machine with states := machine.states ++ [state] }.attach state.parent machine.states.length

/-- Enters a new transition and notes it at both ends. -/
def withTransition (machine : Machine) (transition : Transition) : Machine :=
  { machine with
    states := (machine.states.modify transition.source
        (·.addOutgoing machine.transitions.length)).modify transition.target
      (·.addIncoming machine.transitions.length)
    transitions := machine.transitions ++ [transition] }

def withInitial (machine : Machine) (target : StateIndex) : Machine :=
  { machine with initial := some ⟨target, none⟩ }

def withCompositeInitial (machine : Machine) (composite target : StateIndex) : Machine :=
  { machine with states := machine.states.modify composite (·.setInitial ⟨target, some composite⟩) }

end Machine

/-! Looking a state up after an effect. -/

namespace Machine

theorem lt_of_state? {machine : Machine} {index : StateIndex} {state : State}
    (found : machine.state? index = some state) : index < machine.states.length :=
  (List.getElem?_eq_some_iff.mp found).1

theorem exists_state? {machine : Machine} {index : StateIndex}
    (inRange : index < machine.states.length) : ∃ state, machine.state? index = some state :=
  ⟨_, List.getElem?_eq_getElem inRange⟩

@[simp] theorem id_withState (machine : Machine) (state : State) :
    (machine.withState state).id = machine.id := by
  unfold withState attach
  split <;> rfl

@[simp] theorem initial_withState (machine : Machine) (state : State) :
    (machine.withState state).initial = machine.initial := by
  unfold withState attach
  split <;> rfl

@[simp] theorem transitions_withState (machine : Machine) (state : State) :
    (machine.withState state).transitions = machine.transitions := by
  unfold withState attach
  split <;> rfl

@[simp] theorem maxDepth_withState (machine : Machine) (state : State) :
    (machine.withState state).maxDepth = machine.maxDepth := by
  unfold withState attach
  split <;> rfl

@[simp] theorem length_withState (machine : Machine) (state : State) :
    (machine.withState state).states.length = machine.states.length + 1 := by
  unfold withState attach
  split <;> simp

@[simp] theorem length_withTransition (machine : Machine) (transition : Transition) :
    (machine.withTransition transition).states.length = machine.states.length := by
  simp [withTransition]

@[simp] theorem length_withCompositeInitial (machine : Machine) (composite target : StateIndex) :
    (machine.withCompositeInitial composite target).states.length = machine.states.length := by
  simp [withCompositeInitial]

theorem state?_withState_self {machine : Machine} {state : State}
    (parent : ∀ parent, state.parent = some parent → parent < machine.states.length) :
    (machine.withState state).state? machine.states.length = some state := by
  unfold withState attach
  split
  case h_1 => simp [state?]
  case h_2 container nested =>
    have earlier : container < machine.states.length := parent container nested
    simp [state?, Nat.ne_of_lt earlier]

theorem state?_withState_of_lt {machine : Machine} {index : StateIndex} (state : State)
    (inRange : index < machine.states.length) :
    (machine.withState state).state? index = (machine.state? index).map fun held =>
      if state.parent = some index then held.addChild machine.states.length else held := by
  unfold withState attach
  split
  case h_1 topLevel => simp [state?, topLevel, List.getElem?_append_left inRange]
  case h_2 parent nested =>
    simp [state?, nested, List.getElem?_modify, List.getElem?_append_left inRange]

/-- After a new state there is the new one and, with its links perhaps changed, each
of those before. -/
theorem state?_withState_cases {machine : Machine} {index : StateIndex} {state after : State}
    (parent : ∀ parent, state.parent = some parent → parent < machine.states.length)
    (found : (machine.withState state).state? index = some after) :
    index = machine.states.length ∧ after = state ∨
      ∃ held, machine.state? index = some held ∧
        after = if state.parent = some index then held.addChild machine.states.length
          else held := by
  have bound := lt_of_state? found
  rw [length_withState] at bound
  rcases Nat.lt_succ_iff_lt_or_eq.mp bound with earlier | rfl
  · rw [state?_withState_of_lt state earlier, Option.map_eq_some_iff] at found
    rcases found with ⟨held, foundBefore, same⟩
    exact .inr ⟨held, foundBefore, same.symm⟩
  · exact .inl ⟨rfl, Option.some.inj (found.symm.trans (state?_withState_self parent))⟩

theorem state?_withTransition (machine : Machine) (transition : Transition) (index : StateIndex) :
    (machine.withTransition transition).state? index = (machine.state? index).map fun held =>
      let held :=
        if transition.source = index then held.addOutgoing machine.transitions.length else held
      if transition.target = index then held.addIncoming machine.transitions.length else held := by
  simp [withTransition, state?, List.getElem?_modify, Function.comp_def]

theorem state?_withCompositeInitial (machine : Machine) (composite target index : StateIndex) :
    (machine.withCompositeInitial composite target).state? index =
      (machine.state? index).map fun held =>
        if composite = index then held.setInitial ⟨target, some composite⟩ else held := by
  simp [withCompositeInitial, state?, List.getElem?_modify]

end Machine

namespace Construction

/-- The effects of accepted steps, each with what its step has checked. -/
inductive Advance : Construction → Construction → Prop
  | addState {machine : Machine} {ids : IdSource} (state : State)
      (id : state.id = IdSource.idAt "state" ids.next)
      (parent : ∀ parent, state.parent = some parent →
        ∃ held, machine.state? parent = some held ∧ held.isComposite = true)
      (outgoing : state.outgoing = []) (incoming : state.incoming = [])
      (kind : state.kind = .simple ∨ state.kind = .composite [] none ∧ state.isFinal = false) :
      Advance ⟨machine, ids⟩ ⟨machine.withState state, ⟨ids.next + 1⟩⟩
  | connect {machine : Machine} {ids : IdSource} (transition : Transition)
      (id : transition.id = IdSource.idAt "transition" ids.next)
      (source : transition.source < machine.states.length)
      (target : transition.target < machine.states.length) :
      Advance ⟨machine, ids⟩ ⟨machine.withTransition transition, ⟨ids.next + 1⟩⟩
  | setInitial {machine : Machine} {ids : IdSource} {target : StateIndex} {held : State}
      (found : machine.state? target = some held) (topLevel : held.parent = none) :
      Advance ⟨machine, ids⟩ ⟨machine.withInitial target, ids⟩
  | setCompositeInitial {machine : Machine} {ids : IdSource} {composite target : StateIndex}
      {held entered : State} (found : machine.state? composite = some held)
      (isComposite : held.isComposite = true) (foundTarget : machine.state? target = some entered)
      (child : entered.parent = some composite) :
      Advance ⟨machine, ids⟩ ⟨machine.withCompositeInitial composite target, ids⟩
  | setMaxDepth {machine : Machine} {ids : IdSource} (maxDepth : Nat) :
      Advance ⟨machine, ids⟩ ⟨{ machine with maxDepth }, ids⟩

theorem checkedState_eq_ok {construction : Construction} {index : StateIndex} {state : State} :
    construction.checkedState index = .ok state ↔
      construction.machine.state? index = some state := by
  rw [checkedState]
  cases construction.machine.state? index <;> simp

theorem checkParent_eq_ok {construction : Construction} {parent : Option StateIndex} :
    construction.checkParent parent = .ok () ↔
      ∀ index, parent = some index →
        ∃ held, construction.machine.state? index = some held ∧ held.isComposite = true := by
  cases parent with
  | none => simp [checkParent]
  | some parent =>
      cases found : construction.machine.state? parent with
      | none => simp [checkParent, checkedState, found, bind, Except.bind]
      | some held =>
          cases composite : held.isComposite <;>
            simp [checkParent, checkedState, found, composite, bind, Except.bind]

theorem checkParent_lt {construction : Construction} {parent : Option StateIndex}
    (accepted : construction.checkParent parent = .ok ()) :
    ∀ index, parent = some index → index < construction.machine.states.length := by
  intro index nested
  rcases checkParent_eq_ok.mp accepted index nested with ⟨held, found, -⟩
  exact Machine.lt_of_state? found

/-- A new composite takes states in. -/
theorem checkParent_withState {construction : Construction} {state : State}
    (accepted : construction.checkParent state.parent = .ok ())
    (composite : state.isComposite = true) (ids : IdSource) :
    checkParent ⟨construction.machine.withState state, ids⟩
      (some construction.machine.states.length) = .ok () := by
  rw [checkParent_eq_ok]
  intro index same
  cases same
  exact ⟨state, Machine.state?_withState_self (checkParent_lt accepted), composite⟩

theorem addState_of_accepted {construction : Construction} {parent : Option StateIndex}
    (accepted : construction.checkParent parent = .ok ()) (name : Option String) (isFinal : Bool)
    (location : Option Location) (kind : StateKind) :
    construction.addState name parent isFinal location kind =
      .ok (construction.machine.states.length,
        ⟨construction.machine.withState
          { id := IdSource.idAt "state" construction.ids.next, name, isFinal, parent, location, kind
            outgoing := [], incoming := [] },
        ⟨construction.ids.next + 1⟩⟩) := by
  rw [addState, accepted]
  rfl

theorem addState_advance {name : Option String} {parent : Option StateIndex} {isFinal : Bool}
    {location : Option Location} {kind : StateKind} {construction after : Construction}
    {index : StateIndex} (kindAtFirst : kind = .simple ∨ kind = .composite [] none ∧ isFinal = false)
    (added : construction.addState name parent isFinal location kind = .ok (index, after)) :
    Advance construction after := by
  cases parentChecked : construction.checkParent parent with
  | error error =>
      simp [addState, parentChecked, bind, Except.bind] at added
  | ok _ =>
      rw [addState_of_accepted parentChecked] at added
      cases added
      exact Advance.addState _ rfl (checkParent_eq_ok.mp parentChecked) rfl rfl kindAtFirst

theorem connect_advance {source target : StateIndex} {input output : Option String}
    {location : Option Location} {construction after : Construction} {index : TransitionIndex}
    (accepted : construction.connect source target input output location = .ok (index, after)) :
    Advance construction after := by
  rcases construction with ⟨machine, ids⟩
  simp only [connect, bind_eq_ok, checkedState_eq_ok] at accepted
  rcases accepted with ⟨_, sourceFound, _, targetFound, result⟩
  simp only [pure_eq_ok, Prod.mk.injEq] at result
  rcases result with ⟨-, rfl⟩
  exact Advance.connect
    { id := IdSource.idAt "transition" ids.next, source, target, input, output, location }
    rfl (List.getElem?_eq_some_iff.mp sourceFound).1 (List.getElem?_eq_some_iff.mp targetFound).1

theorem setInitial_advance {target : StateIndex} {construction after : Construction}
    (accepted : construction.setInitial target = .ok after) : Advance construction after := by
  rcases construction with ⟨machine, ids⟩
  simp only [setInitial, bind_eq_ok, checkedState_eq_ok] at accepted
  rcases accepted with ⟨held, found, result⟩
  split at result
  case isTrue => cases result
  case isFalse topLevel =>
    cases pure_eq_ok.mp result
    exact Advance.setInitial found (by simpa using topLevel)

theorem setCompositeInitial_advance {composite target : StateIndex}
    {construction after : Construction}
    (accepted : construction.setCompositeInitial composite target = .ok after) :
    Advance construction after := by
  rcases construction with ⟨machine, ids⟩
  simp only [setCompositeInitial, bind_eq_ok, checkedState_eq_ok] at accepted
  rcases accepted with ⟨held, found, entered, foundTarget, result⟩
  split at result
  case isTrue => cases result
  case isFalse isComposite =>
    split at result
    case isTrue => cases result
    case isFalse child =>
      have child : entered.parent = some composite := Decidable.not_not.mp child
      rw [child] at result
      cases pure_eq_ok.mp result
      exact Advance.setCompositeInitial found (by simpa using isComposite) foundTarget child

/-- Every accepted step has one of the five effects. -/
theorem apply_advance {construction after : Construction} {step : ConstructionStep}
    {answer : ConstructionAnswer} (accepted : step.apply construction = .ok (answer, after)) :
    Advance construction after := by
  cases step with
  | addSimple name parent isFinal location =>
      simp only [ConstructionStep.apply, bind_eq_ok, pure_eq_ok, Prod.mk.injEq] at accepted
      rcases accepted with ⟨⟨index, _⟩, added, -, rfl⟩
      exact addState_advance (.inl rfl) added
  | addComposite name parent location =>
      simp only [ConstructionStep.apply, bind_eq_ok, pure_eq_ok, Prod.mk.injEq] at accepted
      rcases accepted with ⟨⟨index, _⟩, added, -, rfl⟩
      exact addState_advance (.inr ⟨rfl, rfl⟩) added
  | connect source target input output location =>
      simp only [ConstructionStep.apply, bind_eq_ok, pure_eq_ok, Prod.mk.injEq] at accepted
      rcases accepted with ⟨⟨index, _⟩, connected, -, rfl⟩
      exact connect_advance connected
  | setInitial target =>
      simp only [ConstructionStep.apply, bind_eq_ok, pure_eq_ok, Prod.mk.injEq] at accepted
      rcases accepted with ⟨_, set, -, rfl⟩
      exact setInitial_advance set
  | setCompositeInitial composite target =>
      simp only [ConstructionStep.apply, bind_eq_ok, pure_eq_ok, Prod.mk.injEq] at accepted
      rcases accepted with ⟨_, set, -, rfl⟩
      exact setCompositeInitial_advance set
  | setMaxDepth maxDepth =>
      simp only [ConstructionStep.apply, pure_eq_ok, Prod.mk.injEq] at accepted
      rcases accepted with ⟨-, rfl⟩
      exact Advance.setMaxDepth maxDepth

/-- A step is rejected and changes nothing, or it has one of the effects. -/
theorem perform_advance (construction : Construction) (step : ConstructionStep) :
    (step.perform construction).2 = construction ∨
      Advance construction (step.perform construction).2 := by
  rw [ConstructionStep.perform]
  cases outcome : step.apply construction with
  | error error => exact .inl rfl
  | ok result => exact .inr (apply_advance outcome)

/-! Steps on states that there are. -/

section Found

variable {construction : Construction} {source target : StateIndex} {held entered : State}

theorem connect_of_found (found : construction.machine.state? source = some held)
    (foundTarget : construction.machine.state? target = some entered)
    (input output : Option String) (location : Option Location) :
    construction.connect source target input output location =
      .ok (construction.machine.transitions.length,
        ⟨construction.machine.withTransition
          { id := IdSource.idAt "transition" construction.ids.next, source, target, input, output
            location },
        ⟨construction.ids.next + 1⟩⟩) := by
  rw [connect, checkedState_eq_ok.mpr found, checkedState_eq_ok.mpr foundTarget]
  rfl

theorem setInitial_of_found (found : construction.machine.state? target = some held)
    (topLevel : held.parent = none) :
    construction.setInitial target =
      .ok ⟨construction.machine.withInitial target, construction.ids⟩ := by
  rw [setInitial, checkedState_eq_ok.mpr found]
  simp [bind, Except.bind, topLevel, pure, Except.pure, Machine.withInitial]

theorem setCompositeInitial_of_found (found : construction.machine.state? source = some held)
    (isComposite : held.isComposite = true)
    (foundTarget : construction.machine.state? target = some entered)
    (child : entered.parent = some source) :
    construction.setCompositeInitial source target =
      .ok ⟨construction.machine.withCompositeInitial source target, construction.ids⟩ := by
  rw [setCompositeInitial, checkedState_eq_ok.mpr found, checkedState_eq_ok.mpr foundTarget]
  simp [bind, Except.bind, isComposite, child, pure, Except.pure, Machine.withCompositeInitial]

end Found

/-! ## Histories of steps -/

theorem run_append (construction : Construction) (steps later : List ConstructionStep) :
    (construction.run (steps ++ later)).2 = ((construction.run steps).2.run later).2 := by
  induction steps generalizing construction with
  | nil => rfl
  | cons step steps induction =>
      rw [List.cons_append, run, run]
      exact induction _

/-- One construction comes from another by a history of steps. -/
def Reaches (before after : Construction) : Prop :=
  ∃ steps, (before.run steps).2 = after

theorem Reaches.refl (construction : Construction) : construction.Reaches construction :=
  ⟨[], rfl⟩

theorem Reaches.trans {first second third : Construction} (earlier : first.Reaches second)
    (later : second.Reaches third) : first.Reaches third := by
  rcases earlier with ⟨steps, rfl⟩
  rcases later with ⟨laterSteps, rfl⟩
  exact ⟨steps ++ laterSteps, run_append first steps laterSteps⟩

theorem Reaches.of_apply {construction after : Construction} {step : ConstructionStep}
    {answer : ConstructionAnswer} (accepted : step.apply construction = .ok (answer, after)) :
    construction.Reaches after := by
  refine ⟨[step], ?_⟩
  simp [run, ConstructionStep.perform, accepted]

section OneStep

variable {construction after : Construction} {name : Option String} {parent : Option StateIndex}
  {location : Option Location}

theorem Reaches.of_addSimple {isFinal : Bool} {index : StateIndex}
    (added : construction.addSimple name parent isFinal location = .ok (index, after)) :
    construction.Reaches after := by
  have applied : (ConstructionStep.addSimple name parent isFinal location).apply construction =
      .ok (.state index, after) := by
    rw [ConstructionStep.apply, added]
    rfl
  exact .of_apply applied

theorem Reaches.of_addComposite {index : StateIndex}
    (added : construction.addComposite name parent location = .ok (index, after)) :
    construction.Reaches after := by
  have applied : (ConstructionStep.addComposite name parent location).apply construction =
      .ok (.state index, after) := by
    rw [ConstructionStep.apply, added]
    rfl
  exact .of_apply applied

theorem Reaches.of_connect {source target : StateIndex} {input output : Option String}
    {index : TransitionIndex}
    (connected : construction.connect source target input output location = .ok (index, after)) :
    construction.Reaches after := by
  have applied : (ConstructionStep.connect source target input output location).apply construction =
      .ok (.transition index, after) := by
    rw [ConstructionStep.apply, connected]
    rfl
  exact .of_apply applied

theorem Reaches.of_setInitial {target : StateIndex}
    (set : construction.setInitial target = .ok after) : construction.Reaches after := by
  have applied : (ConstructionStep.setInitial target).apply construction = .ok (.done, after) := by
    rw [ConstructionStep.apply, set]
    rfl
  exact .of_apply applied

theorem Reaches.of_setCompositeInitial {composite target : StateIndex}
    (set : construction.setCompositeInitial composite target = .ok after) :
    construction.Reaches after := by
  have applied : (ConstructionStep.setCompositeInitial composite target).apply construction =
      .ok (.done, after) := by
    rw [ConstructionStep.apply, set]
    rfl
  exact .of_apply applied

end OneStep

/-- What every effect preserves, a whole history preserves. -/
theorem Reaches.preserves {Invariant : Construction → Prop}
    (kept : ∀ {before after : Construction},
      Advance before after → Invariant before → Invariant after)
    {before after : Construction} (reaches : before.Reaches after) (holds : Invariant before) :
    Invariant after := by
  rcases reaches with ⟨steps, rfl⟩
  induction steps generalizing before with
  | nil => exact holds
  | cons step steps induction =>
      have performed : Invariant (step.perform before).2 := by
        rcases perform_advance before step with unchanged | advance
        · rwa [unchanged]
        · exact kept advance holds
      exact induction performed

end Construction

/-! A reachable machine was started and then changed by any steps, some of them
rejected. Between two steps the source of ids may serve other machines. -/

inductive Machine.Reachable : Machine → Prop
  | start (name : String) (location : Option Location) (ids : IdSource) :
      Reachable (Construction.start name location ids).machine
  | perform {machine : Machine} (reachable : machine.Reachable) (ids : IdSource)
      (step : ConstructionStep) : Reachable (step.perform ⟨machine, ids⟩).2.machine

namespace Machine

theorem Reachable.preserves {Invariant : Machine → Prop}
    (started : ∀ name location ids, Invariant (Construction.start name location ids).machine)
    (kept : ∀ {before after : Construction},
      Construction.Advance before after → Invariant before.machine → Invariant after.machine)
    {machine : Machine} (reachable : machine.Reachable) : Invariant machine := by
  induction reachable with
  | start name location ids => exact started name location ids
  | perform _ ids step holds =>
      rcases Construction.perform_advance ⟨_, ids⟩ step with unchanged | advance
      · rwa [unchanged]
      · exact kept advance holds

theorem Reachable.reaches {before after : Construction} (reachable : before.machine.Reachable)
    (reaches : before.Reaches after) : after.machine.Reachable := by
  rcases reaches with ⟨steps, rfl⟩
  induction steps generalizing before with
  | nil => exact reachable
  | cons step steps induction => exact induction (reachable.perform before.ids step)

theorem reachable_run (name : String) (location : Option Location) (ids : IdSource)
    (steps : List ConstructionStep) :
    ((Construction.start name location ids).run steps).2.machine.Reachable :=
  (Reachable.start name location ids).reaches ⟨steps, rfl⟩

end Machine

end Statechart
