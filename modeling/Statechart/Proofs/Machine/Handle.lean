import Statechart.Proofs.Machine.Advance

/-!
Handles of states. A handle is the position of a state in its machine, and a step looks
up the handles it is given before anything else. A handle that another machine has given
out is therefore told apart from the machine's own ones only where it lies beyond them:
below that it stands for the state that the machine itself has at this position.
-/

namespace Statechart

/-! ## The handles a step is given -/

/-- The states that a step is given, in the order in which it looks them up. -/
def ConstructionStep.handles : ConstructionStep → List StateIndex
  | .addSimple _ parent _ _ => parent.toList
  | .addComposite _ parent _ => parent.toList
  | .connect source target _ _ _ => [source, target]
  | .setInitial target => [target]
  | .setCompositeInitial composite target => [composite, target]
  | .setMaxDepth _ => []

namespace Machine

/-- The first of some handles that no state of the machine can have. -/
def firstBeyond (machine : Machine) (handles : List StateIndex) : Option StateIndex :=
  handles.find? (machine.states.length ≤ ·)

theorem firstBeyond_cons (machine : Machine) (handle : StateIndex) (handles : List StateIndex) :
    machine.firstBeyond (handle :: handles) =
      if machine.states.length ≤ handle then some handle else machine.firstBeyond handles := by
  by_cases beyond : machine.states.length ≤ handle <;> simp [firstBeyond, beyond]

theorem le_of_firstBeyond {machine : Machine} {handles : List StateIndex} {handle : StateIndex}
    (first : machine.firstBeyond handles = some handle) : machine.states.length ≤ handle := by
  have lies := List.find?_some first
  exact of_decide_eq_true lies

end Machine

namespace Construction

variable {construction : Construction} {step : ConstructionStep}

theorem checkedState_of_beyond {index : StateIndex}
    (beyond : construction.machine.states.length ≤ index) :
    construction.checkedState index = .error (.foreignHandle "state" index) := by
  have missing : construction.machine.state? index = none := List.getElem?_eq_none beyond
  rw [checkedState, missing]

theorem exists_checkedState {index : StateIndex}
    (within : ¬ construction.machine.states.length ≤ index) :
    ∃ state, construction.checkedState index = .ok state := by
  obtain ⟨state, found⟩ := Machine.exists_state? (Nat.lt_of_not_le within)
  exact ⟨state, checkedState_eq_ok.mpr found⟩

/-! Each step looks up one handle after the other, and does the rest then. -/

/-- The computation fails with the first of the handles that lies beyond the machine. Where
there is none, it does not call a handle foreign. -/
def LooksUp {α : Type} (construction : Construction) (handles : List StateIndex)
    (outcome : Except ConstructionError α) : Prop :=
  match construction.machine.firstBeyond handles with
  | some handle => outcome = .error (.foreignHandle "state" handle)
  | none => ∀ what index, outcome ≠ .error (.foreignHandle what index)

theorem LooksUp.ok {α : Type} (value : α) : construction.LooksUp [] (.ok value) := by
  intro what index same
  cases same

theorem LooksUp.bind {α : Type} {handle : StateIndex} {handles : List StateIndex}
    {next : State → Except ConstructionError α}
    (rest : ∀ state, construction.LooksUp handles (next state)) :
    construction.LooksUp (handle :: handles) (construction.checkedState handle >>= next) := by
  rw [LooksUp, Machine.firstBeyond_cons]
  by_cases beyond : construction.machine.states.length ≤ handle
  · rw [if_pos beyond, checkedState_of_beyond beyond]
    rfl
  · obtain ⟨state, found⟩ := exists_checkedState beyond
    rw [if_neg beyond, found, ok_bind]
    exact rest state

/-- What is made of the outcome afterwards does not matter. -/
theorem LooksUp.map {α β : Type} {handles : List StateIndex} {outcome : Except ConstructionError α}
    (looksUp : construction.LooksUp handles outcome) (next : α → β) :
    construction.LooksUp handles (outcome >>= fun value => pure (next value)) := by
  rw [LooksUp] at looksUp ⊢
  cases first : construction.machine.firstBeyond handles with
  | some handle =>
      simp only [first] at looksUp ⊢
      rw [looksUp]
      rfl
  | none =>
      simp only [first] at looksUp ⊢
      intro what index failed
      cases outcome with
      | error error =>
          cases failed
          exact looksUp what index rfl
      | ok value => cases failed

theorem looksUp_checkParent (construction : Construction) (parent : Option StateIndex) :
    construction.LooksUp parent.toList (construction.checkParent parent) := by
  cases parent with
  | none => exact .ok ()
  | some parent =>
      refine .bind fun container => ?_
      cases container.isComposite with
      | true => exact .ok ()
      | false =>
          intro what index same
          cases same

theorem looksUp_addState (name : Option String) (parent : Option StateIndex) (isFinal : Bool)
    (location : Option Location) (kind : StateKind) (construction : Construction) :
    construction.LooksUp parent.toList
      (construction.addState name parent isFinal location kind) :=
  (looksUp_checkParent construction parent).map _

theorem looksUp_connect (source target : StateIndex) (input output : Option String)
    (location : Option Location) (construction : Construction) :
    construction.LooksUp [source, target]
      (construction.connect source target input output location) :=
  .bind fun _ => .bind fun _ => .ok _

theorem looksUp_setInitial (target : StateIndex) (construction : Construction) :
    construction.LooksUp [target] (construction.setInitial target) := by
  refine .bind fun state => ?_
  cases state.parent.isSome with
  | true =>
      intro what index same
      cases same
  | false => exact .ok _

theorem looksUp_setCompositeInitial (composite target : StateIndex) (construction : Construction) :
    construction.LooksUp [composite, target]
      (construction.setCompositeInitial composite target) := by
  refine .bind fun compositeState => .bind fun targetState => ?_
  intro what index
  split
  case isTrue => simp
  case isFalse =>
    split
    case isTrue => simp
    case isFalse => simp [pure, Except.pure]

theorem looksUp_apply (step : ConstructionStep) (construction : Construction) :
    construction.LooksUp step.handles (step.apply construction) := by
  cases step with
  | addSimple name parent isFinal location =>
      exact (looksUp_addState name parent isFinal location .simple construction).map _
  | addComposite name parent location =>
      exact (looksUp_addState name parent false location (.composite [] none) construction).map _
  | connect source target input output location =>
      exact (looksUp_connect source target input output location construction).map _
  | setInitial target => exact (looksUp_setInitial target construction).map _
  | setCompositeInitial composite target =>
      exact (looksUp_setCompositeInitial composite target construction).map _
  | setMaxDepth maxDepth => exact .ok _

theorem perform_of_beyond {handle : StateIndex}
    (first : construction.machine.firstBeyond step.handles = some handle) :
    step.perform construction = (.error (.foreignHandle "state" handle), construction) := by
  have looksUp := looksUp_apply step construction
  simp only [LooksUp, first] at looksUp
  rw [ConstructionStep.perform, looksUp]

theorem perform_ne_foreign (within : construction.machine.firstBeyond step.handles = none)
    (what : String) (index : Nat) :
    (step.perform construction).1 ≠ .error (.foreignHandle what index) := by
  have looksUp := looksUp_apply step construction
  simp only [LooksUp, within] at looksUp
  have notForeign := looksUp what index
  rw [ConstructionStep.perform]
  cases applied : step.apply construction with
  | ok result => simp
  | error error => simpa [applied] using notForeign

end Construction

/-! ## The handles a machine gives out -/

/-- The handle of the state that a step has made. -/
def ConstructionAnswer.newState? : ConstructionAnswer → Option StateIndex
  | .state index => some index
  | .transition _ => none
  | .done => none

/-- The handle that comes with the answer to a step, rejected or not. -/
def newState? (answer : Except ConstructionError ConstructionAnswer) : Option StateIndex :=
  match answer with
  | .ok answer => answer.newState?
  | .error _ => none

namespace Construction

/-- The handles of a machine's states, in the order in which they were made. -/
def handles (construction : Construction) : List StateIndex :=
  List.range construction.machine.states.length

theorem handles_of_length {before after : Construction}
    (length : after.machine.states.length = before.machine.states.length) :
    after.handles = before.handles ++ [] := by
  rw [handles, length, List.append_nil, handles]

theorem handles_addState {name : Option String} {parent : Option StateIndex} {isFinal : Bool}
    {location : Option Location} {kind : StateKind} {before after : Construction}
    {index : StateIndex}
    (added : before.addState name parent isFinal location kind = .ok (index, after)) :
    after.handles = before.handles ++ [index] := by
  cases parentChecked : before.checkParent parent with
  | error error => simp [addState, parentChecked, bind, Except.bind] at added
  | ok _ =>
      rw [addState_of_accepted parentChecked] at added
      cases added
      rw [handles, Machine.length_withState, List.range_succ, handles]

theorem length_connect {source target : StateIndex} {input output : Option String}
    {location : Option Location} {before after : Construction} {index : TransitionIndex}
    (connected : before.connect source target input output location = .ok (index, after)) :
    after.machine.states.length = before.machine.states.length := by
  simp only [connect, bind_eq_ok, checkedState_eq_ok] at connected
  obtain ⟨_, sourceFound, _, targetFound, result⟩ := connected
  cases pure_eq_ok.mp result
  simp

theorem length_setInitial {target : StateIndex} {before after : Construction}
    (set : before.setInitial target = .ok after) :
    after.machine.states.length = before.machine.states.length := by
  simp only [setInitial, bind_eq_ok, checkedState_eq_ok] at set
  obtain ⟨held, found, result⟩ := set
  split at result
  case isTrue => cases result
  case isFalse =>
    cases pure_eq_ok.mp result
    rfl

theorem length_setCompositeInitial {composite target : StateIndex} {before after : Construction}
    (set : before.setCompositeInitial composite target = .ok after) :
    after.machine.states.length = before.machine.states.length := by
  simp only [setCompositeInitial, bind_eq_ok, checkedState_eq_ok] at set
  obtain ⟨held, found, entered, foundTarget, result⟩ := set
  split at result
  case isTrue => cases result
  case isFalse =>
    split at result
    case isTrue => cases result
    case isFalse =>
      cases pure_eq_ok.mp result
      simp

/-- A step gives out the next handle when it makes a state, and otherwise none. -/
theorem handles_apply {before after : Construction} {step : ConstructionStep}
    {answer : ConstructionAnswer} (accepted : step.apply before = .ok (answer, after)) :
    after.handles = before.handles ++ answer.newState?.toList := by
  cases step with
  | addSimple name parent isFinal location =>
      simp only [ConstructionStep.apply, bind_eq_ok, pure_eq_ok, Prod.mk.injEq] at accepted
      obtain ⟨⟨index, _⟩, added, rfl, rfl⟩ := accepted
      exact handles_addState added
  | addComposite name parent location =>
      simp only [ConstructionStep.apply, bind_eq_ok, pure_eq_ok, Prod.mk.injEq] at accepted
      obtain ⟨⟨index, _⟩, added, rfl, rfl⟩ := accepted
      exact handles_addState added
  | connect source target input output location =>
      simp only [ConstructionStep.apply, bind_eq_ok, pure_eq_ok, Prod.mk.injEq] at accepted
      obtain ⟨⟨index, _⟩, connected, rfl, rfl⟩ := accepted
      exact handles_of_length (length_connect connected)
  | setInitial target =>
      simp only [ConstructionStep.apply, bind_eq_ok, pure_eq_ok, Prod.mk.injEq] at accepted
      obtain ⟨_, set, rfl, rfl⟩ := accepted
      exact handles_of_length (length_setInitial set)
  | setCompositeInitial composite target =>
      simp only [ConstructionStep.apply, bind_eq_ok, pure_eq_ok, Prod.mk.injEq] at accepted
      obtain ⟨_, set, rfl, rfl⟩ := accepted
      exact handles_of_length (length_setCompositeInitial set)
  | setMaxDepth maxDepth =>
      simp only [ConstructionStep.apply, pure_eq_ok, Prod.mk.injEq] at accepted
      obtain ⟨rfl, rfl⟩ := accepted
      exact handles_of_length rfl

theorem handles_perform (step : ConstructionStep) (construction : Construction) :
    (step.perform construction).2.handles =
      construction.handles ++ (newState? (step.perform construction).1).toList := by
  rw [ConstructionStep.perform]
  cases applied : step.apply construction with
  | error error => exact handles_of_length rfl
  | ok result => exact handles_apply applied

end Construction

/-- The handles that a machine gives out in a history of steps. Between two steps the source
of ids may serve other machines. -/
def Machine.handedOut (machine : Machine) : List (IdSource × ConstructionStep) → List StateIndex
  | [] => []
  | (ids, step) :: history =>
      let (answer, after) := step.perform ⟨machine, ids⟩
      (newState? answer).toList ++ after.machine.handedOut history

/-- They go on where the handles of the states that there are have ended, without a gap. -/
theorem Machine.handedOut_goesOn (machine : Machine)
    (history : List (IdSource × ConstructionStep)) :
    List.range machine.states.length ++ machine.handedOut history =
      List.range (machine.states.length + (machine.handedOut history).length) := by
  induction history generalizing machine with
  | nil => exact List.append_nil _
  | cons entry history induction =>
      rcases entry with ⟨ids, step⟩
      have next := Construction.handles_perform step ⟨machine, ids⟩
      have grown := congrArg List.length next
      have later := induction (step.perform ⟨machine, ids⟩).2.machine
      simp only [Construction.handles, List.length_append, List.length_range] at next grown
      rw [handedOut, ← List.append_assoc, ← next, later, grown, List.length_append, Nat.add_assoc]

/-- The handles of a new machine are the positions from the first one on. -/
theorem handedOut_start (name : String) (location : Option Location) (ids : IdSource)
    (history : List (IdSource × ConstructionStep)) :
    let given := (Construction.start name location ids).machine.handedOut history
    given = List.range given.length := by
  have goesOn := (Construction.start name location ids).machine.handedOut_goesOn history
  rwa [show (Construction.start name location ids).machine.states.length = 0 from rfl,
    Nat.zero_add] at goesOn

/-! ## Handles of another machine -/

/-- What a step does with the handles that another machine has given out, whatever others it
is given beside them. With as many states as its own machine has, it refuses all that the
other one has given out after its first ones, and names the first of its handles that lies
beyond; the first ones of the other machine it never names. -/
theorem refuses_handles_beyond_own (construction : Construction) (step : ConstructionStep)
    (name : String) (location : Option Location) (ids : IdSource)
    (history : List (IdSource × ConstructionStep)) :
    let foreign := (Construction.start name location ids).machine.handedOut history
    let own := construction.machine.states.length
    let first := construction.machine.firstBeyond step.handles
    (∀ handle ∈ step.handles, handle ∈ foreign.drop own → first.isSome) ∧
    (∀ handle, first = some handle → handle ∉ foreign.take own ∧
      step.perform construction = (.error (.foreignHandle "state" handle), construction)) ∧
    (first = none →
      ∀ what index, (step.perform construction).1 ≠ .error (.foreignHandle what index)) := by
  intro foreign own first
  have inOrder : foreign = List.range foreign.length := handedOut_start name location ids history
  refine ⟨?late, ?refused, Construction.perform_ne_foreign⟩
  case late =>
    intro handle given late
    have beyond : own ≤ handle := by
      rw [inOrder, List.range_eq_range', List.drop_range', List.mem_range'_1] at late
      omega
    exact List.find?_isSome.mpr ⟨handle, given, decide_eq_true beyond⟩
  case refused =>
    intro handle isFirst
    refine ⟨fun early => ?_, Construction.perform_of_beyond isFirst⟩
    rw [inOrder, List.take_range, List.mem_range, Nat.lt_min] at early
    exact Nat.not_lt_of_le (Machine.le_of_firstBeyond isFirst) early.1

/-- Another machine has given out two handles. A machine without states refuses a step with
both of them and names the one that the step looks up first, a machine with one state refuses
the second one, and a machine with two states refuses neither. -/
theorem refuses_handles_beyond_own_second :
    let simple : ConstructionStep := .addSimple none none false none
    let foreign := (Construction.start "right" none ⟨0⟩).machine.handedOut
      [(⟨1⟩, simple), (⟨7⟩, .connect 0 1 none none none), (⟨2⟩, simple)]
    let empty := Construction.start "left" none ⟨3⟩
    let one := (empty.run [simple]).2
    let two := (empty.run [simple, simple]).2
    let back : ConstructionStep := .connect 1 0 none none none
    let step : ConstructionStep := .connect 0 1 none none none
    foreign = [0, 1] ∧
      back.perform empty = (.error (.foreignHandle "state" 1), empty) ∧
      step.perform one = (.error (.foreignHandle "state" 1), one) ∧
      ∀ what index, (step.perform two).1 ≠ .error (.foreignHandle what index) := by
  intro simple foreign empty one two back step
  have given : foreign = [0, 1] := by decide +kernel
  have decided (left : Construction) (taken : ConstructionStep) :=
    refuses_handles_beyond_own left taken "right" none ⟨0⟩
      [(⟨1⟩, simple), (⟨7⟩, .connect 0 1 none none none), (⟨2⟩, simple)]
  exact ⟨given, ((decided empty back).2.1 1 rfl).2, ((decided one step).2.1 1 rfl).2,
    (decided two step).2.2 rfl⟩

/-- Whose handle it is makes no difference: two machines that share a source of ids have two
states each, and a transition of the first to the second one's last state is made. -/
theorem foreign_handle_accepted :
    ¬ ∀ (left right : Construction) (making step : ConstructionStep) (handle : StateIndex),
      left.machine.Reachable → right.machine.Reachable → left.machine.id ≠ right.machine.id →
      (making.perform right).1 = .ok (.state handle) → handle ∈ step.handles →
      step.perform left = (.error (.foreignHandle "state" handle), left) := by
  intro refused
  let simple : ConstructionStep := .addSimple none none false none
  let left := ((Construction.start "left" none ⟨0⟩).run [simple, simple]).2
  let right := ((Construction.start "right" none left.ids).run [simple]).2
  let step : ConstructionStep := .connect 0 1 none none none
  have accepted : (step.perform left).1 = .ok (.transition 0) := rfl
  rw [refused left right simple step 1 (Machine.reachable_run _ _ _ _)
    (Machine.reachable_run _ _ _ _) (by decide +kernel) rfl (by decide)] at accepted
  cases accepted

end Statechart
