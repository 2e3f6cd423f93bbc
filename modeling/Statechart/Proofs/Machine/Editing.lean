import Statechart.Proofs.Machine.Advance

/-!
Construction steps as edits in place. An edit writes one list or one number at a time,
and what it has written stays where it is when a later check rejects the step. Each step
is such an edit: its checks stand before its first write, so that it is carried out
whole or not at all.
-/

namespace Statechart

abbrev Editing := EStateM ConstructionError Construction

namespace Editing

/-! ## Checks and writes -/

def checkedState (index : StateIndex) : Editing State := do
  match (← get).machine.state? index with
  | some state => return state
  | none => throw (.foreignHandle "state" index)

def checkParent : Option StateIndex → Editing Unit
  | none => return
  | some parent => do
      let container ← checkedState parent
      if container.isComposite then return else throw (.parentNotComposite container.id)

/-- Takes the next number, which is gone from then on. -/
def mint (kind : String) : Editing String :=
  modifyGet fun construction =>
    let (id, ids) := construction.ids.mint kind
    (id, { construction with ids })

def editMachine (change : Machine → Machine) : Editing Unit :=
  modify fun construction => { construction with machine := change construction.machine }

def editState (index : StateIndex) (change : State → State) : Editing Unit :=
  editMachine fun machine => { machine with states := machine.states.modify index change }

/-! ## Steps -/

def addState (name : Option String) (parent : Option StateIndex) (isFinal : Bool)
    (location : Option Location) (kind : StateKind) : Editing StateIndex := do
  checkParent parent
  let index := (← get).machine.states.length
  let id ← mint "state"
  let state : State :=
    { id, name, isFinal, parent, location, kind
      outgoing := []
      incoming := [] }
  editMachine fun machine => { machine with states := machine.states ++ [state] }
  match parent with
  | some parent => editState parent (·.addChild index)
  | none => editMachine fun machine => { machine with topLevel := machine.topLevel ++ [index] }
  return index

def connect (source target : StateIndex) (input output : Option String)
    (location : Option Location) : Editing TransitionIndex := do
  let _ ← checkedState source
  let _ ← checkedState target
  let index := (← get).machine.transitions.length
  let id ← mint "transition"
  let transition : Transition := { id, source, target, input, output, location }
  editMachine fun machine => { machine with transitions := machine.transitions ++ [transition] }
  editState source (·.addOutgoing index)
  editState target (·.addIncoming index)
  return index

def setInitial (target : StateIndex) : Editing Unit := do
  let state ← checkedState target
  if state.parent.isSome then throw (.initialNotTopLevel state.id)
  else editMachine fun machine => { machine with initial := some ⟨target, none⟩ }

def setCompositeInitial (composite target : StateIndex) : Editing Unit := do
  let compositeState ← checkedState composite
  let targetState ← checkedState target
  if !compositeState.isComposite then throw (.notComposite compositeState.id)
  else if targetState.parent ≠ some composite then
    throw (.initialNotChild compositeState.id targetState.id)
  else editState composite (·.setInitial ⟨target, targetState.parent⟩)

end Editing

/-- The edit that a step is. -/
def ConstructionStep.edit : ConstructionStep → Editing ConstructionAnswer
  | .addSimple name parent isFinal location =>
      .state <$> Editing.addState name parent isFinal location .simple
  | .addComposite name parent location =>
      .state <$> Editing.addState name parent false location (.composite [] none)
  | .connect source target input output location =>
      .transition <$> Editing.connect source target input output location
  | .setInitial target => do
      Editing.setInitial target
      return .done
  | .setCompositeInitial composite target => do
      Editing.setCompositeInitial composite target
      return .done
  | .setMaxDepth maxDepth => do
      Editing.editMachine fun machine => { machine with maxDepth }
      return .done

namespace Editing

variable {α β : Type} {construction : Construction}

/-! ## Whole or not at all -/

/-- An edit that does all that a step does, or nothing. -/
def CarriesOut (edit : Editing α) (construction : Construction)
    (outcome : Except ConstructionError (α × Construction)) : Prop :=
  match outcome with
  | .ok (answer, after) => edit construction = .ok answer after
  | .error error => edit construction = .error error construction

/-- A check leaves everything as it is, whether it passes or not. -/
def Checks (check : Editing α) (construction : Construction)
    (outcome : Except ConstructionError α) : Prop :=
  check.CarriesOut construction ((·, construction) <$> outcome)

theorem Checks.bind {check : Editing α} {outcome : Except ConstructionError α}
    {next : α → Editing β} {step : α → Except ConstructionError (β × Construction)}
    (checks : check.Checks construction outcome)
    (then_carriesOut : ∀ value, (next value).CarriesOut construction (step value)) :
    (check >>= next).CarriesOut construction (outcome >>= step) := by
  cases outcome with
  | error error =>
      have stopped : check construction = .error error construction := checks
      change (check >>= next) construction = .error error construction
      simp [Bind.bind, EStateM.bind, stopped]
  | ok value =>
      have passed : check construction = .ok value construction := checks
      have goesOn : (check >>= next) construction = next value construction := by
        simp [Bind.bind, EStateM.bind, passed]
      have carriesOut := then_carriesOut value
      unfold CarriesOut at carriesOut
      unfold CarriesOut
      rwa [goesOn]

/-- A step is carried out likewise behind one more reason to reject it. -/
theorem CarriesOut.unless {refused : Prop} [Decidable refused] {edit : Editing β}
    {outcome : Except ConstructionError α} {step : α → Except ConstructionError (β × Construction)}
    (error : ConstructionError) (carriesOut : edit.CarriesOut construction (outcome >>= step)) :
    CarriesOut (if refused then throw error else edit) construction
      ((if refused then .error error else outcome) >>= step) := by
  by_cases holds : refused
  · rw [if_pos holds, if_pos holds]
    rfl
  · rwa [if_neg holds, if_neg holds]

theorem checks_checkedState (construction : Construction) (index : StateIndex) :
    (checkedState index).Checks construction (construction.checkedState index) := by
  have looked : checkedState index construction =
      (match construction.machine.state? index with
        | some state => (pure state : Editing State)
        | none => throw (ConstructionError.foreignHandle "state" index)) construction := rfl
  unfold Checks CarriesOut Construction.checkedState
  rw [looked]
  cases construction.machine.state? index <;> rfl

theorem checks_checkParent (construction : Construction) (parent : Option StateIndex) :
    (checkParent parent).Checks construction (construction.checkParent parent) := by
  cases parent with
  | none => rfl
  | some parent =>
    rw [Checks, Construction.checkParent, map_bind]
    refine (checks_checkedState construction parent).bind fun container => ?_
    cases container.isComposite <;> rfl

/-! What a step writes, it writes after its last check. -/

theorem carriesOut_addState (name : Option String) (parent : Option StateIndex) (isFinal : Bool)
    (location : Option Location) (kind : StateKind) (construction : Construction) :
    (addState name parent isFinal location kind).CarriesOut construction
      (construction.addState name parent isFinal location kind) := by
  refine (checks_checkParent construction parent).bind fun _ => ?_
  cases parent <;> rfl

theorem carriesOut_connect (source target : StateIndex) (input output : Option String)
    (location : Option Location) (construction : Construction) :
    (connect source target input output location).CarriesOut construction
      (construction.connect source target input output location) := by
  refine (checks_checkedState construction source).bind fun _ => ?_
  exact (checks_checkedState construction target).bind fun _ => rfl

theorem carriesOut_setInitial (target : StateIndex) (construction : Construction) :
    (setInitial target).CarriesOut construction
      (return ((), ← construction.setInitial target)) := by
  rw [Construction.setInitial, bind_assoc]
  exact (checks_checkedState construction target).bind fun state => .unless _ rfl

theorem carriesOut_setCompositeInitial (composite target : StateIndex)
    (construction : Construction) :
    (setCompositeInitial composite target).CarriesOut construction
      (return ((), ← construction.setCompositeInitial composite target)) := by
  rw [Construction.setCompositeInitial, bind_assoc]
  refine (checks_checkedState construction composite).bind fun compositeState => ?_
  rw [bind_assoc]
  exact (checks_checkedState construction target).bind fun targetState =>
    .unless _ (.unless _ rfl)

theorem CarriesOut.map {edit : Editing α} {outcome : Except ConstructionError (α × Construction)}
    (carriesOut : edit.CarriesOut construction outcome) (answer : α → β) :
    (answer <$> edit).CarriesOut construction
      (do let (value, after) ← outcome; return (answer value, after)) := by
  unfold CarriesOut at carriesOut
  cases outcome with
  | error error =>
      change (answer <$> edit) construction = .error error construction
      simp only at carriesOut
      simp [Functor.map, EStateM.map, carriesOut]
  | ok result =>
      change (answer <$> edit) construction = .ok (answer result.1) result.2
      simp only at carriesOut
      simp [Functor.map, EStateM.map, carriesOut]

theorem carriesOut_edit (step : ConstructionStep) (construction : Construction) :
    step.edit.CarriesOut construction (step.apply construction) := by
  cases step with
  | addSimple name parent isFinal location =>
      exact (carriesOut_addState name parent isFinal location .simple construction).map
        ConstructionAnswer.state
  | addComposite name parent location =>
      exact (carriesOut_addState name parent false location (.composite [] none) construction).map
        ConstructionAnswer.state
  | connect source target input output location =>
      exact (carriesOut_connect source target input output location construction).map
        ConstructionAnswer.transition
  | setInitial target =>
      have carriesOut := (carriesOut_setInitial target construction).map fun _ =>
        ConstructionAnswer.done
      rwa [bind_assoc] at carriesOut
  | setCompositeInitial composite target =>
      have carriesOut := (carriesOut_setCompositeInitial composite target construction).map fun _ =>
        ConstructionAnswer.done
      rwa [bind_assoc] at carriesOut
  | setMaxDepth maxDepth => rfl

/-! ## Answers -/

/-- What an edit answers, and what it leaves. -/
def perform (edit : Editing α) (construction : Construction) :
    Except ConstructionError α × Construction :=
  match edit construction with
  | .ok answer after => (.ok answer, after)
  | .error error after => (.error error, after)

/-! An edit that takes a number before it fails has used the number up. -/

example (error : ConstructionError) :
    (do let _ ← mint "state"; throw error : Editing Unit).perform construction =
      (.error error, { construction with ids := ⟨construction.ids.next + 1⟩ }) := rfl

theorem perform_edit (step : ConstructionStep) (construction : Construction) :
    step.edit.perform construction = step.perform construction := by
  have carriesOut := carriesOut_edit step construction
  unfold CarriesOut at carriesOut
  rw [perform, ConstructionStep.perform]
  cases applied : step.apply construction with
  | error error =>
      simp only [applied] at carriesOut
      rw [carriesOut]
  | ok result =>
      simp only [applied] at carriesOut
      rw [carriesOut]

theorem perform_edit_of_rejected {step : ConstructionStep}
    (rejected : (step.edit.perform construction).1.isOk = false) :
    (step.edit.perform construction).2 = construction := by
  rw [perform_edit, ConstructionStep.perform] at rejected ⊢
  cases applied : step.apply construction with
  | error error => rfl
  | ok result => simp [applied, Except.isOk, Except.toBool] at rejected

end Editing

end Statechart
