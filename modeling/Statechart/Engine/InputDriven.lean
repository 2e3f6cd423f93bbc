import Statechart.Session.Engine

/-!
An engine that is driven by its inputs. Each step takes one input and fires the
first transition of the current state that is labelled with it; an execution is
done as soon as no transition of its state takes the next input.
-/

namespace Statechart

structure InputRun where
  inputs : List String
  index : Nat
  current : StateIndex
  pending : Option TransitionIndex
  outputs : List String
  deriving DecidableEq, Repr

namespace InputRun

/-- The transition that takes the next input. -/
def findPending (machine : Machine) (run : InputRun) : Option TransitionIndex := do
  let input ← run.inputs[run.index]?
  let state ← machine.state? run.current
  state.outgoing.find? fun candidate =>
    (machine.transition? candidate).bind (·.input) == some input

def start (machine : Machine) (inputs : List String) : Except EngineError InputRun :=
  match machine.initial with
  | none => .error .noInitialState
  | some initial =>
      match initial.nested machine with
      | .error error => .error (.tree error)
      | .ok current =>
          let run : InputRun := { inputs, index := 0, current, pending := none, outputs := [] }
          .ok { run with pending := run.findPending machine }

def pendingTransition (machine : Machine) (run : InputRun) : Option Transition :=
  run.pending.bind machine.transition?

/-! A step that cannot enter its target keeps the input and the output it has
already dealt with. -/

def step (machine : Machine) (run : InputRun) : Except EngineError (Option Step) × InputRun :=
  match run.pendingTransition machine with
  | none => (.ok none, run)
  | some transition =>
      let run :=
        { run with
          index := run.index + 1
          outputs := run.outputs ++ transition.output.toList }
      match machine.nestedInitial transition.target with
      | .error error => (.error (.tree error), run)
      | .ok current =>
          let run := { run with current }
          (.ok (some (.firing transition)), { run with pending := run.findPending machine })

/-- Whether the pending transition fires that transition or enters that state. -/
def hits (machine : Machine) (run : InputRun) (transition : Transition) (typeId : String) :
    Element → Bool
  | .state index =>
      typeId == BreakpointType.stateReached
        && (machine.nestedInitial transition.target).toOption == some index
  | .transition index =>
      typeId == BreakpointType.transitionFired && run.pending == some index
  | .machine => false

def checkBreakpoint (machine : Machine) (run : InputRun) (typeId : String) (element : Element) :
    CheckBreakpointResponse :=
  match run.pendingTransition machine with
  | none => .notActivated
  | some transition =>
      if run.hits machine transition typeId element then .activated (typeId ++ " hit")
      else .notActivated

end InputRun

def Engine.inputDriven : Engine InputRun where
  inputs := (·.inputs)
  nextInput run := UInt64.ofNat run.index
  hasNextTransition := (·.pending.isSome)
  current := (·.current)
  outputs := (·.outputs)
  isDone := (·.pending.isNone)
  start := InputRun.start
  step := InputRun.step
  checkBreakpoint := InputRun.checkBreakpoint

end Statechart
