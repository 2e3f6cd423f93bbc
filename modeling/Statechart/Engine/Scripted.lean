import Statechart.Session.Engine

/-!
An engine that follows a script. The script says what an execution looks like
at its start and after a step, which failures occur and which kinds of
breakpoints are declared, so a session can be led into every situation. The
answer to a breakpoint check spells out what the engine was asked.
-/

namespace Statechart

/-! The part of an execution that a script sets. -/

structure ScriptedState where
  current : StateIndex := 0
  index : UInt64 := 0
  pending : Bool := false
  done : Bool := false
  outputs : List String := []
  deriving DecidableEq, Repr

structure ScriptedRun where
  inputs : List String
  state : ScriptedState
  deriving DecidableEq, Repr

structure Script where
  state : ScriptedState := {}
  startError : Option EngineError := none
  stepState : Option ScriptedState := none
  stepError : Option EngineError := none
  makesNoProgress : Bool := false
  stepKind : String := ""
  stepInfo : Dictionary String := .empty
  breakpointTypes : List BreakpointType := BreakpointType.declared

namespace Script

def start (script : Script) (inputs : List String) : Except EngineError ScriptedRun :=
  match script.startError with
  | some error => .error error
  | none => .ok { inputs, state := script.state }

def step (script : Script) (run : ScriptedRun) :
    Except EngineError (Option Step) × ScriptedRun :=
  let run := { run with state := script.stepState.getD run.state }
  match script.stepError with
  | some error => (.error error, run)
  | none =>
      if script.makesNoProgress then (.ok none, run)
      else (.ok (some ⟨script.stepKind, script.stepInfo⟩), run)

def position : Element → String
  | .machine => ""
  | .state index => toString index
  | .transition index => toString index

def checkBreakpoint (machine : Machine) (run : ScriptedRun) (typeId : String)
    (element : Element) : CheckBreakpointResponse :=
  .activated ("|".intercalate
    [machine.name, typeId, element.typeTag, position element, toString run.state.index.toNat])

end Script

def Engine.scripted (script : Script) : Engine ScriptedRun where
  inputs := (·.inputs)
  nextInput := (·.state.index)
  hasNextTransition := (·.state.pending)
  current := (·.state.current)
  outputs := (·.state.outputs)
  isDone := (·.state.done)
  start _ inputs := script.start inputs
  step _ run := script.step run
  breakpointTypes := script.breakpointTypes
  checkBreakpoint := Script.checkBreakpoint

end Statechart
