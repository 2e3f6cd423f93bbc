import Statechart.Protocol.Message
import Statechart.Machine.Nesting
import Statechart.Snapshot

/-!
Engines execute machines. A session holds the executions and hands them to its
engine, which only reads the machine and says how the execution goes on.
-/

namespace Statechart

inductive EngineError where
  | noInitialState
  | tree (error : TreeError)
  | failed (message : String)
  deriving DecidableEq, Repr

namespace EngineError

def message : EngineError → String
  | .noInitialState => "state machine has no initial state"
  | .tree error => error.message
  | .failed message => "execution failed: " ++ message

def causes : EngineError → List String
  | .tree error => [error.message]
  | _ => []

end EngineError

/-! What can be seen of an execution. -/

structure ExecutionView (ε : Type) where
  inputs : ε → List String
  nextInput : ε → UInt64
  hasNextTransition : ε → Bool
  current : ε → StateIndex
  outputs : ε → List String
  isDone : ε → Bool

/-! Engines on executions of type `ε`. A step answers with what was done, or
with none when there was nothing left to do, and leaves an execution behind
even when it fails. `checkBreakpoint` is asked only about a declared kind of
breakpoint and an element that one of its parameters takes. -/

structure Engine (ε : Type) extends ExecutionView ε where
  start : Machine → List String → Except EngineError ε
  step : Machine → ε → Except EngineError (Option Step) × ε
  breakpointTypes : List BreakpointType := BreakpointType.declared
  checkBreakpoint : Machine → ε → String → Element → CheckBreakpointResponse

namespace Snapshot

/-- A snapshot of an execution; the next input is only told while a transition
is pending. -/
def capture (view : ExecutionView ε) (execution : ε) (ids : IdSource) : Snapshot × IdSource :=
  let nextInput :=
    if view.hasNextTransition execution then some (view.nextInput execution) else none
  take (view.inputs execution) nextInput (view.current execution) (view.outputs execution) ids

end Snapshot

end Statechart
