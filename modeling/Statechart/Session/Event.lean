import Statechart.Protocol.Message
import Statechart.Text.Quoted

/-!
What a session tells its log. Each event has a level, a message and named
fields.
-/

namespace Statechart

inductive EventLevel where
  | debug
  | info
  | warning
  deriving DecidableEq, Repr

def EventLevel.name : EventLevel → String
  | .debug => "DEBUG"
  | .info => "INFO"
  | .warning => "WARN"

inductive Event where
  | builtMachine (machine : String) (states transitions : Nat)
  | parsedSource (sourceFile : String) (states transitions : Nat)
  | droppedExecution (sourceFile : String)
  | initializedExecution (sourceFile : String) (inputs : Nat) (isExecutionDone : Bool)
  | stepped (sourceFile : String) (step : Step)
  | noProgress (sourceFile : String)
  | listedBreakpointTypes (sourceFile : Option String) (count : Nat)
  | unknownBreakpointType (typeId : String)
  | unknownBreakpointElement (elementId : String)

namespace Event

def level : Event → EventLevel
  | .parsedSource _ _ _ | .initializedExecution _ _ _ => .info
  | .noProgress _ | .unknownBreakpointType _ | .unknownBreakpointElement _ => .warning
  | _ => .debug

def message : Event → String
  | .builtMachine _ _ _ => "built state machine"
  | .parsedSource _ _ _ => "parsed source file"
  | .droppedExecution _ => "dropped stale execution"
  | .initializedExecution _ _ _ => "initialized execution"
  | .stepped _ _ => "stepped"
  | .noProgress _ => "engine made no progress"
  | .listedBreakpointTypes _ _ => "listed breakpoint types"
  | .unknownBreakpointType _ => "unknown breakpoint type"
  | .unknownBreakpointElement _ => "unknown breakpoint element"

/-! Fields are numbers, flags and texts. Optional texts and dictionaries are
shown in the notation of values, with their texts quoted. -/

def count (value : Nat) : Json :=
  .number (UInt64.ofNat value)

def quotedOption : Option String → String
  | none => "None"
  | some text => "Some(" ++ Text.quoted text ++ ")"

def fields : Event → List (String × Json)
  | .builtMachine machine states transitions => [
      ("machine", .text machine), ("states", count states), ("transitions", count transitions)]
  | .parsedSource sourceFile states transitions => [
      ("source_file", .text sourceFile), ("states", count states),
      ("transitions", count transitions)]
  | .droppedExecution sourceFile => [("source_file", .text sourceFile)]
  | .initializedExecution sourceFile inputs isExecutionDone => [
      ("source_file", .text sourceFile), ("inputs", count inputs),
      ("is_execution_done", .flag isExecutionDone)]
  | .stepped sourceFile step => [
      ("source_file", .text sourceFile), ("step_type", .text step.kind),
      ("info", .text (Text.quotedEntries step.info.entries))]
  | .noProgress sourceFile => [("source_file", .text sourceFile)]
  | .listedBreakpointTypes sourceFile types => [
      ("source_file", .text (quotedOption sourceFile)), ("count", count types)]
  | .unknownBreakpointType typeId => [("type_id", .text typeId)]
  | .unknownBreakpointElement elementId => [("element_id", .text elementId)]

def ofMachine (machine : Machine) : Event :=
  .builtMachine machine.name machine.states.length machine.transitions.length

end Event

end Statechart
