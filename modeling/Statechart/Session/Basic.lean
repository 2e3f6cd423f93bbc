import Statechart.Declaration.Build
import Statechart.Record.Check
import Statechart.Record.Rendering
import Statechart.Session.Engine
import Statechart.Session.Event
import Statechart.Session.Registry
import Statechart.Source.Parser

/-!
One debug session. It answers requests about source files: a file is parsed, its
machine is kept, and at most one execution of that machine is held. Parsing a
file again replaces its machine and drops its execution. A request that fails
leaves the machine and the execution of every file as they were, except that a
failed step keeps what the engine made of the execution.
-/

namespace Statechart

inductive SessionError where
  | build (error : BuildError)
  | tree (error : TreeError)
  | engine (error : EngineError)
  | notParsed (sourceFile : String)
  | notInitialized (sourceFile : String)
  deriving DecidableEq, Repr

namespace SessionError

def message : SessionError → String
  | .build error => "parse failed: " ++ error.message
  | .tree error => "serialization failed: " ++ error.message
  | .engine error => error.message
  | .notParsed sourceFile => "source file not parsed: " ++ sourceFile
  | .notInitialized sourceFile => "no execution initialized for: " ++ sourceFile

def causes : SessionError → List String
  | .build error => error.message :: error.causes
  | .tree error => [error.message]
  | .engine error => error.message :: error.causes
  | .notParsed _ => []
  | .notInitialized _ => []

end SessionError

/-! What a session works with, and what it remembers. -/

structure Backend (ε : Type) where
  configuration : Configuration := {}
  parser : SourceParser
  engine : Engine ε

structure Session (ε : Type) where
  ids : IdSource := {}
  registry : Registry := .empty
  executions : Dictionary ε := .empty

/-! A reply to a request: the answer, the session afterwards and the events told
to the log in their order. -/

structure Reply (ε α : Type) where
  answer : Except SessionError α
  session : Session ε
  events : List Event := []

namespace Session

variable {ε : Type}

def refuse (session : Session ε) (error : SessionError) : Reply ε α :=
  { answer := .error error, session }

/-- The machine of a source file. -/
def machineOf (session : Session ε) (sourceFile : String) : Except SessionError Machine :=
  match session.registry.get? sourceFile with
  | some machine => .ok machine
  | none => .error (.notParsed sourceFile)

/-- The machine of a source file and its execution. -/
def executionOf (session : Session ε) (sourceFile : String) :
    Except SessionError (Machine × ε) := do
  let machine ← session.machineOf sourceFile
  match session.executions.get? sourceFile with
  | some execution => return (machine, execution)
  | none => .error (.notInitialized sourceFile)

/-! Renders a machine for a response, checked when the configuration asks for
it. -/

def renderMachine (configuration : Configuration) (machine : Machine) :
    Except TreeError Record := do
  let root ← (Renderer.ofConfiguration machine configuration).stateMachine
  if configuration.validateReferences then root.checkResponse
  return root

def renderSnapshot (configuration : Configuration) (machine : Machine) (snapshot : Snapshot) :
    Except TreeError Record := do
  let root ← (Renderer.ofConfiguration machine configuration).snapshot snapshot
  if configuration.validateReferences then root.checkReferencesAgainst machine.containsId
  return root

def parse (backend : Backend ε) (arguments : ParseArguments) (session : Session ε) :
    Reply ε ParseResponse :=
  let sourceFile := arguments.sourceFile
  match backend.parser sourceFile with
  | .error error => session.refuse (.build error)
  | .ok declaration =>
      match declaration.build backend.configuration.maxDepth.toNat session.ids with
      | (.error error, ids) => { session with ids }.refuse (.build error)
      | (.ok machine, ids) =>
          let built := Event.ofMachine machine
          match renderMachine backend.configuration machine with
          | .error error =>
              { answer := .error (.tree error), session := { session with ids }, events := [built] }
          | .ok root =>
              let parsed := Event.parsedSource sourceFile machine.states.length
                machine.transitions.length
              let dropped :=
                if session.executions.contains sourceFile then [.droppedExecution sourceFile]
                else []
              { answer := .ok ⟨root⟩
                session :=
                  { ids
                    registry := session.registry.insert sourceFile machine
                    executions := session.executions.erase sourceFile }
                events := built :: parsed :: dropped }

def init (backend : Backend ε) (arguments : InitArguments) (session : Session ε) :
    Reply ε InitResponse :=
  let sourceFile := arguments.sourceFile
  match session.machineOf sourceFile with
  | .error error => session.refuse error
  | .ok machine =>
      match backend.engine.start machine arguments.inputs with
      | .error error => session.refuse (.engine error)
      | .ok execution =>
          let isExecutionDone := backend.engine.isDone execution
          { answer := .ok ⟨isExecutionDone⟩
            session := { session with executions := session.executions.insert sourceFile execution }
            events := [.initializedExecution sourceFile arguments.inputs.length isExecutionDone] }

/-- Goes one step on; an execution that is done is left alone. -/
def step (backend : Backend ε) (arguments : StepArguments) (session : Session ε) :
    Reply ε StepResponse :=
  let sourceFile := arguments.sourceFile
  match session.executionOf sourceFile with
  | .error error => session.refuse error
  | .ok (machine, execution) =>
      if backend.engine.isDone execution then { answer := .ok ⟨true⟩, session }
      else
        let (outcome, execution) := backend.engine.step machine execution
        let session :=
          { session with executions := session.executions.insert sourceFile execution }
        match outcome with
        | .error error => session.refuse (.engine error)
        | .ok done =>
            let event :=
              match done with
              | some step => .stepped sourceFile step
              | none => .noProgress sourceFile
            { answer := .ok ⟨backend.engine.isDone execution⟩, session, events := [event] }

/-- The snapshot uses up an id even when it cannot be rendered. -/
def getRuntimeState (backend : Backend ε) (arguments : GetRuntimeStateArguments)
    (session : Session ε) : Reply ε GetRuntimeStateResponse :=
  match session.executionOf arguments.sourceFile with
  | .error error => session.refuse error
  | .ok (machine, execution) =>
      let (snapshot, ids) :=
        Snapshot.capture backend.engine.toExecutionView execution session.ids
      let session := { session with ids }
      match renderSnapshot backend.configuration machine snapshot with
      | .error error => session.refuse (.tree error)
      | .ok root => { answer := .ok ⟨root⟩, session }

def getBreakpointTypes (backend : Backend ε) (arguments : GetBreakpointTypesArguments)
    (session : Session ε) : Reply ε GetBreakpointTypesResponse :=
  let types := backend.engine.breakpointTypes
  { answer := .ok ⟨types⟩
    session
    events := [.listedBreakpointTypes arguments.sourceFile types.length] }

/-- Unknown kinds and elements, and elements of another type, are answered with
a rejection and not with an error. -/
def checkBreakpoint (backend : Backend ε) (arguments : CheckBreakpointArguments)
    (session : Session ε) : Reply ε CheckBreakpointResponse :=
  match session.executionOf arguments.sourceFile with
  | .error error => session.refuse error
  | .ok (machine, execution) =>
      match BreakpointType.find? backend.engine.breakpointTypes arguments.typeId with
      | none =>
          { answer := .ok (.rejected ("unknown breakpoint type: " ++ arguments.typeId))
            session
            events := [.unknownBreakpointType arguments.typeId] }
      | some breakpointType =>
          match machine.findElement arguments.elementId with
          | none =>
              { answer := .ok (.rejected ("unknown element: " ++ arguments.elementId))
                session
                events := [.unknownBreakpointElement arguments.elementId] }
          | some element =>
              if breakpointType.accepts element.typeTag then
                { answer := .ok
                    (backend.engine.checkBreakpoint machine execution breakpointType.id element)
                  session }
              else
                { answer := .ok (.rejected
                    ("breakpoint " ++ breakpointType.id ++ " does not apply to "
                      ++ element.typeTag))
                  session }

end Session

end Statechart
