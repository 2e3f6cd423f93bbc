import Statechart.Protocol.Breakpoint
import Statechart.Record.Basic

/-!
The messages between a front-end and a session: the arguments of each request
and the response to it.
-/

namespace Statechart

open Json

structure ParseArguments where
  sourceFile : String := ""
  deriving DecidableEq, Repr

def ParseArguments.codec : Codec ParseArguments :=
  .ofFields {} [
    .required "sourceFile" .text (·.sourceFile) ({ · with sourceFile := · })
  ]

structure ParseResponse where
  astRoot : Record := {}

def ParseResponse.codec : Codec ParseResponse :=
  .ofFields {} [
    .required "astRoot" Record.codec (·.astRoot) ({ · with astRoot := · })
  ]

structure InitArguments where
  sourceFile : String := ""
  inputs : List String := []
  deriving DecidableEq, Repr

def InitArguments.codec : Codec InitArguments :=
  .ofFields {} [
    .required "sourceFile" .text (·.sourceFile) ({ · with sourceFile := · }),
    .defaulted "inputs" Codec.text.list [] (·.inputs) ({ · with inputs := · })
  ]

structure InitResponse where
  isExecutionDone : Bool := false
  deriving DecidableEq, Repr

def InitResponse.codec : Codec InitResponse :=
  .ofFields {} [
    .required "isExecutionDone" .flag (·.isExecutionDone) ({ · with isExecutionDone := · })
  ]

structure StepArguments where
  sourceFile : String := ""
  deriving DecidableEq, Repr

def StepArguments.codec : Codec StepArguments :=
  .ofFields {} [
    .required "sourceFile" .text (·.sourceFile) ({ · with sourceFile := · })
  ]

structure StepResponse where
  isExecutionDone : Bool := false
  deriving DecidableEq, Repr

def StepResponse.codec : Codec StepResponse :=
  .ofFields {} [
    .required "isExecutionDone" .flag (·.isExecutionDone) ({ · with isExecutionDone := · })
  ]

structure GetRuntimeStateArguments where
  sourceFile : String := ""
  deriving DecidableEq, Repr

def GetRuntimeStateArguments.codec : Codec GetRuntimeStateArguments :=
  .ofFields {} [
    .required "sourceFile" .text (·.sourceFile) ({ · with sourceFile := · })
  ]

structure GetRuntimeStateResponse where
  runtimeStateRoot : Record := {}

def GetRuntimeStateResponse.codec : Codec GetRuntimeStateResponse :=
  .ofFields {} [
    .required "runtimeStateRoot" Record.codec (·.runtimeStateRoot)
      ({ · with runtimeStateRoot := · })
  ]

/-! The kinds of breakpoints do not depend on the source file. -/

structure GetBreakpointTypesArguments where
  sourceFile : Option String := none
  deriving DecidableEq, Repr

def GetBreakpointTypesArguments.codec : Codec GetBreakpointTypesArguments :=
  .ofFields {} [
    .omittable "sourceFile" .text (·.sourceFile) ({ · with sourceFile := · })
  ]

structure GetBreakpointTypesResponse where
  breakpointTypes : List BreakpointType := []
  deriving DecidableEq, Repr

def GetBreakpointTypesResponse.codec : Codec GetBreakpointTypesResponse :=
  .ofFields {} [
    .required "breakpointTypes" BreakpointType.codec.list (·.breakpointTypes)
      ({ · with breakpointTypes := · })
  ]

structure CheckBreakpointArguments where
  sourceFile : String := ""
  typeId : String := ""
  elementId : String := ""
  deriving DecidableEq, Repr

def CheckBreakpointArguments.codec : Codec CheckBreakpointArguments :=
  .ofFields {} [
    .required "sourceFile" .text (·.sourceFile) ({ · with sourceFile := · }),
    .required "typeId" .text (·.typeId) ({ · with typeId := · }),
    .required "elementId" .text (·.elementId) ({ · with elementId := · })
  ]

/-! A breakpoint that does not fire is a normal answer; the message explains
it. -/

structure CheckBreakpointResponse where
  isActivated : Bool := false
  message : Option String := none
  deriving DecidableEq, Repr

namespace CheckBreakpointResponse

def activated (message : String) : CheckBreakpointResponse :=
  { isActivated := true, message := some message }

def notActivated : CheckBreakpointResponse :=
  { isActivated := false, message := none }

def rejected (message : String) : CheckBreakpointResponse :=
  { isActivated := false, message := some message }

def codec : Codec CheckBreakpointResponse :=
  .ofFields {} [
    .required "isActivated" .flag (·.isActivated) ({ · with isActivated := · }),
    .omittable "message" .text (·.message) ({ · with message := · })
  ]

end CheckBreakpointResponse

/-! One unit of progress of an execution. Firing a transition is reported with
the id of the transition. -/

structure Step where
  kind : String := ""
  info : Dictionary String := .empty

namespace Step

def firing (transition : Transition) : Step where
  kind := transitionType
  info := .ofList [("transition", transition.id)]

def codec : Codec Step :=
  .ofFields {} [
    .required "type" .text (·.kind) ({ · with kind := · }),
    .required "info" Codec.text.dictionary (·.info) ({ · with info := · })
  ]

end Step

end Statechart
