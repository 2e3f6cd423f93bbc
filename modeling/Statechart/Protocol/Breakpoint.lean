import Statechart.Json.Structure
import Statechart.Machine.Basic

/-!
Kinds of breakpoints. A kind is declared with its parameters, each of a
primitive type or for elements of one type; a front-end offers the declared
kinds and asks whether one of them fires on an element.
-/

namespace Statechart

open Json

inductive PrimitiveType where
  | boolean
  | string
  | number
  deriving DecidableEq, Repr

namespace PrimitiveType

def name : PrimitiveType → String
  | .boolean => "boolean"
  | .string => "string"
  | .number => "number"

def choices : List (String × PrimitiveType) :=
  [("boolean", .boolean), ("string", .string), ("number", .number)]

def codec : Codec PrimitiveType :=
  .choice choices name

end PrimitiveType

/-! One of the two types is expected to be set; nothing depends on it. -/

structure BreakpointParameter where
  name : String := ""
  primitiveType : Option PrimitiveType := none
  objectType : Option String := none
  isMultivalued : Bool := false
  deriving DecidableEq, Repr

namespace BreakpointParameter

def primitive (name : String) (primitiveType : PrimitiveType) : BreakpointParameter :=
  { name, primitiveType := some primitiveType }

def object (name objectType : String) : BreakpointParameter :=
  { name, objectType := some objectType }

def multivalued (parameter : BreakpointParameter) : BreakpointParameter :=
  { parameter with isMultivalued := true }

def codec : Codec BreakpointParameter :=
  .ofFields {} [
    .required "name" .text (·.name) ({ · with name := · }),
    .omittable "primitiveType" PrimitiveType.codec (·.primitiveType)
      ({ · with primitiveType := · }),
    .omittable "objectType" .text (·.objectType) ({ · with objectType := · }),
    .defaulted "isMultivalued" .flag false (·.isMultivalued) ({ · with isMultivalued := · })
  ]

end BreakpointParameter

structure BreakpointType where
  id : String := ""
  name : String := ""
  description : String := ""
  parameters : List BreakpointParameter := []
  deriving DecidableEq, Repr

namespace BreakpointType

def codec : Codec BreakpointType :=
  .ofFields {} [
    .required "id" .text (·.id) ({ · with id := · }),
    .required "name" .text (·.name) ({ · with name := · }),
    .defaulted "description" .text "" (·.description) ({ · with description := · }),
    .required "parameters" BreakpointParameter.codec.list (·.parameters)
      ({ · with parameters := · })
  ]

/-- Whether a parameter takes elements of that type. -/
def accepts (breakpointType : BreakpointType) (typeTag : String) : Bool :=
  breakpointType.parameters.any (·.objectType == some typeTag)

/-- The first of the types with that id. -/
def find? (types : List BreakpointType) (id : String) : Option BreakpointType :=
  types.find? (·.id == id)

/-! The two kinds that every engine offers unless it declares its own. -/

def stateReached : String := "stateMachine.stateReached"

def transitionFired : String := "stateMachine.transitionFired"

def declared : List BreakpointType := [
  { id := stateReached
    name := "State reached"
    description := "Breaks when a state is about to be entered."
    parameters := [.object "state" stateType] },
  { id := transitionFired
    name := "Transition fired"
    description := "Breaks when a transition is about to be fired."
    parameters := [.object "transition" transitionType] }
]

end BreakpointType

end Statechart
