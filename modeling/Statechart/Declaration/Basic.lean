import Statechart.Location

/-!
Declarations of machines, as a grammar front-end hands them over. States refer
to each other by name: a state without a name can be declared, but nothing can
point at it. A state with states of its own is a composite.
-/

namespace Statechart

open Json

structure TransitionDeclaration where
  source : String := ""
  target : String := ""
  input : Option String := none
  output : Option String := none
  location : Option Location := none
  deriving DecidableEq, Repr

structure StateDeclaration where
  name : Option String := none
  isFinal : Bool := false
  initial : Option String := none
  states : List StateDeclaration := []
  transitions : List TransitionDeclaration := []
  location : Option Location := none

structure MachineDeclaration where
  name : String := ""
  initial : Option String := none
  states : List StateDeclaration := []
  transitions : List TransitionDeclaration := []
  location : Option Location := none

namespace TransitionDeclaration

def codec : Codec TransitionDeclaration :=
  .ofFields {} [
    .required "source" .text (·.source) ({ · with source := · }),
    .required "target" .text (·.target) ({ · with target := · }),
    .nullable "input" .text (·.input) ({ · with input := · }),
    .nullable "output" .text (·.output) ({ · with output := · }),
    .nullable "location" Location.codec (·.location) ({ · with location := · })
  ]

end TransitionDeclaration

namespace StateDeclaration

def isComposite (declaration : StateDeclaration) : Bool :=
  !declaration.states.isEmpty

def fields (inner : Codec StateDeclaration) : List (StructField StateDeclaration) := [
  .nullable "name" .text (·.name) ({ · with name := · }),
  .defaulted "isFinal" .flag false (·.isFinal) ({ · with isFinal := · }),
  .nullable "initial" .text (·.initial) ({ · with initial := · }),
  .defaulted "states" inner.list [] (·.states) ({ · with states := · }),
  .defaulted "transitions" TransitionDeclaration.codec.list [] (·.transitions)
    ({ · with transitions := · }),
  .nullable "location" Location.codec (·.location) ({ · with location := · })
]

mutual
def encode : StateDeclaration → Json
  | ⟨name, isFinal, initial, states, transitions, location⟩ =>
      .object [
        ("name", .ofOption .text name),
        ("isFinal", .flag isFinal),
        ("initial", .ofOption .text initial),
        ("states", .list (encodeAll states)),
        ("transitions", TransitionDeclaration.codec.list.encode transitions),
        ("location", .ofOption Location.codec.encode location)
      ]

def encodeAll : List StateDeclaration → List Json
  | [] => []
  | state :: states => state.encode :: encodeAll states
end

/-! Declarations nest, and so does their decoder: `decodeWithin levels` reads
declarations of fewer than `levels` levels. Each level opens a bracket, so one
level more than there is room for brackets is never used up. -/

def decodeWithin : Nat → Nat → Reading → Except Fault StateDeclaration
  | 0, _, reading => .error reading.refusal
  | levels + 1, room, reading =>
      (Codec.ofFields {} (fields ⟨encode, decodeWithin levels⟩)).decode room reading

def codec : Codec StateDeclaration where
  encode := encode
  decode room reading := decodeWithin (room + 1) room reading

end StateDeclaration

namespace MachineDeclaration

def codec : Codec MachineDeclaration :=
  .ofFields {} [
    .required "name" .text (·.name) ({ · with name := · }),
    .nullable "initial" .text (·.initial) ({ · with initial := · }),
    .defaulted "states" StateDeclaration.codec.list [] (·.states) ({ · with states := · }),
    .defaulted "transitions" TransitionDeclaration.codec.list [] (·.transitions)
      ({ · with transitions := · }),
    .nullable "location" Location.codec (·.location) ({ · with location := · })
  ]

end MachineDeclaration

end Statechart
