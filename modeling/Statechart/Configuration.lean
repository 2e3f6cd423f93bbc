import Statechart.Json.Structure
import Statechart.Machine.Basic

/-!
The configuration of a session: the ceiling on nesting, the spelling of the
attribute that carries a transition's output, and whether references are
checked before a response leaves.
-/

namespace Statechart

open Json

/-! Front-ends in use read the misspelt key, which therefore is the default. -/

inductive OutputAttribute where
  | legacy
  | corrected
  deriving DecidableEq, Repr

namespace OutputAttribute

def key : OutputAttribute → String
  | .legacy => "ouptut"
  | .corrected => "output"

def name : OutputAttribute → String
  | .legacy => "legacy"
  | .corrected => "corrected"

def codec : Codec OutputAttribute :=
  .choice [("legacy", .legacy), ("corrected", .corrected)] name

end OutputAttribute

structure Configuration where
  maxDepth : UInt64 := UInt64.ofNat defaultMaxDepth
  outputAttribute : OutputAttribute := .legacy
  validateReferences : Bool := true
  deriving DecidableEq, Repr

inductive ConfigurationError where
  | invalidText (fault : Fault)
  | zeroMaxDepth
  deriving DecidableEq, Repr

namespace ConfigurationError

def message : ConfigurationError → String
  | .invalidText fault => "invalid config json: " ++ fault.message
  | .zeroMaxDepth => "max_depth must be at least 1"

def causes : ConfigurationError → List String
  | .invalidText fault => [fault.message]
  | .zeroMaxDepth => []

end ConfigurationError

namespace Configuration

def codec : Codec Configuration :=
  .ofFields {} [
    .defaulted "max_depth" .word64 (UInt64.ofNat defaultMaxDepth) (·.maxDepth)
      ({ · with maxDepth := · }),
    .defaulted "output_attribute" OutputAttribute.codec .legacy (·.outputAttribute)
      ({ · with outputAttribute := · }),
    .defaulted "validate_references" .flag true (·.validateReferences)
      ({ · with validateReferences := · })
  ]

/-- Reads a configuration, in which a ceiling of zero is refused. -/
def ofText (text : String) : Except ConfigurationError Configuration :=
  match codec.parse text with
  | .error fault => .error (.invalidText fault)
  | .ok configuration =>
      if configuration.maxDepth = 0 then .error .zeroMaxDepth else .ok configuration

end Configuration

end Statechart
