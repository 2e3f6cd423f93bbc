import Statechart.Configuration
import Statechart.Proofs.Declaration.Codec
import Statechart.Proofs.Record.Codec
import Statechart.Protocol.Message

/-!
Everything that is sent is read back. What is left are structures of which every field
is read back already; then the formats of all texts between a front-end and a session
are taken together.
-/

namespace Statechart

open Json StructField

/-! ## Configurations -/

theorem OutputAttribute.readsBack (value : OutputAttribute) (limit : Nat) :
    codec.ReadsBack limit value :=
  Codec.readsBack_choice (by cases value <;> rfl)

theorem Configuration.readsBack (value : Configuration) (limit : Nat) :
    codec.ReadsBack (limit + 1) value :=
  Codec.readsBack_ofFields
    (.cons (puts_defaulted (Codec.readsBack_word64 value.maxDepth)) <|
      .cons (puts_defaulted (value.outputAttribute.readsBack limit)) <|
      .cons (puts_defaulted (Codec.readsBack_flag value.validateReferences)) .nil)
    (by decide) (by simp [Json.commute_iff]) rfl

/-! ## Breakpoints -/

theorem PrimitiveType.readsBack (value : PrimitiveType) (limit : Nat) :
    codec.ReadsBack limit value :=
  Codec.readsBack_choice (by cases value <;> rfl)

theorem BreakpointParameter.readsBack (value : BreakpointParameter) (limit : Nat) :
    codec.ReadsBack (limit + 1) value :=
  Codec.readsBack_ofFields
    (.cons (puts_required (Codec.readsBack_text value.name)) <|
      .cons (puts_omittable Codec.neverNull_choice fun primitive _ => primitive.readsBack limit) <|
      .cons (puts_omittable Codec.neverNull_text fun object _ => Codec.readsBack_text object) <|
      .cons (puts_defaulted (Codec.readsBack_flag value.isMultivalued)) .nil)
    (by decide) (by simp [Json.commute_iff]) rfl

theorem BreakpointType.readsBack (value : BreakpointType) (limit : Nat) :
    codec.ReadsBack (limit + 3) value :=
  Codec.readsBack_ofFields
    (.cons (puts_required (Codec.readsBack_text value.id)) <|
      .cons (puts_required (Codec.readsBack_text value.name)) <|
      .cons (puts_defaulted (Codec.readsBack_text value.description)) <|
      .cons (puts_required (Codec.readsBack_list fun parameter _ => parameter.readsBack limit)) .nil)
    (by decide) (by simp [Json.commute_iff]) rfl

/-! ## Requests and responses -/

theorem ParseArguments.readsBack (value : ParseArguments) (limit : Nat) :
    codec.ReadsBack (limit + 1) value :=
  Codec.readsBack_ofField (puts_required (Codec.readsBack_text value.sourceFile)) rfl

theorem ParseResponse.readsBack {value : ParseResponse} (ordered : value.astRoot.Ordered)
    (limit : Nat) : codec.ReadsBack (limit + 1) value :=
  Codec.readsBack_ofField (puts_required (Record.readsBack ordered limit)) rfl

theorem InitArguments.readsBack (value : InitArguments) (limit : Nat) :
    codec.ReadsBack (limit + 2) value :=
  Codec.readsBack_ofFields
    (.cons (puts_required (Codec.readsBack_text value.sourceFile)) <|
      .cons (puts_defaulted (Codec.readsBack_list fun input _ => Codec.readsBack_text input)) .nil)
    (by decide) (by simp [Json.commute_iff]) rfl

theorem InitResponse.readsBack (value : InitResponse) (limit : Nat) :
    codec.ReadsBack (limit + 1) value :=
  Codec.readsBack_ofField (puts_required (Codec.readsBack_flag value.isExecutionDone)) rfl

theorem StepArguments.readsBack (value : StepArguments) (limit : Nat) :
    codec.ReadsBack (limit + 1) value :=
  Codec.readsBack_ofField (puts_required (Codec.readsBack_text value.sourceFile)) rfl

theorem StepResponse.readsBack (value : StepResponse) (limit : Nat) :
    codec.ReadsBack (limit + 1) value :=
  Codec.readsBack_ofField (puts_required (Codec.readsBack_flag value.isExecutionDone)) rfl

theorem GetRuntimeStateArguments.readsBack (value : GetRuntimeStateArguments) (limit : Nat) :
    codec.ReadsBack (limit + 1) value :=
  Codec.readsBack_ofField (puts_required (Codec.readsBack_text value.sourceFile)) rfl

theorem GetRuntimeStateResponse.readsBack {value : GetRuntimeStateResponse}
    (ordered : value.runtimeStateRoot.Ordered) (limit : Nat) :
    codec.ReadsBack (limit + 1) value :=
  Codec.readsBack_ofField (puts_required (Record.readsBack ordered limit)) rfl

theorem GetBreakpointTypesArguments.readsBack (value : GetBreakpointTypesArguments) (limit : Nat) :
    codec.ReadsBack (limit + 1) value :=
  Codec.readsBack_ofField
    (puts_omittable Codec.neverNull_text fun file _ => Codec.readsBack_text file) rfl

theorem GetBreakpointTypesResponse.readsBack (value : GetBreakpointTypesResponse) (limit : Nat) :
    codec.ReadsBack (limit + 5) value :=
  Codec.readsBack_ofField
    (puts_required (Codec.readsBack_list fun type _ => type.readsBack limit)) rfl

theorem CheckBreakpointArguments.readsBack (value : CheckBreakpointArguments) (limit : Nat) :
    codec.ReadsBack (limit + 1) value :=
  Codec.readsBack_ofFields
    (.cons (puts_required (Codec.readsBack_text value.sourceFile)) <|
      .cons (puts_required (Codec.readsBack_text value.typeId)) <|
      .cons (puts_required (Codec.readsBack_text value.elementId)) .nil)
    (by decide) (by simp [Json.commute_iff]) rfl

theorem CheckBreakpointResponse.readsBack (value : CheckBreakpointResponse) (limit : Nat) :
    codec.ReadsBack (limit + 1) value :=
  Codec.readsBack_ofFields
    (.cons (puts_required (Codec.readsBack_flag value.isActivated)) <|
      .cons (puts_omittable Codec.neverNull_text fun message _ => Codec.readsBack_text message) .nil)
    (by decide) (by simp [Json.commute_iff]) rfl

theorem Step.readsBack (value : Step) (limit : Nat) : codec.ReadsBack (limit + 2) value :=
  Codec.readsBack_ofFields
    (.cons (puts_required (Codec.readsBack_text value.kind)) <|
      .cons (puts_required
        (Codec.readsBack_dictionary fun entry _ => Codec.readsBack_text entry.2)) .nil)
    (by decide) (by simp [Json.commute_iff]) rfl

/-! ## All formats -/

/-- The formats of the texts that are sent, and of the parts of records and
declarations. -/
inductive Format where
  | location
  | attributeValue
  | child
  | record
  | transition
  | state
  | machine
  | outputAttribute
  | configuration
  | primitiveType
  | breakpointParameter
  | breakpointType
  | parseArguments
  | parseResponse
  | initArguments
  | initResponse
  | stepArguments
  | stepResponse
  | getRuntimeStateArguments
  | getRuntimeStateResponse
  | getBreakpointTypesArguments
  | getBreakpointTypesResponse
  | checkBreakpointArguments
  | checkBreakpointResponse
  | step

namespace Format

@[reducible] def Value : Format → Type
  | .location => Location
  | .attributeValue => Attribute
  | .child => Child Record
  | .record => Record
  | .transition => TransitionDeclaration
  | .state => StateDeclaration
  | .machine => MachineDeclaration
  | .outputAttribute => OutputAttribute
  | .configuration => Configuration
  | .primitiveType => PrimitiveType
  | .breakpointParameter => BreakpointParameter
  | .breakpointType => BreakpointType
  | .parseArguments => ParseArguments
  | .parseResponse => ParseResponse
  | .initArguments => InitArguments
  | .initResponse => InitResponse
  | .stepArguments => StepArguments
  | .stepResponse => StepResponse
  | .getRuntimeStateArguments => GetRuntimeStateArguments
  | .getRuntimeStateResponse => GetRuntimeStateResponse
  | .getBreakpointTypesArguments => GetBreakpointTypesArguments
  | .getBreakpointTypesResponse => GetBreakpointTypesResponse
  | .checkBreakpointArguments => CheckBreakpointArguments
  | .checkBreakpointResponse => CheckBreakpointResponse
  | .step => Step

def codec : (format : Format) → Codec format.Value
  | .location => Location.codec
  | .attributeValue => Attribute.codec
  | .child => Child.codec Record.codec
  | .record => Record.codec
  | .transition => TransitionDeclaration.codec
  | .state => StateDeclaration.codec
  | .machine => MachineDeclaration.codec
  | .outputAttribute => OutputAttribute.codec
  | .configuration => Configuration.codec
  | .primitiveType => PrimitiveType.codec
  | .breakpointParameter => BreakpointParameter.codec
  | .breakpointType => BreakpointType.codec
  | .parseArguments => ParseArguments.codec
  | .parseResponse => ParseResponse.codec
  | .initArguments => InitArguments.codec
  | .initResponse => InitResponse.codec
  | .stepArguments => StepArguments.codec
  | .stepResponse => StepResponse.codec
  | .getRuntimeStateArguments => GetRuntimeStateArguments.codec
  | .getRuntimeStateResponse => GetRuntimeStateResponse.codec
  | .getBreakpointTypesArguments => GetBreakpointTypesArguments.codec
  | .getBreakpointTypesResponse => GetBreakpointTypesResponse.codec
  | .checkBreakpointArguments => CheckBreakpointArguments.codec
  | .checkBreakpointResponse => CheckBreakpointResponse.codec
  | .step => Step.codec

/-! The children of a record are kept in the order of their roles, which the type of
records does not say. -/

def Ordered : (format : Format) → format.Value → Prop
  | .child, held => ∀ record ∈ held.toList, record.Ordered
  | .record, held => held.Ordered
  | .parseResponse, response => response.astRoot.Ordered
  | .getRuntimeStateResponse, response => response.runtimeStateRoot.Ordered
  | _, _ => True

theorem readsBack (format : Format) (value : format.Value) (ordered : format.Ordered value)
    (limit : Nat) : format.codec.ReadsBack (limit + 5) value := by
  cases format with
  | location => exact Location.readsBack value _
  | attributeValue => exact Attribute.readsBack value _
  | child =>
      exact Child.readsBack_codec Record.refusesLists_codec
        fun record member => Record.readsBack (ordered record member) _
  | record => exact Record.readsBack ordered _
  | transition => exact TransitionDeclaration.readsBack value _
  | state => exact StateDeclaration.readsBack value _
  | machine => exact MachineDeclaration.readsBack value _
  | outputAttribute => exact OutputAttribute.readsBack value _
  | configuration => exact Configuration.readsBack value _
  | primitiveType => exact PrimitiveType.readsBack value _
  | breakpointParameter => exact BreakpointParameter.readsBack value _
  | breakpointType => exact BreakpointType.readsBack value _
  | parseArguments => exact ParseArguments.readsBack value _
  | parseResponse => exact ParseResponse.readsBack ordered _
  | initArguments => exact InitArguments.readsBack value _
  | initResponse => exact InitResponse.readsBack value _
  | stepArguments => exact StepArguments.readsBack value _
  | stepResponse => exact StepResponse.readsBack value _
  | getRuntimeStateArguments => exact GetRuntimeStateArguments.readsBack value _
  | getRuntimeStateResponse => exact GetRuntimeStateResponse.readsBack ordered _
  | getBreakpointTypesArguments => exact GetBreakpointTypesArguments.readsBack value _
  | getBreakpointTypesResponse => exact GetBreakpointTypesResponse.readsBack value _
  | checkBreakpointArguments => exact CheckBreakpointArguments.readsBack value _
  | checkBreakpointResponse => exact CheckBreakpointResponse.readsBack value _
  | step => exact Step.readsBack value _

/-- A value of any format is read back from its text, unless the text has too many
brackets open at once; then it is refused as no JSON. -/
theorem parse_render (format : Format) (value : format.Value) (ordered : format.Ordered value) :
    format.codec.parse (format.codec.render value) =
      if openAtOnce (format.codec.render value) ≤ nestingLimit then .ok value
      else .error .malformed :=
  (format.readsBack value ordered 123).parse

/-- A record with a list of records and a single record below it. -/
def panel : Record where
  id := "panel"
  kind := "stateMachine"
  attributes := .ofList [("name", .text "panel \"A\"\n"), ("inputs", .list [.integer 7, .null])]
  children := [
    ("lamps", .many [{ id := "left" }, { id := "right", refs := .ofList [("next", "left")] }]),
    ("switch", .one { id := "switch", location := some { line := 2, column := 1 } })
  ]

theorem parse_render_panel :
    panel.Ordered ∧ Record.codec.parse (Record.codec.render panel) = .ok panel := by
  have ordered : panel.Ordered := by decide
  have fits : openAtOnce (Record.codec.render panel) ≤ nestingLimit := by
    rw [Codec.render, openAtOnce_compact]
    decide
  exact ⟨ordered, (parse_render .record panel ordered).trans (if_pos fits)⟩

end Format

end Statechart
