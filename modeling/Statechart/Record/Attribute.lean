import Statechart.Json.Codec

/-!
Attribute values of a record: scalars and lists of them.
-/

namespace Statechart

open Json

inductive Attribute where
  | null
  | flag (value : Bool)
  | integer (value : UInt64)
  | text (value : String)
  | list (items : List Attribute)

namespace Attribute

def isNull : Attribute → Bool
  | .null => true
  | _ => false

def asText? : Attribute → Option String
  | .text value => some value
  | _ => none

/-! An absent value is null, and a list of texts keeps their order. -/

def ofOption (convert : α → Attribute) : Option α → Attribute
  | none => .null
  | some value => convert value

def ofTexts (values : List String) : Attribute :=
  .list (values.map .text)

mutual
def encode : Attribute → Json
  | .null => .null
  | .flag value => .flag value
  | .integer value => .number value
  | .text value => .text value
  | .list items => .list (encodeAll items)

def encodeAll : List Attribute → List Json
  | [] => []
  | item :: items => item.encode :: encodeAll items
end

/-! No tag says which kind of value an attribute is, so the text is first read
whole as any JSON value and only then matched. -/

mutual
def ofReading? : Reading → Option Attribute
  | .null => some .null
  | .flag value => some (.flag value)
  | .number (.word value) => some (.integer value)
  | .text (some value) => some (.text value)
  | .list items => .list <$> ofItems? items
  | _ => none

def ofItems? : Items → Option (List Attribute)
  | .done => some []
  | .next item rest => do
      let item ← ofReading? item
      let items ← ofItems? rest
      return item :: items
  | .stopped _ => none
end

def codec : Codec Attribute where
  encode := encode
  decode room reading := do
    reading.whole room
    match ofReading? reading with
    | some value => return value
    | none => .error .mismatched

end Attribute

end Statechart
