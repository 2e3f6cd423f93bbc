import Statechart.Dictionary
import Statechart.Json.Reader

/-!
Codecs: one value of `Codec α` says how an `α` is written as JSON and how it is
read back. The decoder is handed the number of brackets that may still be
opened and walks the outline of the text in text order, so that the first
problem of the text is the one reported.
-/

namespace Statechart.Json

structure Codec (α : Type) where
  encode : α → Json
  decode : Nat → Reading → Except Fault α

/-- The number of lists and objects that a text may have open at once. -/
def nestingLimit : Nat := 127

namespace Codec

/-! Whole texts. Behind the value only blanks may follow, and they are looked at
last. -/

def render (codec : Codec α) (value : α) : String :=
  (codec.encode value).compact

def parse (codec : Codec α) (text : String) : Except Fault α :=
  let (reading, rest) := read text.toList
  match codec.decode nestingLimit reading with
  | .error fault => .error fault
  | .ok value => if (skipBlanks rest).isEmpty then .ok value else .error .malformed

/-! Scalars. -/

def text : Codec String where
  encode := .text
  decode
    | _, .text (some value) => .ok value
    | _, reading => .error reading.refusal

def flag : Codec Bool where
  encode := .flag
  decode
    | _, .flag value => .ok value
    | _, reading => .error reading.refusal

def word64 : Codec UInt64 where
  encode := .number
  decode
    | _, .number (.word value) => .ok value
    | _, reading => .error reading.refusal

def word32 : Codec UInt32 where
  encode value := .number value.toUInt64
  decode
    | _, .number (.word value) =>
        if value.toNat < UInt32.size then .ok value.toUInt32 else .error .mismatched
    | _, reading => .error reading.refusal

/-- An absent value is null. -/
def optional (codec : Codec α) : Codec (Option α) where
  encode := Json.ofOption codec.encode
  decode
    | _, .null => .ok none
    | room, .broken breach => some <$> codec.decode room (.broken breach.orNull)
    | room, reading => some <$> codec.decode room reading

end Codec

/-! Lists. -/

def Items.decode (element : Reading → Except Fault α) : Items → Except Fault (List α)
  | .done => .ok []
  | .next item rest => do
      let value ← element item
      let values ← rest.decode element
      return value :: values
  | .stopped fault => .error fault

def Codec.list (codec : Codec α) : Codec (List α) where
  encode values := .list (values.map codec.encode)
  decode
    | 0, .list _ => .error .malformed
    | room + 1, .list items => items.decode (codec.decode room)
    | _, reading => .error reading.refusal

/-! Dictionaries. Of several members with one key the last one stays. -/

def Members.decode (element : Reading → Except Fault α) :
    Members → Dictionary α → Except Fault (Dictionary α)
  | .done, found => .ok found
  | .next none _ _, _ => .error .malformed
  | .next (some key) value rest, found => do
      let value ← element value
      rest.decode element (found.insert key value)
  | .stopped fault, _ => .error fault
  | .keyless breach, _ => .error breach.wanted

def Codec.dictionary (codec : Codec α) : Codec (Dictionary α) where
  encode values := .object (values.entries.map fun entry => (entry.1, codec.encode entry.2))
  decode
    | 0, .object _ => .error .malformed
    | room + 1, .object members => members.decode (codec.decode room) .empty
    | _, reading => .error reading.refusal

/-- Ordered entries that are not wrapped up as a dictionary. -/
def Codec.entries (codec : Codec α) : Codec (List (String × α)) where
  encode values := .object (values.map fun entry => (entry.1, codec.encode entry.2))
  decode room reading := (·.entries) <$> (Codec.dictionary codec).decode room reading

/-! Choices among names. A name may also stand as the only key of an object
whose value is null; anything else behind the key or behind the value is
refused where it stands. The name is due there as a key is due in any object:
what is no quoted text is no JSON at this place, and it is not looked at any
further to see of which shape it would be. -/

def chosen (choices : List (String × α)) (name : String) : Except Fault α :=
  match Entries.lookup? name choices with
  | some value => .ok value
  | none => .error .mismatched

def Members.decodeChoice (choices : List (String × α)) : Members → Except Fault α
  | .done => .error .malformed
  | .stopped fault => .error fault
  | .keyless breach => .error breach.wanted
  | .next none _ _ => .error .malformed
  | .next (some name) value rest => do
      let choice ← chosen choices name
      match value, rest with
      | .null, .done => return choice
      | .null, .stopped fault => .error fault
      | .null, _ => .error .malformed
      | value, _ => .error value.refusal

def Codec.choice (choices : List (String × α)) (name : α → String) : Codec α where
  encode value := .text (name value)
  decode
    | _, .text none => .error .malformed
    | _, .text (some name) => chosen choices name
    | 0, .object _ => .error .malformed
    | _ + 1, .object members => members.decodeChoice choices
    | _, .broken breach => .error breach.naming
    | _, _ => .error .malformed

end Statechart.Json
