import Statechart.Json.Codec

/-!
Codecs of structures. A structure is written as an object with one member for
each field, in the order of the fields, and is read from such an object with
its members in any order or from a list of its fields in their order.
-/

namespace Statechart.Json

/-! A field of `σ` writes its member from a whole structure, or leaves it out,
and reads its member into a whole structure. `absent` is what a missing member
stands for, or none where it may not be missing. -/

structure StructField (σ : Type) where
  key : String
  write : σ → Option Json
  read : Nat → Reading → σ → Except Fault σ
  absent : σ → Option σ

namespace StructField

def required (key : String) (codec : Codec β) (get : σ → β) (set : σ → β → σ) : StructField σ where
  key := key
  write whole := some (codec.encode (get whole))
  read room reading whole := set whole <$> codec.decode room reading
  absent _ := none

/-- A field that has a value of its own when its member is missing. -/
def defaulted (key : String) (codec : Codec β) (default : β) (get : σ → β) (set : σ → β → σ) :
    StructField σ where
  key := key
  write whole := some (codec.encode (get whole))
  read room reading whole := set whole <$> codec.decode room reading
  absent whole := some (set whole default)

/-- An optional field, written as null when it is empty. -/
def nullable (key : String) (codec : Codec β) (get : σ → Option β) (set : σ → Option β → σ) :
    StructField σ :=
  defaulted key codec.optional none get set

/-- An optional field, left out when it is empty. -/
def omittable (key : String) (codec : Codec β) (get : σ → Option β) (set : σ → Option β → σ) :
    StructField σ where
  key := key
  write whole := codec.encode <$> get whole
  read room reading whole := set whole <$> codec.optional.decode room reading
  absent whole := some (set whole none)

end StructField

/-! Members with an unknown key are passed over. A known key may not come
twice, which is noticed before its second value is read. -/

def Members.readFields (fields : List (StructField σ)) (room : Nat) :
    Members → List String → σ → Except Fault (List String × σ)
  | .done, seen, whole => .ok (seen, whole)
  | .stopped fault, _, _ => .error fault
  | .keyless breach, _, _ => .error breach.wanted
  | .next none _ _, _, _ => .error .malformed
  | .next (some key) value rest, seen, whole =>
      match fields.find? (·.key == key) with
      | none => do
          value.skip
          rest.readFields fields room seen whole
      | some field =>
          if seen.contains key then .error .mismatched
          else do
            let whole ← field.read room value whole
            rest.readFields fields room (key :: seen) whole

def fillAbsent : List (StructField σ) → List String → σ → Except Fault σ
  | [], _, whole => .ok whole
  | field :: fields, seen, whole =>
      if seen.contains field.key then fillAbsent fields seen whole
      else
        match field.absent whole with
        | none => .error .mismatched
        | some whole => fillAbsent fields seen whole

def Items.readFields (room : Nat) : List (StructField σ) → Items → σ → Except Fault σ
  | fields, .done, whole => fillAbsent fields [] whole
  | [], .next _ _, _ => .error .malformed
  | _, .stopped fault, _ => .error fault
  | field :: fields, .next item rest, whole => do
      let whole ← field.read room item whole
      rest.readFields room fields whole

/-! Reading starts from any structure at hand, of which nothing is left once
every field has been read or filled. -/

def Codec.ofFields (start : σ) (fields : List (StructField σ)) : Codec σ where
  encode whole :=
    .object (fields.filterMap fun field => (field.write whole).map fun value => (field.key, value))
  decode
    | 0, .object _ => .error .malformed
    | 0, .list _ => .error .malformed
    | room + 1, .object members => do
        let (seen, whole) ← members.readFields fields room [] start
        fillAbsent fields seen whole
    | room + 1, .list items => items.readFields room fields start
    | _, reading => .error reading.refusal

end Statechart.Json
