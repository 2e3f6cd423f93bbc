import Statechart.Location
import Statechart.Record.Attribute

/-!
Records: the one shape in which every element of a machine and every snapshot
of an execution is sent. A record owns its children, which stand under roles,
and points at other records by their ids.
-/

namespace Statechart

open Json

/-! Under a role stands a single record or a list of records. -/

inductive Child (α : Type) where
  | one (record : α)
  | many (records : List α)

def Child.toList : Child α → List α
  | .one record => [record]
  | .many records => records

/-! The children are kept in the order of their roles, like the entries of a
dictionary. -/

structure Record where
  id : String := ""
  kind : String := ""
  attributes : Dictionary Attribute := .empty
  children : List (String × Child Record) := []
  refs : Dictionary String := .empty
  location : Option Location := none

namespace Record

def attribute? (record : Record) (key : String) : Option Attribute :=
  record.attributes.get? key

/-- The records under a role, none when the role is absent. -/
def childrenOf (record : Record) (role : String) : List Record :=
  match Entries.lookup? role record.children with
  | some child => child.toList
  | none => []

def refId? (record : Record) (role : String) : Option String :=
  record.refs.get? role

/-! Writing a record leaves an absent location out. -/

mutual
def encode : Record → Json
  | ⟨id, kind, attributes, children, refs, location⟩ =>
      .object ([
        ("id", .text id),
        ("type", .text kind),
        ("attributes", Attribute.codec.dictionary.encode attributes),
        ("children", .object (encodeRoles children)),
        ("refs", Codec.text.dictionary.encode refs)
      ] ++ (location.map fun location => ("location", Location.codec.encode location)).toList)

def encodeRoles : List (String × Child Record) → List (String × Json)
  | [] => []
  | (role, .one record) :: roles => (role, record.encode) :: encodeRoles roles
  | (role, .many records) :: roles => (role, .list (encodeAll records)) :: encodeRoles roles

def encodeAll : List Record → List Json
  | [] => []
  | record :: records => record.encode :: encodeAll records
end

end Record

/-! The children under a role carry no tag either: the text is read whole, then
matched with a single record, then with a list of records. -/

def Child.codec (record : Codec Record) : Codec (Child Record) where
  encode
    | .one child => record.encode child
    | .many children => record.list.encode children
  decode room reading := do
    reading.whole room
    match record.decode room reading with
    | .ok child => return .one child
    | .error _ =>
        match record.list.decode room reading with
        | .ok children => return .many children
        | .error _ => .error .mismatched

namespace Record

def fields (inner : Codec Record) : List (StructField Record) := [
  .required "id" .text (·.id) ({ · with id := · }),
  .required "type" .text (·.kind) ({ · with kind := · }),
  .required "attributes" Attribute.codec.dictionary (·.attributes) ({ · with attributes := · }),
  .required "children" (Child.codec inner).entries (·.children) ({ · with children := · }),
  .required "refs" Codec.text.dictionary (·.refs) ({ · with refs := · }),
  .omittable "location" Location.codec (·.location) ({ · with location := · })
]

/-- Reads records of fewer than `levels` levels. -/
def decodeWithin : Nat → Nat → Reading → Except Fault Record
  | 0, _, reading => .error reading.refusal
  | levels + 1, room, reading =>
      (Codec.ofFields {} (fields ⟨encode, decodeWithin levels⟩)).decode room reading

def codec : Codec Record where
  encode := encode
  decode room reading := decodeWithin (room + 1) room reading

end Record

end Statechart
