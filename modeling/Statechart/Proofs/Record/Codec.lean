import Statechart.Proofs.Location
import Statechart.Proofs.Record.Traversal

/-!
Written records are read back. Neither an attribute nor what stands under a role
says which kind of value it is, so the reading tries one kind after the other: here
it never stops at a wrong one. Records nest, and their decoder is good for a bounded
number of levels; every level takes a bracket at least, so the room for brackets is
bound enough.
-/

namespace Statechart

open Json StructField

/-! ## Attributes -/

namespace Attribute

mutual
theorem ofReading?_encode (value : Attribute) :
    ofReading? (Reading.ofJson value.encode) = some value := by
  cases value with
  | null | flag | integer | text => rfl
  | list items => exact congrArg (list <$> ·) (ofItems?_encodeAll items)

theorem ofItems?_encodeAll (items : List Attribute) :
    ofItems? (Items.ofJson (encodeAll items)) = some items := by
  cases items with
  | nil => rfl
  | cons item items =>
      rw [encodeAll, Items.ofJson, ofItems?, ofReading?_encode item, ofItems?_encodeAll items]
      rfl
end

theorem readsBack (value : Attribute) (limit : Nat) : codec.ReadsBack limit value := by
  intro room _
  apply whole_then
  intro _
  rw [codec, ofReading?_encode]
  rfl

end Attribute

/-! ## Children -/

namespace Child

variable {inner : Codec Record} {limit : Nat}

/-- A list of written records is not taken for a single record. -/
def RefusesLists (inner : Codec Record) : Prop :=
  ∀ room records, ∃ fault,
    inner.decode room (Reading.ofJson (inner.list.encode records)) = .error fault

theorem readsBack_codec {child : Child Record} (refusesLists : RefusesLists inner)
    (readsBack : ∀ record ∈ child.toList, inner.ReadsBack limit record) :
    (codec inner).ReadsBack limit child := by
  intro room below
  apply whole_then
  intro fits
  cases child with
  | one record =>
      have decoded : inner.decode room (Reading.ofJson (inner.encode record)) = .ok record :=
        (readsBack record (List.mem_singleton_self record) room below).trans (if_pos fits)
      simp only [codec, decoded]
      rfl
  | many records =>
      have decoded : inner.list.decode room (Reading.ofJson (inner.list.encode records)) =
          .ok records :=
        (Codec.readsBack_list readsBack room (Nat.lt_succ_of_lt below)).trans (if_pos fits)
      rcases refusesLists room records with ⟨fault, refused⟩
      simp only [codec, refused, decoded]
      rfl

end Child

/-! ## Records -/

namespace Record

/-- Everywhere in the tree of the record the children stand in the order of their
roles. -/
def Ordered (record : Record) : Prop :=
  ∀ inner ∈ record.preorder, Entries.Ordered inner.children

instance (record : Record) : Decidable record.Ordered :=
  inferInstanceAs (Decidable (∀ inner ∈ record.preorder,
    inner.children.Pairwise fun left right => left.1 < right.1))

theorem Ordered.children {record : Record} (ordered : record.Ordered) :
    Entries.Ordered record.children := by
  apply ordered record
  rw [preorder_eq_cons]
  exact List.mem_cons_self

theorem Ordered.part {record part : Record} (ordered : record.Ordered)
    (member : part ∈ record.parts) : part.Ordered := by
  intro inner below
  apply ordered inner
  rw [preorder_eq_cons]
  exact List.mem_cons_of_mem _ (List.mem_flatMap.mpr ⟨part, member, below⟩)

theorem ordered_of_parts {record : Record} (children : Entries.Ordered record.children)
    (parts : ∀ part ∈ record.parts, part.Ordered) : record.Ordered := by
  intro inner below
  rw [preorder_eq_cons] at below
  rcases List.mem_cons.mp below with rfl | below
  · exact children
  · rcases List.mem_flatMap.mp below with ⟨part, isPart, inPart⟩
    exact parts part isPart inner inPart

variable {decode : Nat → Reading → Except Fault Record}

theorem encodeAll_eq_map (records : List Record) : encodeAll records = records.map encode := by
  induction records with
  | nil => rfl
  | cons record records induction => rw [encodeAll, induction, List.map_cons]

theorem encodeRoles_eq_map (roles : List (String × Child Record)) :
    encodeRoles roles =
      roles.map fun entry => (entry.1, (Child.codec ⟨encode, decode⟩).encode entry.2) := by
  induction roles with
  | nil => rfl
  | cons entry roles induction =>
      rcases entry with ⟨role, record | records⟩
      · rw [encodeRoles, induction]
        rfl
      · rw [encodeRoles, induction, encodeAll_eq_map]
        rfl

/-- A record is written field by field. -/
theorem encode_eq_ofFields (record : Record) :
    record.encode = (Codec.ofFields {} (fields ⟨encode, decode⟩)).encode record := by
  rcases record with ⟨id, kind, attributes, children, refs, location⟩
  rw [encode, @encodeRoles_eq_map decode]
  cases location <;> rfl

/-- The first field of a record is a text, which no written record is. -/
theorem decodeWithin_list (levels room : Nat) (records : List Record) :
    ∃ fault, decodeWithin levels room (.list (Items.ofJson (records.map encode))) =
      .error fault := by
  cases levels with
  | zero => exact ⟨.mismatched, rfl⟩
  | succ levels =>
      cases room with
      | zero => exact ⟨.malformed, rfl⟩
      | succ room =>
          rcases records with _ | ⟨⟨id, kind, attributes, children, refs, location⟩, records⟩
          · exact ⟨.mismatched, rfl⟩
          · exact ⟨.mismatched, rfl⟩

theorem readsBack_ofFields {inner : Codec Record} {record : Record} {limit : Nat}
    (ordered : Entries.Ordered record.children)
    (readsBack : ∀ entry ∈ record.children, (Child.codec inner).ReadsBack limit entry.2) :
    (Codec.ofFields {} (fields inner)).ReadsBack (limit + 2) record := by
  have distinct : ((fields inner).map (·.key)).Nodup := by
    change ["id", "type", "attributes", "children", "refs", "location"].Nodup
    decide
  refine Codec.readsBack_ofFields
    (.cons (puts_required (Codec.readsBack_text record.id)) <|
      .cons (puts_required (Codec.readsBack_text record.kind)) <|
      .cons (puts_required (Codec.readsBack_dictionary fun entry _ => entry.2.readsBack limit)) <|
      .cons (puts_required (Codec.readsBack_entries ordered readsBack)) <|
      .cons (puts_required (Codec.readsBack_dictionary fun entry _ => Codec.readsBack_text entry.2)) <|
      .cons (puts_omittable Location.neverNull fun location _ => location.readsBack (limit + 1)) .nil)
    distinct (by simp [Json.commute_iff]) ?_
  cases record
  rfl

/-- Each level of records opens a bracket, so the levels suffice for that room. -/
theorem readsBack_decodeWithin (levels : Nat) {record : Record} (ordered : record.Ordered) :
    Codec.ReadsBack ⟨encode, decodeWithin levels⟩ levels record := by
  induction levels generalizing record with
  | zero => exact fun room below => absurd below (Nat.not_lt_zero room)
  | succ levels induction =>
      have children : ∀ entry ∈ record.children,
          (Child.codec ⟨encode, decodeWithin levels⟩).ReadsBack levels entry.2 := by
        intro entry isEntry
        apply Child.readsBack_codec fun room records => decodeWithin_list levels room records
        intro part member
        exact induction (ordered.part (List.mem_flatMap.mpr ⟨entry, isEntry, member⟩))
      have whole := readsBack_ofFields ordered.children children
      intro room below
      have decoded := whole room (Nat.lt_succ_of_lt below)
      rw [← encode_eq_ofFields] at decoded
      exact decoded

theorem readsBack {record : Record} (ordered : record.Ordered) (limit : Nat) :
    codec.ReadsBack limit record :=
  fun room _ => readsBack_decodeWithin (room + 1) ordered room (Nat.lt_succ_self room)

theorem refusesLists_codec : Child.RefusesLists codec :=
  fun room records => decodeWithin_list (room + 1) room records

end Record

end Statechart
