import Statechart.Proofs.Json.Untagged
import Statechart.Proofs.Json.Yield
import Statechart.Proofs.Record.Codec

/-!
Records read from any text. Whatever form the text has, the record that is made of it
has its children in the order of their roles and is written within the room in which
it was read. Attributes and children carry no tag, and no text is read as two kinds of
either.
-/

namespace Statechart

open Json StructField

/-! ## Locations -/

theorem Location.fits_of_yields {room : Nat} {location : Location}
    (yields : codec.Yields room location) : codec.Fits room location := by
  rcases Codec.room_of_yields_ofFields yields with ⟨less, rfl⟩
  exact Nat.succ_le_succ (Nat.zero_le less)

/-! ## Attributes -/

namespace Attribute

mutual
/-- Only the text of an attribute itself is read as the attribute. -/
theorem ofReading?_eq_some {reading : Reading} {value : Attribute}
    (matched : ofReading? reading = some value) : reading = Reading.ofJson value.encode := by
  cases reading with
  | null | flag =>
      cases matched
      rfl
  | number numeral =>
      cases numeral with
      | word =>
          cases matched
          rfl
      | other | excessive => cases matched
  | text held =>
      cases held with
      | some =>
          cases matched
          rfl
      | none => cases matched
  | list items =>
      rcases Option.map_eq_some_iff.mp matched with ⟨values, matchedItems, rfl⟩
      rw [ofItems?_eq_some matchedItems]
      rfl
  | object | broken => cases matched

theorem ofItems?_eq_some {items : Items} {values : List Attribute}
    (matched : ofItems? items = some values) : items = Items.ofJson (encodeAll values) := by
  cases items with
  | done =>
      cases matched
      rfl
  | next item rest =>
      rcases Option.bind_eq_some_iff.mp matched with ⟨value, matchedItem, matched⟩
      rcases Option.bind_eq_some_iff.mp matched with ⟨others, matchedRest, same⟩
      cases same
      rw [ofReading?_eq_some matchedItem, ofItems?_eq_some matchedRest]
      rfl
  | stopped => cases matched
end

theorem fits_of_yields {room : Nat} {value : Attribute} (yields : codec.Yields room value) :
    codec.Fits room value := by
  rcases yields with ⟨reading, decoded⟩
  rcases check_bind_eq_ok.mp decoded with ⟨whole, matching⟩
  split at matching
  case h_1 found matched =>
    cases pure_eq_ok.mp matching
    rw [ofReading?_eq_some matched, whole_ofJson] at whole
    rw [within] at whole
    split at whole
    case isTrue fits => exact fits
    case isFalse => cases whole
  case h_2 => cases matching

def readNull : Attempt Attribute
  | _, .null => .ok .null
  | _, reading => .error reading.refusal

/-- The ways to read an attribute, one for each kind. -/
def attempts : List (Attempt Attribute) := [
  readNull,
  fun room reading => .flag <$> Codec.flag.decode room reading,
  fun room reading => .integer <$> Codec.word64.decode room reading,
  fun room reading => .text <$> Codec.text.decode room reading,
  fun room reading => .list <$> codec.list.decode room reading
]

theorem exclusive_attempts : attempts.Pairwise Attempt.Excludes := by
  apply Attempt.exclusive_of_kinds
  case kinds => exact [Reading.null.ctorIdx, (Reading.flag true).ctorIdx,
    (Reading.number .other).ctorIdx, (Reading.text none).ctorIdx, (Reading.list .done).ctorIdx]
  case distinct => decide
  case wants =>
    refine .cons ?_ (.cons ?_ (.cons ?_ (.cons ?_ (.cons ?_ .nil)))) <;>
      intro room reading value read <;> cases reading <;> cases room <;>
      first | rfl | cases read

/-- What is made of an attribute after it was read whole. -/
def ofWhole (reading : Reading) : Except Fault Attribute :=
  (ofReading? reading).elim (.error .mismatched) .ok

theorem decode_eq (room : Nat) (reading : Reading) :
    codec.decode room reading = (reading.whole room >>= fun _ => ofWhole reading) := by
  simp only [codec, ofWhole]
  cases reading.whole room with
  | error fault => rfl
  | ok => cases ofReading? reading <;> rfl

theorem decode_items {room : Nat} {items : Items} (whole : items.whole room = .ok ()) :
    items.decode (codec.decode room) = (ofItems? items).elim (.error .mismatched) .ok := by
  cases items with
  | done => rfl
  | next item rest =>
      rcases check_bind_eq_ok.mp whole with ⟨wholeItem, wholeRest⟩
      rw [Items.decode, decode_items wholeRest, decode_eq, wholeItem, ok_bind, ofWhole, ofItems?]
      cases ofReading? item with
      | none => rfl
      | some value => cases ofItems? rest <;> rfl
  | stopped fault => cases whole

/-- To match the outline of a value is to try one kind after the other. -/
theorem ofWhole_eq_tryEach {room : Nat} {reading : Reading} (whole : reading.whole room = .ok ()) :
    ofWhole reading = Attempt.tryEach attempts room reading := by
  cases reading with
  | null | flag => rfl
  | number numeral =>
      cases numeral with
      | word => rfl
      | other => cases room <;> rfl
      | excessive => cases room <;> cases whole
  | text held =>
      cases held with
      | some => rfl
      | none => cases room <;> cases whole
  | list items =>
      cases room with
      | zero => cases whole
      | succ room =>
          have listed : codec.list.decode (room + 1) (.list items) =
              (ofItems? items).elim (.error .mismatched) .ok := decode_items whole
          simp only [attempts, Attempt.tryEach, listed, ofWhole, ofReading?]
          cases ofItems? items <;> rfl
  | object => cases room <;> rfl
  | broken => cases room <;> cases whole

theorem untagged_codec : codec.Untagged attempts := by
  apply Codec.untagged_of_exclusive exclusive_attempts
  intro room reading
  rw [decode_eq, Attempt.untagged]
  cases whole : reading.whole room with
  | error fault => rfl
  | ok => exact ofWhole_eq_tryEach whole

end Attribute

/-! ## Children -/

namespace Child

variable {inner : Codec Record} {room : Nat}

theorem cases_of_yields {child : Child Record} (yields : (codec inner).Yields room child) :
    (∃ record, child = .one record ∧ inner.Yields room record) ∨
      ∃ records, child = .many records ∧ inner.list.Yields room records := by
  rcases yields with ⟨reading, decoded⟩
  rcases check_bind_eq_ok.mp decoded with ⟨-, matched⟩
  split at matched
  case h_1 record read => exact .inl ⟨record, (pure_eq_ok.mp matched).symm, reading, read⟩
  case h_2 =>
    split at matched
    case h_1 records read => exact .inr ⟨records, (pure_eq_ok.mp matched).symm, reading, read⟩
    case h_2 => cases matched

/-- What holds of the records that are read holds of a child that is read. -/
theorem fits_of_yields {property : Record → Prop}
    (sound : ∀ room record, inner.Yields room record → property record ∧ inner.Fits room record)
    {child : Child Record} (yields : (codec inner).Yields room child) :
    (∀ record ∈ child.toList, property record) ∧ (codec inner).Fits room child := by
  rcases cases_of_yields yields with ⟨record, rfl, yieldsOne⟩ | ⟨records, rfl, yieldsMany⟩
  · rcases sound room record yieldsOne with ⟨holds, fits⟩
    exact ⟨List.forall_mem_singleton.mpr holds, fits⟩
  · rcases Codec.yields_list yieldsMany with ⟨less, rfl, each⟩
    exact ⟨fun record member => (sound less record (each record member)).1,
      Codec.fits_list fun record member => (sound less record (each record member)).2⟩

def readOne (inner : Codec Record) : Attempt (Child Record) :=
  fun room reading => .one <$> inner.decode room reading

def readMany (inner : Codec Record) : Attempt (Child Record) :=
  fun room reading => .many <$> inner.list.decode room reading

/-- The ways to read a child: a single record or a list of records. -/
def attempts (inner : Codec Record) : List (Attempt (Child Record)) :=
  [readOne inner, readMany inner]

theorem decode_eq_untagged (room : Nat) (reading : Reading) :
    (codec inner).decode room reading = Attempt.untagged (attempts inner) room reading := by
  simp only [codec, Attempt.untagged, attempts, readOne, readMany, Attempt.tryEach]
  cases reading.whole room with
  | error fault => rfl
  | ok =>
      simp only [ok_bind]
      cases inner.decode room reading with
      | ok => rfl
      | error => cases inner.list.decode room reading <;> rfl

end Child

/-! ## Records -/

namespace Record

/-- A quotation is not read as a record. -/
theorem decodeWithin_text (levels room : Nat) (value : Option String) (record : Record) :
    decodeWithin levels room (.text value) ≠ .ok record := by
  intro decoded
  cases levels <;> cases room <;> cases decoded

/-- A record that is read from a list begins with its id. -/
theorem items_of_decodeWithin {levels room : Nat} {items : Items} {record : Record}
    (decoded : decodeWithin levels (room + 1) (.list items) = .ok record) :
    ∃ id rest, items = .next (.text (some id)) rest := by
  cases levels with
  | zero => cases decoded
  | succ levels =>
      cases items with
      | done => cases decoded
      | stopped fault => cases decoded
      | next item rest =>
          rcases bind_eq_ok.mp decoded with ⟨between, read, -⟩
          rcases map_eq_ok.mp read with ⟨id, readId, -⟩
          cases item
          case text value =>
            cases value with
            | none => cases readId
            | some id => exact ⟨id, rest, rfl⟩
          all_goals cases readId

/-- A codec of records of a number of levels that may depend on the room. -/
def codecWithin (levels : Nat → Nat) : Codec Record where
  encode := encode
  decode room reading := decodeWithin (levels room) room reading

/-- What is read as a list of records is not read as a record: the first item of the one
is a record, that of the other a text. -/
theorem excludes_list (levels : Nat → Nat) :
    (Child.readOne (codecWithin levels)).Excludes (Child.readMany (codecWithin levels)) := by
  intro room reading one many readOne readMany
  rcases map_eq_ok.mp readOne with ⟨record, readRecord, -⟩
  rcases map_eq_ok.mp readMany with ⟨records, readRecords, -⟩
  cases reading
  case list items =>
    cases room with
    | zero => cases readRecords
    | succ room =>
        rcases items_of_decodeWithin readRecord with ⟨id, rest, rfl⟩
        rcases bind_eq_ok.mp readRecords with ⟨first, readFirst, -⟩
        exact decodeWithin_text _ _ _ _ readFirst
  all_goals cases room <;> cases readRecords

theorem untagged_child (levels : Nat → Nat) :
    (Child.codec (codecWithin levels)).Untagged (Child.attempts (codecWithin levels)) :=
  Codec.untagged_of_exclusive (List.pairwise_pair.mpr (excludes_list levels)) Child.decode_eq_untagged

/-- The part under a key has been read, where it matters how it was. -/
def facet (inner : Codec Record) (room : Nat) (key : String) (record : Record) : Prop :=
  (key = "attributes" → Attribute.codec.dictionary.Yields room record.attributes) ∧
  (key = "children" → (Child.codec inner).entries.Yields room record.children) ∧
  (key = "location" → ∀ location ∈ record.location, Location.codec.Yields room location)

theorem fields_settle (inner : Codec Record) (room : Nat) :
    ∀ field ∈ fields inner, field.Settles room (facet inner room) := by
  rw [fields, List.forall_mem_cons, List.forall_mem_cons, List.forall_mem_cons,
    List.forall_mem_cons, List.forall_mem_cons, List.forall_mem_singleton]
  refine ⟨?_, ?_, ?_, ?_, ?_, ?_⟩ <;> intro held after turns
  case refine_6 =>
    rcases turns_omittable turns with ⟨value, yields, rfl⟩
    simp +contextual [facet, omittable, yields]
  all_goals
    rcases turns_required turns with ⟨value, yields, rfl⟩
    simp +contextual [facet, required, yields]

theorem parts_of_yields {inner : Codec Record} {room : Nat} {record : Record}
    (yields : (Codec.ofFields {} (fields inner)).Yields (room + 1) record) :
    Attribute.codec.dictionary.Yields room record.attributes ∧
    (Child.codec inner).entries.Yields room record.children ∧
    ∀ location ∈ record.location, Location.codec.Yields room location := by
  have facets := Codec.facet_of_yields_ofFields (fields_settle inner room) yields
  simp only [fields, List.forall_mem_cons, required, omittable] at facets
  rcases facets with ⟨-, -, attributes, children, -, location, -⟩
  exact ⟨attributes.1 rfl, children.2.1 rfl, location.2.2 rfl⟩

theorem nesting_of_parts {inner : Codec Record} (writes : inner.encode = encode) {room : Nat}
    {record : Record} (attributesFit : Attribute.codec.dictionary.Fits room record.attributes)
    (childrenFit : (Child.codec inner).entries.Fits room record.children)
    (refsFit : Codec.text.dictionary.Fits room record.refs)
    (locationFits : ∀ location ∈ record.location, Location.codec.Fits room location) :
    record.encode.nesting ≤ room + 1 := by
  rcases inner with ⟨_, decode⟩
  cases writes
  rcases record with ⟨id, kind, attributes, children, refs, location⟩
  rw [encode, @encodeRoles_eq_map decode]
  apply Nat.succ_le_succ
  apply nestingOfMembers_le
  intro member isMember
  rcases List.mem_append.mp isMember with always | sometimes
  · simp only [List.mem_cons, List.not_mem_nil, or_false] at always
    rcases always with rfl | rfl | rfl | rfl | rfl
    · exact Nat.zero_le room
    · exact Nat.zero_le room
    · exact attributesFit
    · exact childrenFit
    · exact refsFit
  · rcases Option.map_eq_some_iff.mp (Option.mem_toList.mp sometimes) with ⟨held, present, rfl⟩
    exact locationFits held present

/-- Each level of records takes a bracket, whichever form it is read from. -/
theorem fits_of_decodeWithin (levels : Nat) {room : Nat} {record : Record}
    (yields : Codec.Yields ⟨encode, decodeWithin levels⟩ room record) :
    record.Ordered ∧ record.encode.nesting ≤ room := by
  induction levels generalizing room record with
  | zero =>
      rcases yields with ⟨reading, decoded⟩
      cases decoded
  | succ levels induction =>
      let inner : Codec Record := ⟨encode, decodeWithin levels⟩
      rcases yields with ⟨reading, decoded⟩
      have asFields : (Codec.ofFields {} (fields inner)).Yields room record := ⟨reading, decoded⟩
      rcases Codec.room_of_yields_ofFields asFields with ⟨less, rfl⟩
      rcases parts_of_yields asFields with ⟨attributes, children, location⟩
      rcases Codec.yields_dictionary attributes with ⟨fewer, rfl, eachAttribute⟩
      rcases Codec.yields_entries children with ⟨ordered, _, same, eachChild⟩
      cases same
      have sound : ∀ entry ∈ record.children, (∀ part ∈ entry.2.toList, part.Ordered) ∧
          (Child.codec inner).Fits fewer entry.2 :=
        fun entry member => Child.fits_of_yields (fun _ _ => induction) (eachChild entry member)
      constructor
      · apply ordered_of_parts ordered
        intro part member
        rcases List.mem_flatMap.mp member with ⟨entry, isEntry, inEntry⟩
        exact (sound entry isEntry).1 part inEntry
      · apply nesting_of_parts (show inner.encode = encode from rfl)
        case attributesFit =>
          exact Codec.fits_dictionary fun entry member =>
            Attribute.fits_of_yields (eachAttribute entry member)
        case childrenFit => exact Codec.fits_entries fun entry member => (sound entry member).2
        case refsFit => exact Codec.fits_dictionary fun _ _ => Nat.zero_le fewer
        case locationFits =>
          exact fun held present => Location.fits_of_yields (location held present)

theorem fits_of_yields {room : Nat} {record : Record} (yields : codec.Yields room record) :
    record.Ordered ∧ codec.Fits room record := by
  rcases yields with ⟨reading, decoded⟩
  exact fits_of_decodeWithin (room + 1) ⟨reading, decoded⟩

end Record

end Statechart
