import Statechart.Json.Structure
import Statechart.Proofs.Json.Codec

/-!
What texts are read as. A text need not be written by this library, so nothing is known
of its outline; but whatever a codec makes of it was made by the codecs of its parts,
with one bracket less for what stands inside a list or an object. That bounds the
nesting of the value by the room in which it was read.
-/

namespace Statechart.Json

/-! ## The nesting of what has parts -/

theorem nestingOfItems_le {items : List Json} {room : Nat}
    (each : ∀ item ∈ items, item.nesting ≤ room) : nestingOfItems items ≤ room := by
  induction items with
  | nil => exact Nat.zero_le room
  | cons item items induction =>
      rw [nestingOfItems]
      exact Nat.max_le.mpr ⟨each item List.mem_cons_self,
        induction fun later member => each later (List.mem_cons_of_mem _ member)⟩

theorem nestingOfMembers_le {members : List (String × Json)} {room : Nat}
    (each : ∀ member ∈ members, member.2.nesting ≤ room) : nestingOfMembers members ≤ room := by
  induction members with
  | nil => exact Nat.zero_le room
  | cons first members induction =>
      rcases first with ⟨key, value⟩
      rw [nestingOfMembers]
      exact Nat.max_le.mpr ⟨each (key, value) List.mem_cons_self,
        induction fun later member => each later (List.mem_cons_of_mem _ member)⟩

namespace Codec

/-- With room for so many brackets something is read as the value. -/
def Yields {α : Type} (codec : Codec α) (room : Nat) (value : α) : Prop :=
  ∃ reading, codec.decode room reading = .ok value

/-- The value is written within so many brackets. -/
def Fits {α : Type} (codec : Codec α) (room : Nat) (value : α) : Prop :=
  (codec.encode value).nesting ≤ room

variable {α : Type} {codec : Codec α} {room : Nat}

theorem fits_list {values : List α} (each : ∀ value ∈ values, codec.Fits room value) :
    codec.list.Fits (room + 1) values := by
  apply Nat.succ_le_succ
  apply nestingOfItems_le
  intro item member
  rcases List.mem_map.mp member with ⟨value, isValue, rfl⟩
  exact each value isValue

theorem fits_entries {values : List (String × α)}
    (each : ∀ entry ∈ values, codec.Fits room entry.2) : codec.entries.Fits (room + 1) values := by
  apply Nat.succ_le_succ
  apply nestingOfMembers_le
  intro item member
  rcases List.mem_map.mp member with ⟨entry, isEntry, rfl⟩
  exact each entry isEntry

theorem fits_dictionary {values : Dictionary α}
    (each : ∀ entry ∈ values.entries, codec.Fits room entry.2) :
    codec.dictionary.Fits (room + 1) values :=
  fits_entries each

/-! ## Whole texts -/

theorem yields_of_parse {text : String} {value : α} (parsed : codec.parse text = .ok value) :
    codec.Yields nestingLimit value := by
  cases decoded : codec.decode nestingLimit (read text.toList).1 with
  | error fault =>
      simp only [Codec.parse, decoded] at parsed
      cases parsed
  | ok found =>
      simp only [Codec.parse, decoded] at parsed
      split at parsed
      case isTrue =>
        cases parsed
        exact ⟨_, decoded⟩
      case isFalse => cases parsed

/-- What is written within the limit can be read again. -/
theorem ReadsBack.parse_of_fits {value : α} (readsBack : codec.ReadsBack (nestingLimit + 1) value)
    (fits : codec.Fits nestingLimit value) : codec.parse (codec.render value) = .ok value := by
  rw [readsBack.parse, if_pos]
  rwa [render, openAtOnce_compact]

/-! ## Optional values, lists and dictionaries -/

theorem yields_optional {value : α} (yields : codec.optional.Yields room (some value)) :
    codec.Yields room value := by
  rcases yields with ⟨reading, decoded⟩
  cases reading
  case null => cases decoded
  all_goals
    rcases map_eq_ok.mp decoded with ⟨_, inside, same⟩
    cases same
    exact ⟨_, inside⟩

theorem decode_items_yields {items : Items} {values : List α}
    (decoded : items.decode (codec.decode room) = .ok values) :
    ∀ value ∈ values, codec.Yields room value := by
  cases items with
  | done =>
      cases decoded
      exact List.forall_mem_nil _
  | next item rest =>
      rcases bind_eq_ok.mp decoded with ⟨first, decodedFirst, decoded⟩
      rcases bind_eq_ok.mp decoded with ⟨others, decodedOthers, same⟩
      cases pure_eq_ok.mp same
      intro value member
      rcases List.mem_cons.mp member with rfl | member
      · exact ⟨item, decodedFirst⟩
      · exact decode_items_yields decodedOthers value member
  | stopped fault => cases decoded

theorem yields_list {values : List α} (yields : codec.list.Yields room values) :
    ∃ less, room = less + 1 ∧ ∀ value ∈ values, codec.Yields less value := by
  rcases yields with ⟨reading, decoded⟩
  cases reading
  case list items =>
    cases room with
    | zero => cases decoded
    | succ less => exact ⟨less, rfl, decode_items_yields decoded⟩
  all_goals cases room <;> cases decoded

/-- Of the entries that stay each one was there before or has been read. -/
theorem decode_members_yields {members : Members} {found after : Dictionary α}
    (decoded : members.decode (codec.decode room) found = .ok after) :
    ∀ entry ∈ after.entries, entry ∈ found.entries ∨ codec.Yields room entry.2 := by
  cases members with
  | done =>
      cases decoded
      exact fun entry member => .inl member
  | next key value rest =>
      cases key with
      | none => cases decoded
      | some key =>
          rcases bind_eq_ok.mp decoded with ⟨first, decodedFirst, decoded⟩
          intro entry member
          rcases decode_members_yields decoded entry member with earlier | read
          · rcases Entries.mem_insert earlier with rfl | earlier
            · exact .inr ⟨value, decodedFirst⟩
            · exact .inl earlier
          · exact .inr read
  | stopped fault => cases decoded
  | keyless breach => cases decoded

theorem yields_dictionary {values : Dictionary α} (yields : codec.dictionary.Yields room values) :
    ∃ less, room = less + 1 ∧ ∀ entry ∈ values.entries, codec.Yields less entry.2 := by
  rcases yields with ⟨reading, decoded⟩
  cases reading
  case object members =>
    cases room with
    | zero => cases decoded
    | succ less =>
        refine ⟨less, rfl, fun entry member => ?_⟩
        rcases decode_members_yields decoded entry member with earlier | read
        · exact absurd earlier List.not_mem_nil
        · exact read
  all_goals cases room <;> cases decoded

theorem yields_entries {values : List (String × α)} (yields : codec.entries.Yields room values) :
    Entries.Ordered values ∧
      ∃ less, room = less + 1 ∧ ∀ entry ∈ values, codec.Yields less entry.2 := by
  rcases yields with ⟨reading, decoded⟩
  rcases map_eq_ok.mp decoded with ⟨dictionary, held, rfl⟩
  exact ⟨dictionary.ordered, yields_dictionary ⟨reading, held⟩⟩

end Codec

/-! ## Structures -/

variable {σ α : Type}

namespace StructField

/-- One structure becomes another by reading the field or by filling it in. -/
inductive Turns (field : StructField σ) (room : Nat) (held after : σ) : Prop where
  | read (reading : Reading) (read : field.read room reading held = .ok after)
  | fill (filled : field.absent held = some after)

/-- The field brings about its own facet of a structure and leaves the others as they
are. -/
def Settles (field : StructField σ) (room : Nat) (facet : String → σ → Prop) : Prop :=
  ∀ held after, field.Turns room held after →
    facet field.key after ∧ ∀ key ≠ field.key, facet key held → facet key after

variable {key : String} {codec : Codec α} {room : Nat} {held after : σ}

theorem turns_required {get : σ → α} {set : σ → α → σ}
    (turns : (required key codec get set).Turns room held after) :
    ∃ value, codec.Yields room value ∧ after = set held value := by
  cases turns with
  | read reading read =>
      rcases map_eq_ok.mp read with ⟨value, decoded, rfl⟩
      exact ⟨value, ⟨reading, decoded⟩, rfl⟩
  | fill filled => cases filled

theorem turns_omittable {get : σ → Option α} {set : σ → Option α → σ}
    (turns : (omittable key codec get set).Turns room held after) :
    ∃ value, (∀ present ∈ value, codec.Yields room present) ∧ after = set held value := by
  cases turns with
  | read reading read =>
      rcases map_eq_ok.mp read with ⟨value, decoded, rfl⟩
      refine ⟨value, ?_, rfl⟩
      rintro present rfl
      exact Codec.yields_optional ⟨reading, decoded⟩
  | fill filled =>
      cases filled
      refine ⟨none, ?_, rfl⟩
      intro present member
      cases member

variable {facet : String → σ → Prop}

theorem Settles.turn {field : StructField σ} (settles : field.Settles room facet)
    (turns : field.Turns room held after) {settled : List String}
    (before : ∀ key ∈ settled, facet key held) : ∀ key ∈ field.key :: settled, facet key after := by
  rcases settles held after turns with ⟨own, others⟩
  intro key member
  by_cases same : key = field.key
  · rw [same]
    exact own
  · exact others key same (before key (List.mem_of_ne_of_mem same member))

end StructField

section Facets

variable {room : Nat} {facet : String → σ → Prop} {fields : List (StructField σ)} {held after : σ}

/-- Reading the members of an object settles the fields that were seen. -/
theorem readFields_settles (settles : ∀ field ∈ fields, field.Settles room facet)
    {members : Members} {seen seenAfter : List String} {held : σ}
    (read : members.readFields fields room seen held = .ok (seenAfter, after))
    (before : ∀ key ∈ seen, facet key held) : ∀ key ∈ seenAfter, facet key after := by
  cases members with
  | done =>
      cases read
      exact before
  | next key value rest =>
      cases key with
      | none => cases read
      | some key =>
          rw [Members.readFields] at read
          split at read
          case h_1 =>
            rcases bind_eq_ok.mp read with ⟨_, -, read⟩
            exact readFields_settles settles read before
          case h_2 field found =>
            have sameKey : field.key = key := by simpa using List.find?_some found
            split at read
            case isTrue => cases read
            case isFalse =>
              rcases bind_eq_ok.mp read with ⟨between, readOne, read⟩
              have turned := (settles field (List.mem_of_find?_eq_some found)).turn
                (.read value readOne) before
              rw [sameKey] at turned
              exact readFields_settles settles read turned
  | stopped fault => cases read
  | keyless breach => cases read

/-- Filling in settles all fields, whichever of them were seen. -/
theorem fillAbsent_settles (settles : ∀ field ∈ fields, field.Settles room facet)
    {seen settled : List String} (filled : fillAbsent fields seen held = .ok after)
    (seenSettled : ∀ key ∈ seen, key ∈ settled) (before : ∀ key ∈ settled, facet key held) :
    ∀ key, key ∈ settled ∨ key ∈ fields.map (·.key) → facet key after := by
  induction fields generalizing held settled with
  | nil =>
      cases filled
      rintro key (member | member)
      · exact before key member
      · cases member
  | cons field fields induction =>
      have settlesRest : ∀ later ∈ fields, later.Settles room facet :=
        fun later member => settles later (List.mem_cons_of_mem _ member)
      rw [fillAbsent] at filled
      split at filled
      case isTrue wasSeen =>
        have isSettled := seenSettled field.key (List.contains_iff_mem.mp wasSeen)
        have rest := induction settlesRest filled seenSettled before
        rintro key (member | member)
        · exact rest key (.inl member)
        · rcases List.mem_cons.mp member with rfl | member
          · exact rest _ (.inl isSettled)
          · exact rest key (.inr member)
      case isFalse =>
        split at filled
        case h_1 => cases filled
        case h_2 between absent =>
          have turned := (settles field List.mem_cons_self).turn (.fill absent) before
          have rest := induction settlesRest filled
            (fun key member => List.mem_cons_of_mem _ (seenSettled key member)) turned
          rintro key (member | member)
          · exact rest key (.inl (List.mem_cons_of_mem _ member))
          · rcases List.mem_cons.mp member with rfl | member
            · exact rest _ (.inl List.mem_cons_self)
            · exact rest key (.inr member)

/-- Reading the items of a list settles all fields. -/
theorem readFields_items_settles (settles : ∀ field ∈ fields, field.Settles room facet)
    {items : Items} {settled : List String}
    (read : items.readFields room fields held = .ok after)
    (before : ∀ key ∈ settled, facet key held) :
    ∀ key, key ∈ settled ∨ key ∈ fields.map (·.key) → facet key after := by
  induction fields generalizing items held settled with
  | nil =>
      cases items with
      | done => exact fillAbsent_settles settles read (List.forall_mem_nil _) before
      | next item rest => cases read
      | stopped fault => cases read
  | cons field fields induction =>
      cases items with
      | done => exact fillAbsent_settles settles read (List.forall_mem_nil _) before
      | stopped fault => cases read
      | next item rest =>
          rcases bind_eq_ok.mp read with ⟨between, readOne, read⟩
          have turned := (settles field List.mem_cons_self).turn (.read item readOne) before
          have later := induction
            (fun later member => settles later (List.mem_cons_of_mem _ member)) read turned
          rintro key (member | member)
          · exact later key (.inl (List.mem_cons_of_mem _ member))
          · rcases List.mem_cons.mp member with rfl | member
            · exact later _ (.inl List.mem_cons_self)
            · exact later key (.inr member)

end Facets

namespace Codec

variable {room : Nat} {fields : List (StructField σ)} {start whole : σ}

theorem room_of_yields_ofFields (yields : (ofFields start fields).Yields room whole) :
    ∃ less, room = less + 1 := by
  rcases yields with ⟨reading, decoded⟩
  cases room with
  | zero => cases reading <;> cases decoded
  | succ less => exact ⟨less, rfl⟩

/-- A structure that was read has all facets that its fields bring about. -/
theorem facet_of_yields_ofFields {facet : String → σ → Prop}
    (settles : ∀ field ∈ fields, field.Settles room facet)
    (yields : (ofFields start fields).Yields (room + 1) whole) :
    ∀ field ∈ fields, facet field.key whole := by
  rcases yields with ⟨reading, decoded⟩
  have all : ∀ key, key ∈ ([] : List String) ∨ key ∈ fields.map (·.key) → facet key whole := by
    cases reading
    case object members =>
      rcases bind_eq_ok.mp decoded with ⟨⟨seen, between⟩, read, filled⟩
      have seenSettled := readFields_settles settles read (List.forall_mem_nil _)
      have filledUp := fillAbsent_settles settles filled (fun _ member => member) seenSettled
      rintro key (member | member)
      · cases member
      · exact filledUp key (.inr member)
    case list items =>
      exact readFields_items_settles settles decoded (List.forall_mem_nil _)
    all_goals cases decoded
  exact fun field member => all field.key (.inr (List.mem_map_of_mem member))

/-! A structure of one field is read from what the field is read from, with one bracket
around it. -/

section Single

variable {key : String} {codec : Codec α} {get : σ → α} {set : σ → α → σ}

theorem yields_ofField (getSet : ∀ held value, get (set held value) = value)
    (yields : (ofFields start [StructField.required key codec get set]).Yields room whole) :
    ∃ less, room = less + 1 ∧ codec.Yields less (get whole) := by
  rcases room_of_yields_ofFields yields with ⟨less, rfl⟩
  have settles : ∀ field ∈ [StructField.required key codec get set],
      field.Settles less fun _ whole => codec.Yields less (get whole) := by
    refine List.forall_mem_singleton.mpr fun held after turns => ?_
    rcases StructField.turns_required turns with ⟨value, given, rfl⟩
    have put : codec.Yields less (get (set held value)) := by rwa [getSet]
    exact ⟨put, fun _ _ _ => put⟩
  exact ⟨less, rfl, facet_of_yields_ofFields settles yields _ List.mem_cons_self⟩

theorem fits_ofField (fits : codec.Fits room (get whole)) :
    (ofFields start [StructField.required key codec get set]).Fits (room + 1) whole :=
  Nat.succ_le_succ (nestingOfMembers_le (List.forall_mem_singleton.mpr fits))

end Single

end Codec

end Statechart.Json
