import Statechart.Json.Codec
import Statechart.Proofs.Json.Nesting
import Statechart.Proofs.Json.Reading
import Statechart.Proofs.Outcome

/-!
Codecs that read back what they write. With room for the brackets of a written value
the decoder gives the value again; with less room it reports malformed text, at the
first bracket too many. The law is stated below a limit on the room, since the decoders
of nested structures are good for a bounded number of levels only.
-/

namespace Statechart.Json

/-- The outcome of reading a value with that nesting. -/
def within {α : Type} (room nesting : Nat) (value : α) : Except Fault α :=
  if nesting ≤ room then .ok value else .error .malformed

section Within

variable {α β : Type} {room nesting others : Nat} {value : α} {result : β}

theorem within_zero : within room 0 value = .ok value :=
  if_pos (Nat.zero_le room)

theorem within_no_room : within 0 (nesting + 1) value = .error .malformed :=
  if_neg (Nat.not_succ_le_zero nesting)

theorem within_succ : within (room + 1) (nesting + 1) value = within room nesting value := by
  simp only [within, Nat.add_le_add_iff_right]

theorem map_within (transform : α → β) :
    transform <$> within room nesting value = within room nesting (transform value) := by
  rw [within, within]
  split <;> rfl

/-- One value after the other. -/
theorem within_bind {next : α → Except Fault β} (then_within : next value = within room others result) :
    within room nesting value >>= next = within room (max nesting others) result := by
  by_cases fits : nesting ≤ room
  · rw [within, if_pos fits, ok_bind, then_within]
    simp only [within, Nat.max_le, fits, true_and]
  · have tooDeep : ¬max nesting others ≤ room := fun both => fits (Nat.max_le.mp both).1
    rw [within, within, if_neg fits, if_neg tooDeep]
    rfl

end Within

/-! ## Reading whole -/

mutual
theorem whole_ofJson (json : Json) (room : Nat) :
    (Reading.ofJson json).whole room = within room json.nesting () := by
  cases json with
  | null | flag | number | text =>
      cases room <;> exact within_zero.symm
  | list items =>
      cases room with
      | zero => exact within_no_room.symm
      | succ room => exact (whole_ofItems items room).trans within_succ.symm
  | object members =>
      cases room with
      | zero => exact within_no_room.symm
      | succ room => exact (whole_ofMembers members room).trans within_succ.symm

theorem whole_ofItems (items : List Json) (room : Nat) :
    (Items.ofJson items).whole room = within room (nestingOfItems items) () := by
  cases items with
  | nil => exact within_zero.symm
  | cons item items =>
      rw [Items.ofJson, Items.whole, whole_ofJson item room]
      exact within_bind (whole_ofItems items room)

theorem whole_ofMembers (members : List (String × Json)) (room : Nat) :
    (Members.ofJson members).whole room = within room (nestingOfMembers members) () := by
  rcases members with _ | ⟨⟨key, value⟩, members⟩
  · exact within_zero.symm
  · rw [Members.ofJson, Members.whole, whole_ofJson value room]
    exact within_bind (whole_ofMembers members room)
end

/-- What is made of a value after it was read whole. -/
theorem whole_then {α : Type} {json : Json} {room : Nat} {value : α} {next : Except Fault α}
    (matched : json.nesting ≤ room → next = .ok value) :
    ((Reading.ofJson json).whole room >>= fun _ => next) = within room json.nesting value := by
  rw [whole_ofJson]
  by_cases fits : json.nesting ≤ room
  · rw [within, within, if_pos fits, if_pos fits, matched fits]
    rfl
  · rw [within, within, if_neg fits, if_neg fits]
    rfl

namespace Codec

/-- With less room than `limit` a written value is read back, or refused for its nesting. -/
def ReadsBack {α : Type} (codec : Codec α) (limit : Nat) (value : α) : Prop :=
  ∀ room < limit, codec.decode room (Reading.ofJson (codec.encode value)) =
    within room (codec.encode value).nesting value

/-- What is written is not null, so that null can stand for an absent value. -/
def NeverNull {α : Type} (codec : Codec α) : Prop :=
  ∀ value, codec.encode value ≠ .null

variable {α : Type} {codec : Codec α} {limit : Nat}

theorem ReadsBack.mono {larger : Nat} {value : α} (le : limit ≤ larger)
    (readsBack : codec.ReadsBack larger value) : codec.ReadsBack limit value :=
  fun room below => readsBack room (Nat.lt_of_lt_of_le below le)

/-- A text is read back, or refused when too many of its brackets are open at once. -/
theorem ReadsBack.parse {value : α} (readsBack : codec.ReadsBack (nestingLimit + 1) value) :
    codec.parse (codec.render value) =
      if openAtOnce (codec.render value) ≤ nestingLimit then .ok value else .error .malformed := by
  rw [Codec.parse, render, openAtOnce_compact, read_compact]
  have decoded := readsBack nestingLimit (Nat.lt_succ_self _)
  by_cases fits : (codec.encode value).nesting ≤ nestingLimit
  · simp only [decoded, within, if_pos fits]
    rfl
  · simp only [decoded, within, if_neg fits]

/-! ## Scalars -/

theorem readsBack_text (value : String) : text.ReadsBack limit value :=
  fun _ _ => within_zero.symm

theorem readsBack_flag (value : Bool) : flag.ReadsBack limit value :=
  fun _ _ => within_zero.symm

theorem readsBack_word64 (value : UInt64) : word64.ReadsBack limit value :=
  fun _ _ => within_zero.symm

theorem readsBack_word32 (value : UInt32) : word32.ReadsBack limit value := by
  intro room _
  have small : value.toUInt64.toNat < UInt32.size := by simpa using value.toNat_lt_size
  refine Eq.trans ?_ within_zero.symm
  simp only [word32, Reading.ofJson, small, if_true, UInt32.toUInt32_toUInt64]

theorem neverNull_text : text.NeverNull := by
  intro value same
  cases same

theorem neverNull_choice {choices : List (String × α)} {name : α → String} :
    (choice choices name).NeverNull := by
  intro value same
  cases same

/-- A choice is read back when its own name stands for it. -/
theorem readsBack_choice {choices : List (String × α)} {name : α → String} {value : α}
    (known : Entries.lookup? (name value) choices = some value) :
    (choice choices name).ReadsBack limit value := by
  intro room _
  refine Eq.trans ?_ within_zero.symm
  simp only [choice, Reading.ofJson, chosen, known]

/-! ## Optional values, lists and dictionaries -/

/-- The decoder of an optional value hands everything but null on. -/
theorem optional_decode {json : Json} (notNull : json ≠ .null) (room : Nat) :
    codec.optional.decode room (Reading.ofJson json) =
      some <$> codec.decode room (Reading.ofJson json) := by
  cases json with
  | null => exact absurd rfl notNull
  | flag | number | text | list | object => rfl

theorem readsBack_optional (neverNull : codec.NeverNull) {value : Option α}
    (readsBack : ∀ held ∈ value, codec.ReadsBack limit held) :
    codec.optional.ReadsBack limit value := by
  intro room below
  cases value with
  | none => exact within_zero.symm
  | some held =>
      have decoded := readsBack held rfl room below
      change codec.optional.decode room (Reading.ofJson (codec.encode held)) = _
      rw [optional_decode (neverNull held), decoded, map_within]
      rfl

theorem decode_ofItems {values : List α} {room : Nat}
    (decoded : ∀ value ∈ values, codec.decode room (Reading.ofJson (codec.encode value)) =
      within room (codec.encode value).nesting value) :
    (Items.ofJson (values.map codec.encode)).decode (codec.decode room) =
      within room (nestingOfItems (values.map codec.encode)) values := by
  induction values with
  | nil => exact within_zero.symm
  | cons value values induction =>
      have first := decoded value List.mem_cons_self
      have rest := induction fun later member => decoded later (List.mem_cons_of_mem _ member)
      rw [List.map_cons, Items.ofJson, Items.decode, first, nestingOfItems]
      apply within_bind
      rw [rest]
      exact map_within (value :: ·)

/-- The items of a list are read with one bracket less. -/
theorem readsBack_list {values : List α}
    (readsBack : ∀ value ∈ values, codec.ReadsBack limit value) :
    codec.list.ReadsBack (limit + 1) values := by
  intro room below
  cases room with
  | zero => exact within_no_room.symm
  | succ room =>
      have decoded := decode_ofItems fun value member =>
        readsBack value member room (Nat.lt_of_succ_lt_succ below)
      exact decoded.trans within_succ.symm

end Codec

namespace Codec

variable {α : Type} {codec : Codec α} {limit : Nat}

theorem decode_ofMembers {entries : List (String × α)} (found : Dictionary α) {room : Nat}
    (ordered : Entries.Ordered (found.entries ++ entries))
    (decoded : ∀ entry ∈ entries, codec.decode room (Reading.ofJson (codec.encode entry.2)) =
      within room (codec.encode entry.2).nesting entry.2) :
    (Members.ofJson (entries.map fun entry => (entry.1, codec.encode entry.2))).decode
        (codec.decode room) found =
      within room (nestingOfMembers (entries.map fun entry => (entry.1, codec.encode entry.2)))
        ⟨found.entries ++ entries, ordered⟩ := by
  induction entries generalizing found with
  | nil =>
      refine Eq.trans ?_ within_zero.symm
      simp only [List.append_nil]
      rfl
  | cons entry entries induction =>
      rcases entry with ⟨key, value⟩
      have first := decoded (key, value) List.mem_cons_self
      have last : ∀ earlier ∈ found.entries, earlier.1 < key := fun earlier member =>
        (List.pairwise_append.mp ordered).2.2 earlier member (key, value) List.mem_cons_self
      have entered : (found.insert key value).entries = found.entries ++ [(key, value)] :=
        Entries.insert_last last
      have orderedLater : Entries.Ordered ((found.insert key value).entries ++ entries) := by
        rwa [entered, List.append_assoc]
      rw [List.map_cons, Members.ofJson, Members.decode, first, nestingOfMembers]
      apply within_bind
      rw [induction _ orderedLater fun later member =>
        decoded later (List.mem_cons_of_mem _ member)]
      simp only [entered, List.append_assoc, List.singleton_append]

theorem readsBack_dictionary {values : Dictionary α}
    (readsBack : ∀ entry ∈ values.entries, codec.ReadsBack limit entry.2) :
    codec.dictionary.ReadsBack (limit + 1) values := by
  intro room below
  cases room with
  | zero => exact within_no_room.symm
  | succ room =>
      have decoded := decode_ofMembers .empty values.ordered fun entry member =>
        readsBack entry member room (Nat.lt_of_succ_lt_succ below)
      exact decoded.trans within_succ.symm

theorem readsBack_entries {values : List (String × α)} (ordered : Entries.Ordered values)
    (readsBack : ∀ entry ∈ values, codec.ReadsBack limit entry.2) :
    codec.entries.ReadsBack (limit + 1) values := by
  intro room below
  have whole : codec.dictionary.ReadsBack (limit + 1) ⟨values, ordered⟩ :=
    readsBack_dictionary readsBack
  have mapped := congrArg ((·.entries) <$> ·) (whole room below)
  rw [map_within] at mapped
  exact mapped

end Codec

end Statechart.Json
