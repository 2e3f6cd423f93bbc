/-!
Dictionaries keyed by text. The entries are kept in the order of their keys,
which is the order of code points, so that two dictionaries with the same
lookups are the same value and every walk goes in key order.
-/

namespace Statechart

/-! Operations on ordered entries. -/

namespace Entries

def insert (key : String) (value : β) : List (String × β) → List (String × β)
  | [] => [(key, value)]
  | (other, held) :: rest =>
      if key < other then (key, value) :: (other, held) :: rest
      else if key = other then (key, value) :: rest
      else (other, held) :: insert key value rest

def lookup? (key : String) : List (String × β) → Option β
  | [] => none
  | (other, held) :: rest => if key = other then some held else lookup? key rest

def erase (key : String) (entries : List (String × β)) : List (String × β) :=
  entries.filter (·.1 ≠ key)

def Ordered (entries : List (String × β)) : Prop :=
  entries.Pairwise fun left right => left.1 < right.1

theorem mem_insert {key : String} {value : β} {entry : String × β}
    {entries : List (String × β)} (member : entry ∈ insert key value entries) :
    entry = (key, value) ∨ entry ∈ entries := by
  induction entries with
  | nil => simpa [insert] using member
  | cons head rest induction =>
      obtain ⟨other, held⟩ := head
      rw [insert] at member
      split at member
      · simpa using member
      · split at member <;> grind

theorem ordered_insert (key : String) (value : β) {entries : List (String × β)}
    (ordered : Ordered entries) : Ordered (insert key value entries) := by
  induction entries with
  | nil => simp [insert, Ordered]
  | cons head rest induction =>
      obtain ⟨other, held⟩ := head
      obtain ⟨above, orderedRest⟩ := List.pairwise_cons.1 ordered
      rw [insert]
      split
      case isTrue less =>
        refine List.pairwise_cons.2 ⟨fun entry member => ?_, ordered⟩
        rcases List.mem_cons.1 member with rfl | member
        · exact less
        · exact String.lt_trans less (above entry member)
      case isFalse notLess =>
        split
        case isTrue same =>
          subst same
          exact List.pairwise_cons.2 ⟨above, orderedRest⟩
        case isFalse different =>
          refine List.pairwise_cons.2 ⟨fun entry member => ?_, induction orderedRest⟩
          rcases mem_insert member with rfl | member
          · have lessOrSame := String.not_lt.1 notLess
            exact Decidable.byContradiction fun notAbove =>
              different (String.le_antisymm (String.not_lt.1 notAbove) lessOrSame)
          · exact above entry member

theorem ordered_erase (key : String) {entries : List (String × β)}
    (ordered : Ordered entries) : Ordered (erase key entries) :=
  ordered.filter _

/-- A key behind all others is entered at the end. -/
theorem insert_last {key : String} {value : β} {entries : List (String × β)}
    (last : ∀ entry ∈ entries, entry.1 < key) :
    insert key value entries = entries ++ [(key, value)] := by
  induction entries with
  | nil => rfl
  | cons head rest induction =>
      rcases head with ⟨other, held⟩
      have less : other < key := last (other, held) List.mem_cons_self
      have notLess : ¬key < other := String.lt_asymm less
      have different : key ≠ other := fun same => String.lt_irrefl other (same ▸ less)
      rw [insert, if_neg notLess, if_neg different,
        induction fun entry member => last entry (List.mem_cons_of_mem _ member), List.cons_append]

@[simp] theorem lookup?_insert_self (key : String) (value : β) (entries : List (String × β)) :
    lookup? key (insert key value entries) = some value := by
  induction entries with
  | nil => simp [insert, lookup?]
  | cons head rest induction =>
      obtain ⟨other, held⟩ := head
      rw [insert]
      split
      · simp [lookup?]
      · split <;> simp_all [lookup?]

@[simp] theorem lookup?_insert_of_ne {key other : String} (different : other ≠ key) (value : β)
    (entries : List (String × β)) :
    lookup? other (insert key value entries) = lookup? other entries := by
  induction entries with
  | nil => simp [insert, lookup?, different]
  | cons head rest induction =>
      obtain ⟨held, _⟩ := head
      rw [insert]
      split
      · simp [lookup?, different]
      · split <;> simp_all [lookup?]

@[simp] theorem lookup?_erase_self (key : String) (entries : List (String × β)) :
    lookup? key (erase key entries) = none := by
  induction entries with
  | nil => rfl
  | cons head rest induction =>
      by_cases same : head.1 = key
      · simpa [erase, same] using induction
      · simpa [erase, same, lookup?, Ne.symm same] using induction

@[simp] theorem lookup?_erase_of_ne {key other : String} (different : other ≠ key)
    (entries : List (String × β)) :
    lookup? other (erase key entries) = lookup? other entries := by
  induction entries with
  | nil => rfl
  | cons head rest induction =>
      by_cases same : head.1 = key
      · subst same
        simpa [erase, lookup?, different] using induction
      · by_cases found : other = head.1
        · simp [erase, lookup?, same, found]
        · simpa [erase, lookup?, same, found] using induction

theorem lookup?_eq_none_of_below {key : String} {entries : List (String × β)}
    (below : ∀ entry ∈ entries, key < entry.1) : lookup? key entries = none := by
  induction entries with
  | nil => rfl
  | cons head rest induction =>
      have less : key < head.1 := below head List.mem_cons_self
      have different : key ≠ head.1 := fun same => String.lt_irrefl head.1 (same ▸ less)
      rw [lookup?, if_neg different]
      exact induction fun entry member => below entry (List.mem_cons_of_mem _ member)

theorem lookup?_eq_some {key : String} {value : β} {entries : List (String × β)}
    (ordered : Ordered entries) : lookup? key entries = some value ↔ (key, value) ∈ entries := by
  induction entries with
  | nil => simp [lookup?]
  | cons head rest induction =>
      rcases head with ⟨other, held⟩
      rcases List.pairwise_cons.1 ordered with ⟨above, orderedRest⟩
      rw [lookup?, List.mem_cons, Prod.mk.injEq]
      split
      case isTrue same =>
        have notLater : (other, value) ∉ rest := fun later =>
          String.lt_irrefl other (above (other, value) later)
        simp [same, notLater, eq_comm]
      case isFalse different => simp [different, induction orderedRest]

/-- The least key of some entries is missing from entries that all have a greater key. -/
theorem not_lt_of_lookup? {key other : String} {value held : β} {entries rest : List (String × β)}
    (ordered : Ordered ((other, held) :: rest))
    (same : ∀ sought, lookup? sought ((key, value) :: entries) =
      lookup? sought ((other, held) :: rest)) : ¬key < other := by
  intro less
  have below : ∀ entry ∈ (other, held) :: rest, key < entry.1 := by
    intro entry member
    rcases List.mem_cons.1 member with rfl | member
    · exact less
    · exact String.lt_trans less ((List.pairwise_cons.1 ordered).1 entry member)
  have present := same key
  rw [lookup?_eq_none_of_below below, lookup?, if_pos rfl] at present
  cases present

theorem eq_of_lookup? {left right : List (String × β)} (orderedLeft : Ordered left)
    (orderedRight : Ordered right) (same : ∀ key, lookup? key left = lookup? key right) :
    left = right := by
  induction left generalizing right with
  | nil =>
      cases right with
      | nil => rfl
      | cons head rest =>
          have present := same head.1
          rw [lookup?, lookup?, if_pos rfl] at present
          cases present
  | cons head rest induction =>
      rcases head with ⟨key, value⟩
      cases right with
      | nil =>
          have present := same key
          rw [lookup?, lookup?, if_pos rfl] at present
          cases present
      | cons headToo restToo =>
          rcases headToo with ⟨other, held⟩
          have notLess := not_lt_of_lookup? orderedRight same
          have notGreater := not_lt_of_lookup? orderedLeft fun sought => (same sought).symm
          cases String.le_antisymm (String.not_lt.1 notGreater) (String.not_lt.1 notLess)
          have sameValue := same key
          rw [lookup?, lookup?, if_pos rfl, if_pos rfl] at sameValue
          cases sameValue
          rcases List.pairwise_cons.1 orderedLeft with ⟨aboveLeft, orderedRest⟩
          rcases List.pairwise_cons.1 orderedRight with ⟨aboveRight, orderedRestToo⟩
          refine congrArg _ (induction orderedRest orderedRestToo fun sought => ?_)
          by_cases own : sought = key
          · rw [own, lookup?_eq_none_of_below aboveLeft, lookup?_eq_none_of_below aboveRight]
          · have later := same sought
            rwa [lookup?, lookup?, if_neg own, if_neg own] at later

end Entries

structure Dictionary (β : Type) where
  entries : List (String × β)
  ordered : Entries.Ordered entries

namespace Dictionary

def empty : Dictionary β := ⟨[], .nil⟩

instance : Inhabited (Dictionary β) := ⟨empty⟩

instance : EmptyCollection (Dictionary β) := ⟨empty⟩

def insert (key : String) (value : β) (dictionary : Dictionary β) : Dictionary β :=
  ⟨Entries.insert key value dictionary.entries, Entries.ordered_insert key value dictionary.ordered⟩

def erase (key : String) (dictionary : Dictionary β) : Dictionary β :=
  ⟨Entries.erase key dictionary.entries, Entries.ordered_erase key dictionary.ordered⟩

def get? (dictionary : Dictionary β) (key : String) : Option β :=
  Entries.lookup? key dictionary.entries

def contains (dictionary : Dictionary β) (key : String) : Bool :=
  (dictionary.get? key).isSome

def keys (dictionary : Dictionary β) : List String :=
  dictionary.entries.map (·.1)

/-! Of several entries with one key the last one stays. -/

def ofList (entries : List (String × β)) : Dictionary β :=
  entries.foldl (fun dictionary entry => dictionary.insert entry.1 entry.2) empty

theorem foldl_insert {entries : List (String × β)} (found : Dictionary β)
    (ordered : Entries.Ordered (found.entries ++ entries)) :
    entries.foldl (fun dictionary entry => dictionary.insert entry.1 entry.2) found =
      ⟨found.entries ++ entries, ordered⟩ := by
  induction entries generalizing found with
  | nil => simp
  | cons head rest induction =>
      have last : ∀ earlier ∈ found.entries, earlier.1 < head.1 := fun earlier member =>
        (List.pairwise_append.mp ordered).2.2 earlier member head List.mem_cons_self
      have entered : (found.insert head.1 head.2).entries = found.entries ++ [head] :=
        Entries.insert_last last
      have orderedLater : Entries.Ordered ((found.insert head.1 head.2).entries ++ rest) := by
        rwa [entered, List.append_assoc]
      rw [List.foldl_cons, induction _ orderedLater]
      simp only [entered, List.append_assoc, List.singleton_append]

/-- Entries in the order of their keys are kept as they are. -/
theorem ofList_of_ordered {entries : List (String × β)} (ordered : Entries.Ordered entries) :
    ofList entries = ⟨entries, ordered⟩ :=
  foldl_insert empty ordered

@[simp] theorem get?_insert_self (key : String) (value : β) (dictionary : Dictionary β) :
    (dictionary.insert key value).get? key = some value :=
  Entries.lookup?_insert_self key value dictionary.entries

@[simp] theorem get?_insert_of_ne {key other : String} (different : other ≠ key) (value : β)
    (dictionary : Dictionary β) :
    (dictionary.insert key value).get? other = dictionary.get? other :=
  Entries.lookup?_insert_of_ne different value dictionary.entries

theorem get?_insert (key other : String) (value : β) (dictionary : Dictionary β) :
    (dictionary.insert key value).get? other =
      if other = key then some value else dictionary.get? other := by
  split
  case isTrue same => rw [same, get?_insert_self]
  case isFalse different => exact get?_insert_of_ne different value dictionary

@[simp] theorem get?_erase_self (key : String) (dictionary : Dictionary β) :
    (dictionary.erase key).get? key = none :=
  Entries.lookup?_erase_self key dictionary.entries

@[simp] theorem get?_erase_of_ne {key other : String} (different : other ≠ key)
    (dictionary : Dictionary β) : (dictionary.erase key).get? other = dictionary.get? other :=
  Entries.lookup?_erase_of_ne different dictionary.entries

@[simp] theorem get?_empty (key : String) : (empty : Dictionary β).get? key = none := rfl

/-- A dictionary is told by its lookups. -/
theorem ext_get? {left right : Dictionary β} (same : ∀ key, left.get? key = right.get? key) :
    left = right := by
  have sameEntries := Entries.eq_of_lookup? left.ordered right.ordered same
  cases left
  cases right
  cases sameEntries
  rfl

end Dictionary

end Statechart
