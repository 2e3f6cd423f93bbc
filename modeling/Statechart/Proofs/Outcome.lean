import Mathlib.Data.List.Forall2

/-!
Computations that may fail. A sequence of them gives a value exactly when each
of them does.
-/

namespace Statechart

theorem bind_eq_ok {ε α β : Type _} {first : Except ε α} {next : α → Except ε β} {value : β} :
    first >>= next = .ok value ↔ ∃ middle, first = .ok middle ∧ next middle = .ok value := by
  cases first <;> simp [Bind.bind, Except.bind]

@[simp] theorem ok_bind {ε α β : Type _} (value : α) (next : α → Except ε β) :
    (.ok value : Except ε α) >>= next = next value := rfl

@[simp] theorem error_bind {ε α β : Type _} (error : ε) (next : α → Except ε β) :
    (.error error : Except ε α) >>= next = .error error := rfl

/-- A check in front of another computation. -/
theorem check_bind_eq_ok {ε α : Type _} {check : Except ε Unit} {next : Unit → Except ε α}
    {value : α} : check >>= next = .ok value ↔ check = .ok () ∧ next () = .ok value := by
  cases check <;> simp [Bind.bind, Except.bind]

@[simp] theorem map_ok {ε α β : Type _} (transform : α → β) (value : α) :
    transform <$> (.ok value : Except ε α) = .ok (transform value) := rfl

@[simp] theorem map_error {ε α β : Type _} (transform : α → β) (error : ε) :
    transform <$> (.error error : Except ε α) = .error error := rfl

theorem map_eq_ok {ε α β : Type _} {transform : α → β} {outcome : Except ε α} {value : β} :
    transform <$> outcome = .ok value ↔ ∃ middle, outcome = .ok middle ∧ transform middle = value := by
  cases outcome <;> simp

theorem pure_eq_ok {ε α : Type _} {given value : α} :
    (pure given : Except ε α) = .ok value ↔ given = value := by
  simp [pure, Except.pure]

theorem exists_of_isOk {ε α : Type _} {outcome : Except ε α} (passed : outcome.isOk = true) :
    ∃ value, outcome = .ok value := by
  cases outcome with
  | error error => cases passed
  | ok value => exact ⟨value, rfl⟩

theorem mapM_eq_ok {ε α β : Type _} {action : α → Except ε β} {items : List α}
    {results : List β} :
    items.mapM action = .ok results ↔
      List.Forall₂ (fun item result => action item = .ok result) items results := by
  induction items generalizing results with
  | nil => rw [List.mapM_nil, pure_eq_ok, List.forall₂_nil_left_iff, eq_comm]
  | cons item items induction =>
      rw [List.mapM_cons, bind_eq_ok, List.forall₂_cons_left_iff]
      constructor
      · intro done
        rcases done with ⟨result, first, done⟩
        rcases bind_eq_ok.mp done with ⟨later, rest, same⟩
        exact ⟨result, later, first, induction.mp rest, (pure_eq_ok.mp same).symm⟩
      · intro related
        rcases related with ⟨result, later, first, rest, rfl⟩
        exact ⟨result, first, bind_eq_ok.mpr ⟨later, induction.mpr rest, rfl⟩⟩

theorem mapM_map {ε α β γ : Type _} (transform : β → γ) (action : α → Except ε β)
    (items : List α) :
    items.mapM (fun item => transform <$> action item) =
      List.map transform <$> items.mapM action := by
  induction items with
  | nil => rfl
  | cons item items induction =>
      rw [List.mapM_cons, List.mapM_cons, induction]
      cases action item with
      | error error => rfl
      | ok result => cases items.mapM action <;> rfl

theorem mapM_congr {ε α β : Type _} {action other : α → Except ε β} {items : List α}
    (same : ∀ item ∈ items, action item = other item) : items.mapM action = items.mapM other := by
  induction items with
  | nil => rfl
  | cons item items induction =>
      rw [List.mapM_cons, List.mapM_cons, same item List.mem_cons_self,
        induction fun later member => same later (List.mem_cons_of_mem _ member)]

/-! Without the errors only the values are left. -/

theorem toOption_eq_some {ε α : Type _} {outcome : Except ε α} {value : α} :
    outcome.toOption = some value ↔ outcome = .ok value := by
  cases outcome <;> simp [Except.toOption]

theorem toOption_bind {ε α β : Type _} (first : Except ε α) (next : α → Except ε β) :
    (first >>= next).toOption = first.toOption.bind fun value => (next value).toOption := by
  cases first <;> rfl

/-! The first answer of a list is that of its head or, failing that, of the rest. -/

theorem findSome?_cons_eq_or {α β : Type _} (find : α → Option β) (head : α) (tail : List α) :
    (head :: tail).findSome? find = (find head).or (tail.findSome? find) := by
  cases found : find head <;> simp [found]

theorem findSome?_flatMap {α β γ : Type _} (find : β → Option γ) (part : α → List β)
    (items : List α) :
    (items.flatMap part).findSome? find = items.findSome? fun item => (part item).findSome? find := by
  induction items with
  | nil => rfl
  | cons item items induction =>
      rw [List.flatMap_cons, List.findSome?_append, induction, findSome?_cons_eq_or]

theorem findSome?_congr {α β : Type _} {find other : α → Option β} {items : List α}
    (same : ∀ item ∈ items, find item = other item) :
    items.findSome? find = items.findSome? other := by
  induction items with
  | nil => rfl
  | cons item items induction =>
      rw [findSome?_cons_eq_or, findSome?_cons_eq_or, same item List.mem_cons_self,
        induction fun later member => same later (List.mem_cons_of_mem _ member)]

/-! ## What a computation fails with -/

def errorOf? {ε α : Type _} : Except ε α → Option ε
  | .ok _ => none
  | .error error => some error

theorem errorOf?_eq_some {ε α : Type _} {outcome : Except ε α} {error : ε} :
    errorOf? outcome = some error ↔ outcome = .error error := by
  cases outcome <;> simp [errorOf?]

theorem errorOf?_eq_none {ε α : Type _} {outcome : Except ε α} :
    errorOf? outcome = none ↔ ∃ value, outcome = .ok value := by
  cases outcome <;> simp [errorOf?]

theorem errorOf?_map {ε α β : Type _} (transform : α → β) (outcome : Except ε α) :
    errorOf? (transform <$> outcome) = errorOf? outcome := by
  cases outcome <;> rfl

/-- A sequence of computations fails with the first error among theirs. -/
theorem errorOf?_mapM {ε α β : Type _} (action : α → Except ε β) (items : List α) :
    errorOf? (items.mapM action) = items.findSome? fun item => errorOf? (action item) := by
  induction items with
  | nil => rfl
  | cons item items induction =>
      rw [List.mapM_cons, findSome?_cons_eq_or, ← induction]
      cases action item with
      | error error => rfl
      | ok result => cases items.mapM action <;> rfl

end Statechart
