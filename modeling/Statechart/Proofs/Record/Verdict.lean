import Statechart.Proofs.Record.Check

/-!
Verdicts. A response is refused for the first record whose id an earlier record has,
and, where all ids are different, for the first record with a reference that leads
nowhere; of several such references in one record the one with the least role
counts. First means first in `preorder`, which goes through the roles of a record as
they are kept, in the order of texts.
-/

namespace Statechart.Record

/-! ## Defects -/

/-- The first record, in the order of the list, whose id a record before it has. -/
structure IsFirstRepeat (records : List Record) (record : Record) : Prop where
  split : ∃ before after, records = before ++ record :: after ∧
    (before.map (·.id)).Nodup ∧ record.id ∈ before.map (·.id)

/-- A reference that leads nowhere. An empty one says that there is nothing to point at. -/
def Dangles (known : String → Bool) (ref : String × String) : Prop :=
  ref.2 ≠ "" ∧ known ref.2 = false

/-- The reference with the least role among those that lead nowhere in the first record
that has any. -/
structure IsFirstDangling (known : String → Bool) (records : List Record) (ref : String × String) :
    Prop where
  dangles : Dangles known ref
  split : ∃ before record after, records = before ++ record :: after ∧
    (∀ earlier ∈ before, ∀ other ∈ earlier.refs.entries, ¬Dangles known other) ∧
    ref ∈ record.refs.entries ∧
    ∀ other ∈ record.refs.entries, Dangles known other → ref.1 ≤ other.1

variable {known : String → Bool} {records : List Record}

/-! ## Ids -/

/-- The check of ids stops at the first id that has been seen before. -/
theorem checkUnique_eq_error {seen : List String} {error : TreeError} :
    checkUnique seen records = .error error ↔
      ∃ before record after, records = before ++ record :: after ∧
        checkUnique seen before = .ok () ∧ record.id ∈ seen ++ before.map (·.id) ∧
        error = .duplicateId record.id := by
  induction records generalizing seen with
  | nil => simp [checkUnique]
  | cons head rest induction =>
      by_cases repeated : head.id ∈ seen
      · have stops : checkUnique seen (head :: rest) = .error (.duplicateId head.id) := by
          rw [checkUnique, if_pos (by simpa using repeated)]
        rw [stops]
        constructor
        · intro same
          cases same
          exact ⟨[], head, rest, rfl, rfl, by simpa using repeated, rfl⟩
        · rintro ⟨before, record, after, split, passed, -, rfl⟩
          cases before with
          | nil =>
              cases split
              rfl
          | cons first before =>
              cases split
              rw [checkUnique, if_pos (by simpa using repeated)] at passed
              cases passed
      · have goesOn : ∀ later, checkUnique seen (head :: later) =
            checkUnique (head.id :: seen) later := by
          intro later
          rw [checkUnique, if_neg (by simpa using repeated)]
        rw [goesOn, induction]
        constructor
        · rintro ⟨before, record, after, rfl, passed, known, same⟩
          refine ⟨head :: before, record, after, rfl, (goesOn before).trans passed, ?_, same⟩
          rwa [List.map_cons, List.perm_middle.mem_iff]
        · rintro ⟨before, record, after, split, passed, known, same⟩
          cases before with
          | nil =>
              cases split
              exact absurd (by simpa using known) repeated
          | cons first before =>
              cases split
              refine ⟨before, record, after, rfl, (goesOn before).symm.trans passed, ?_, same⟩
              rwa [List.map_cons, List.perm_middle.mem_iff] at known

theorem checkUnique_nil_eq_error {error : TreeError} :
    checkUnique [] records = .error error ↔
      ∃ record, IsFirstRepeat records record ∧ error = .duplicateId record.id := by
  rw [checkUnique_eq_error]
  constructor
  · rintro ⟨before, record, after, split, passed, repeated, same⟩
    exact ⟨record, ⟨before, after, split, (checkUnique_eq_ok.mp passed).1, repeated⟩, same⟩
  · rintro ⟨record, ⟨before, after, split, distinct, repeated⟩, same⟩
    exact ⟨before, record, after, split, checkUnique_eq_ok.mpr ⟨distinct, by simp⟩, repeated, same⟩

/-! ## References -/

instance (known : String → Bool) (ref : String × String) : Decidable (Dangles known ref) :=
  inferInstanceAs (Decidable (ref.2 ≠ "" ∧ known ref.2 = false))

/-- What is wrong with one reference. -/
def refDefect (known : String → Bool) (ref : String × String) : Option TreeError :=
  if Dangles known ref then some (.unresolvedReference ref.1 ref.2) else none

theorem refDefect_eq_none {ref : String × String} :
    refDefect known ref = none ↔ ¬Dangles known ref := by
  simp [refDefect]

theorem refDefect_eq_some {ref : String × String} {error : TreeError} :
    refDefect known ref = some error ↔
      Dangles known ref ∧ error = .unresolvedReference ref.1 ref.2 := by
  rw [refDefect, Option.ite_none_right_eq_some, Option.some.injEq, eq_comm]

theorem errorOf?_checkRefs (refs : List (String × String)) :
    errorOf? (checkRefs known refs) = refs.findSome? (refDefect known) := by
  induction refs with
  | nil => rfl
  | cons ref refs induction =>
      rcases ref with ⟨role, id⟩
      have checked : (!id.isEmpty && !known id) = decide (Dangles known (role, id)) := by
        rw [Bool.eq_iff_iff, decide_eq_true_iff]
        simp [Dangles]
      rw [checkRefs, checked, findSome?_cons_eq_or, ← induction, refDefect]
      by_cases dangles : Dangles known (role, id) <;> simp [dangles, errorOf?]

theorem errorOf?_checkAllRefs : errorOf? (checkAllRefs known records) =
    records.findSome? fun record => record.refs.entries.findSome? (refDefect known) := by
  induction records with
  | nil => rfl
  | cons record records induction =>
      rw [checkAllRefs, findSome?_cons_eq_or, ← induction, ← errorOf?_checkRefs]
      cases checkRefs known record.refs.entries <;> rfl

/-- Among entries in the order of their keys the first one of a kind has the least key. -/
theorem split_iff_least {entries : List (String × String)} (ordered : Entries.Ordered entries)
    {kind : String × String → Prop} {entry : String × String} (isKind : kind entry) :
    (∃ before after, entries = before ++ entry :: after ∧ ∀ earlier ∈ before, ¬kind earlier) ↔
      entry ∈ entries ∧ ∀ other ∈ entries, kind other → entry.1 ≤ other.1 := by
  constructor
  · rintro ⟨before, after, rfl, noneEarlier⟩
    refine ⟨List.mem_append_right _ List.mem_cons_self, fun other member isKindToo => ?_⟩
    rcases List.mem_append.mp member with earlier | member
    · exact absurd isKindToo (noneEarlier other earlier)
    · rcases List.mem_cons.mp member with rfl | later
      · exact String.le_refl _
      · have above := (List.pairwise_cons.mp (List.pairwise_append.mp ordered).2.1).1 other later
        exact String.not_lt.mp (String.lt_asymm above)
  · rintro ⟨member, least⟩
    rcases List.append_of_mem member with ⟨before, after, rfl⟩
    refine ⟨before, after, rfl, fun earlier inBefore isKindToo => ?_⟩
    have below := (List.pairwise_append.mp ordered).2.2 earlier inBefore entry List.mem_cons_self
    exact String.not_le.mpr below (least earlier (List.mem_append_left _ inBefore) isKindToo)

theorem checkRefs_eq_error (record : Record) {error : TreeError} :
    checkRefs known record.refs.entries = .error error ↔
      ∃ ref ∈ record.refs.entries, Dangles known ref ∧
        (∀ other ∈ record.refs.entries, Dangles known other → ref.1 ≤ other.1) ∧
        error = .unresolvedReference ref.1 ref.2 := by
  rw [← errorOf?_eq_some, errorOf?_checkRefs, List.findSome?_eq_some_iff]
  constructor
  · rintro ⟨before, ref, after, split, defect, noneEarlier⟩
    rcases refDefect_eq_some.mp defect with ⟨dangles, same⟩
    have least := (split_iff_least record.refs.ordered dangles).mp
      ⟨before, after, split, fun earlier inBefore => refDefect_eq_none.mp (noneEarlier earlier inBefore)⟩
    exact ⟨ref, least.1, dangles, least.2, same⟩
  · rintro ⟨ref, member, dangles, least, same⟩
    rcases (split_iff_least record.refs.ordered dangles).mpr ⟨member, least⟩ with
      ⟨before, after, split, noneEarlier⟩
    exact ⟨before, ref, after, split, refDefect_eq_some.mpr ⟨dangles, same⟩,
      fun earlier inBefore => refDefect_eq_none.mpr (noneEarlier earlier inBefore)⟩

theorem checkAllRefs_eq_error {error : TreeError} :
    checkAllRefs known records = .error error ↔
      ∃ ref, IsFirstDangling known records ref ∧ error = .unresolvedReference ref.1 ref.2 := by
  rw [← errorOf?_eq_some, errorOf?_checkAllRefs, List.findSome?_eq_some_iff]
  constructor
  · rintro ⟨before, record, after, split, defect, noneEarlier⟩
    rw [← errorOf?_checkRefs, errorOf?_eq_some, checkRefs_eq_error] at defect
    rcases defect with ⟨ref, member, dangles, least, same⟩
    refine ⟨ref, ⟨dangles, before, record, after, split, ?_, member, least⟩, same⟩
    intro earlier inBefore other isRef
    exact refDefect_eq_none.mp (List.findSome?_eq_none_iff.mp (noneEarlier earlier inBefore) other isRef)
  · rintro ⟨ref, ⟨dangles, before, record, after, split, noneEarlier, member, least⟩, same⟩
    refine ⟨before, record, after, split, ?_, ?_⟩
    · rw [← errorOf?_checkRefs, errorOf?_eq_some, checkRefs_eq_error]
      exact ⟨ref, member, dangles, least, same⟩
    · intro earlier inBefore
      exact List.findSome?_eq_none_iff.mpr fun other isRef =>
        refDefect_eq_none.mpr (noneEarlier earlier inBefore other isRef)

/-! ## Verdicts -/

/-- What the check of references against known ids says of a record. -/
structure JudgesReferences (root : Record) (known : String → Bool) : Prop where
  accepted : root.checkReferencesAgainst known = .ok () ↔
    ∀ record ∈ root.preorder, ∀ ref ∈ record.refs.entries, ref.2 ≠ "" → known ref.2 = true
  refused : ∀ error, root.checkReferencesAgainst known = .error error ↔
    ∃ ref, IsFirstDangling known root.preorder ref ∧ error = .unresolvedReference ref.1 ref.2
  monotone : ∀ more : String → Bool, (∀ id, known id = true → more id = true) →
    root.checkReferencesAgainst known = .ok () → root.checkReferencesAgainst more = .ok ()

/-- What the check of a response says: an id that is repeated is reported whatever the
references are, and only among different ids they are followed. -/
structure JudgesResponse (root : Record) : Prop where
  accepted : root.checkResponse = .ok () ↔ (root.preorder.map (·.id)).Nodup ∧
    ∀ record ∈ root.preorder, ∀ ref ∈ record.refs.entries, ref.2 ≠ "" →
      ref.2 ∈ root.preorder.map (·.id)
  repeated : ¬(root.preorder.map (·.id)).Nodup →
    ∃ record, IsFirstRepeat root.preorder record ∧
      root.checkResponse = .error (.duplicateId record.id)
  dangling : (root.preorder.map (·.id)).Nodup → ∀ error, root.checkResponse = .error error ↔
    ∃ ref, IsFirstDangling (root.preorder.map (·.id)).contains root.preorder ref ∧
      error = .unresolvedReference ref.1 ref.2
  references : (root.preorder.map (·.id)).Nodup → root.checkResponse =
    root.checkReferencesAgainst (root.preorder.map (·.id)).contains

theorem checkReferencesAgainst_eq_ok {root : Record} :
    root.checkReferencesAgainst known = .ok () ↔
      ∀ record ∈ root.preorder, ∀ ref ∈ record.refs.entries, ref.2 ≠ "" → known ref.2 = true := by
  rw [checkReferencesAgainst, descendants_eq_preorder, checkAllRefs_eq_ok]
  simp only [or_iff_not_imp_left, ne_eq]

theorem judgesReferences (root : Record) (known : String → Bool) :
    root.JudgesReferences known := by
  constructor
  case accepted => exact checkReferencesAgainst_eq_ok
  case refused =>
    intro error
    rw [checkReferencesAgainst, descendants_eq_preorder, checkAllRefs_eq_error]
  case monotone =>
    intro more included accepted
    rw [checkReferencesAgainst_eq_ok] at accepted ⊢
    exact fun record member ref isRef named =>
      included ref.2 (accepted record member ref isRef named)

/-- The verdict on a response, and on references alone for all known ids. -/
theorem checkResponse_judges (root : Record) :
    root.JudgesResponse ∧ ∀ known, root.JudgesReferences known := by
  have unfolded : root.checkResponse = (do
      checkUnique [] root.preorder
      root.checkReferencesAgainst (root.preorder.map (·.id)).contains) := by
    rw [checkResponse, descendants_eq_preorder]
  refine ⟨?_, root.judgesReferences⟩
  have references : (root.preorder.map (·.id)).Nodup → root.checkResponse =
      root.checkReferencesAgainst (root.preorder.map (·.id)).contains := by
    intro distinct
    rw [unfolded, checkUnique_eq_ok.mpr ⟨distinct, by simp⟩, ok_bind]
  constructor
  case accepted =>
    rw [checkResponse_eq_ok]
    simp only [or_iff_not_imp_left, ne_eq]
  case repeated =>
    intro repeated
    cases unique : checkUnique [] root.preorder with
    | ok => exact absurd (checkUnique_eq_ok.mp unique).1 repeated
    | error error =>
        rcases checkUnique_nil_eq_error.mp unique with ⟨record, first, rfl⟩
        refine ⟨record, first, ?_⟩
        rw [unfolded, unique]
        rfl
  case dangling =>
    intro distinct error
    rw [references distinct]
    exact (root.judgesReferences _).refused error
  case references => exact references

/-- Ids come before references: the record under the last role repeats the id of the root,
which already has a reference that leads nowhere. -/
example : checkResponse {
    id := "door"
    refs := .ofList [("initialState", "nowhere"), ("back", "door")]
    children := [("a", .one { id := "bolt" }), ("b", .many [{ id := "key" }, { id := "door" }])] } =
    .error (.duplicateId "door") := rfl

end Statechart.Record
