import Statechart.Record.Check
import Statechart.Proofs.Outcome
import Statechart.Proofs.Record.Traversal

/-!
What the checks on a response accept: trees in which no id occurs twice and every
reference that is not empty names a known id.
-/

namespace Statechart.Record

theorem checkUnique_eq_ok {seen : List String} {records : List Record} :
    checkUnique seen records = .ok () ↔
      (records.map (·.id)).Nodup ∧ ∀ record ∈ records, record.id ∉ seen := by
  induction records generalizing seen with
  | nil => simp [checkUnique]
  | cons record records induction =>
      rw [checkUnique, List.map_cons, List.nodup_cons, List.mem_map, List.forall_mem_cons]
      by_cases repeated : record.id ∈ seen
      · simp [repeated]
      · rw [if_neg (by simpa using repeated), induction]
        constructor
        · intro unique
          rcases unique with ⟨distinct, unseen⟩
          have notRepeated : ¬∃ other ∈ records, other.id = record.id := by
            intro found
            rcases found with ⟨other, member, same⟩
            exact unseen other member (by simp [same])
          have stillUnseen : ∀ other ∈ records, other.id ∉ seen :=
            fun other member known => unseen other member (List.mem_cons_of_mem _ known)
          exact ⟨⟨notRepeated, distinct⟩, repeated, stillUnseen⟩
        · intro unique
          rcases unique with ⟨⟨notRepeated, distinct⟩, -, unseen⟩
          refine ⟨distinct, ?_⟩
          intro other member known
          rcases List.mem_cons.mp known with same | known
          · exact notRepeated ⟨other, member, same⟩
          · exact unseen other member known

theorem checkRefs_eq_ok {known : String → Bool} {refs : List (String × String)} :
    checkRefs known refs = .ok () ↔ ∀ ref ∈ refs, ref.2 = "" ∨ known ref.2 = true := by
  induction refs with
  | nil => simp [checkRefs]
  | cons ref refs induction =>
      rcases ref with ⟨role, id⟩
      rw [checkRefs]
      by_cases empty : id = "" <;> cases recognised : known id <;>
        simp [empty, recognised, induction]

theorem checkAllRefs_eq_ok {known : String → Bool} {records : List Record} :
    checkAllRefs known records = .ok () ↔
      ∀ record ∈ records, ∀ ref ∈ record.refs.entries, ref.2 = "" ∨ known ref.2 = true := by
  induction records with
  | nil => simp [checkAllRefs]
  | cons record records induction =>
      simp [checkAllRefs, check_bind_eq_ok, checkRefs_eq_ok, induction]

theorem checkResponse_eq_ok {root : Record} :
    root.checkResponse = .ok () ↔
      (root.preorder.map (·.id)).Nodup ∧
        ∀ record ∈ root.preorder, ∀ ref ∈ record.refs.entries,
          ref.2 = "" ∨ ref.2 ∈ root.preorder.map (·.id) := by
  simp [checkResponse, checkReferencesAgainst, check_bind_eq_ok, checkUnique_eq_ok,
    checkAllRefs_eq_ok, descendants_eq_preorder]

end Statechart.Record
