import Statechart.Record.Traversal

/-!
The walk with a stack meets the records of a tree in the order in which they are
written. Whatever is on the stack is visited with everything below it before the
next record on the stack is.
-/

namespace Statechart.Record

/-- The records directly below a record, role by role. -/
def parts (record : Record) : List Record :=
  record.children.flatMap fun entry => entry.2.toList

/-! ## The recursive order by parts -/

theorem preorderOfAll_eq_flatMap (records : List Record) :
    preorderOfAll records = records.flatMap (·.preorder) := by
  induction records with
  | nil => rfl
  | cons record records induction => rw [preorderOfAll, induction, List.flatMap_cons]

theorem preorderOfRoles_eq_flatMap (roles : List (String × Child Record)) :
    preorderOfRoles roles = (roles.flatMap fun entry => entry.2.toList).flatMap (·.preorder) := by
  induction roles with
  | nil => rfl
  | cons entry roles induction =>
      rcases entry with ⟨role, record | records⟩
      · rw [preorderOfRoles, induction]
        rfl
      · rw [preorderOfRoles, induction, preorderOfAll_eq_flatMap, List.flatMap_cons,
          List.flatMap_append]
        rfl

theorem preorder_eq_cons (record : Record) :
    record.preorder = record :: record.parts.flatMap (·.preorder) := by
  cases record
  rw [preorder, preorderOfRoles_eq_flatMap]
  rfl

/-- In front of others a record makes room for its parts. -/
theorem flatMap_preorder_cons (record : Record) (others : List Record) :
    (record :: others).flatMap (·.preorder) =
      record :: (record.parts ++ others).flatMap (·.preorder) := by
  rw [List.flatMap_cons, preorder_eq_cons, List.flatMap_append, List.cons_append]

theorem sizeOfAll_append (records others : List Record) :
    sizeOfAll (records ++ others) = sizeOfAll records + sizeOfAll others := by
  induction records with
  | nil => simp [sizeOfAll]
  | cons record records induction => simp [sizeOfAll, induction, Nat.add_assoc]

theorem sizeOfRoles_eq (roles : List (String × Child Record)) :
    sizeOfRoles roles = sizeOfAll (roles.flatMap fun entry => entry.2.toList) := by
  induction roles with
  | nil => rfl
  | cons entry roles induction =>
      rcases entry with ⟨role, record | records⟩
      · rw [sizeOfRoles, induction, List.flatMap_cons, sizeOfAll_append]
        rfl
      · rw [sizeOfRoles, induction, List.flatMap_cons, sizeOfAll_append]
        rfl

theorem size_eq_succ (record : Record) : record.size = sizeOfAll record.parts + 1 := by
  cases record
  rw [size, sizeOfRoles_eq]
  rfl

/-! ## The walk -/

theorem foldl_push (records stack : List Record) :
    records.reverse.foldl push stack = records ++ stack := by
  induction records generalizing stack with
  | nil => rfl
  | cons record records induction => simp [List.foldl_append, induction, push]

/-- Pushed back to front, the parts of a record lie on the stack in their order. -/
theorem pushChildren_eq_append (record : Record) (stack : List Record) :
    record.pushChildren stack = record.parts ++ stack := by
  rw [pushChildren, parts]
  induction record.children generalizing stack with
  | nil => rfl
  | cons entry roles induction =>
      rw [List.reverse_cons, List.foldl_append, induction, List.foldl_cons, List.foldl_nil,
        foldl_push, List.flatMap_cons, List.append_assoc]

/-- With a visit for each record below the stack the walk meets all of them. -/
theorem walk_eq_flatMap (visits : Nat) (stack : List Record) (enough : sizeOfAll stack ≤ visits) :
    walk visits stack = stack.flatMap (·.preorder) := by
  induction visits generalizing stack with
  | zero =>
      cases stack with
      | nil => rfl
      | cons record stack =>
          rw [sizeOfAll, size_eq_succ] at enough
          omega
  | succ visits induction =>
      cases stack with
      | nil => rfl
      | cons record stack =>
          rw [sizeOfAll, size_eq_succ] at enough
          have enoughLeft : sizeOfAll (record.parts ++ stack) ≤ visits := by
            rw [sizeOfAll_append]
            omega
          rw [walk, pushChildren_eq_append, induction _ enoughLeft, flatMap_preorder_cons]

theorem descendants_eq_preorder (record : Record) : record.descendants = record.preorder := by
  have enough : sizeOfAll [record] ≤ record.size := Nat.le_of_eq (Nat.add_zero record.size)
  rw [descendants, walk_eq_flatMap record.size [record] enough]
  exact List.flatMap_singleton _ record

end Statechart.Record
