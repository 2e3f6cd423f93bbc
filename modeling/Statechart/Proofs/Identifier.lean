import Mathlib.Algebra.GroupWithZero.Nat
import Statechart.Identifier

/-!
Ids are told apart by their numbers. The number follows the last dash, whatever
the word in front of it looks like.
-/

namespace Statechart.IdSource

theorem digits_injective {left right : Nat} (same : Nat.toDigits 10 left = Nat.toDigits 10 right) :
    left = right := by
  have read := congrArg (fun digits => Nat.ofDigitChars 10 digits 0) same
  simpa using read

theorem dash_not_mem_digits (number : Nat) : '-' ∉ Nat.toDigits 10 number := by
  intro member
  have digit := Nat.isDigit_of_mem_toDigits (by decide) (by decide) member
  cases digit

theorem toList_numbered (kind : String) (number : Nat) :
    (kind ++ "-" ++ toString number).toList = kind.toList ++ '-' :: Nat.toDigits 10 number := by
  simp [Nat.toString_eq_repr, Nat.toList_repr]

theorem idAt_toList (kind : String) (number : UInt64) :
    (idAt kind number).toList = kind.toList ++ '-' :: Nat.toDigits 10 number.toNat :=
  toList_numbered kind number.toNat

theorem idAt_ne_empty (kind : String) (number : UInt64) : idAt kind number ≠ "" := by
  intro empty
  have lists := congrArg String.toList empty
  rw [idAt_toList] at lists
  exact List.append_ne_nil_of_right_ne_nil _ (List.cons_ne_nil _ _) lists

/-- What stands between two dashes that both are the last one is nothing. -/
theorem eq_nil_of_last_dash {between leftDigits rightDigits : List Char}
    (plain : '-' ∉ leftDigits) (same : '-' :: leftDigits = between ++ '-' :: rightDigits) :
    between = [] := by
  cases between with
  | nil => rfl
  | cons head between =>
      have rest : leftDigits = between ++ '-' :: rightDigits := (List.cons.inj same).2
      rw [rest] at plain
      exact absurd (List.mem_append_right between List.mem_cons_self) plain

/-- A list is split at its last dash in one way. -/
theorem split_at_last_dash {left right leftDigits rightDigits : List Char}
    (leftPlain : '-' ∉ leftDigits) (rightPlain : '-' ∉ rightDigits)
    (same : left ++ '-' :: leftDigits = right ++ '-' :: rightDigits) :
    left = right ∧ leftDigits = rightDigits := by
  have sameKind : left = right := by
    rcases List.append_eq_append_iff.mp same with ⟨between, rfl, rest⟩ | ⟨between, rfl, rest⟩
    · rw [eq_nil_of_last_dash leftPlain rest, List.append_nil]
    · rw [eq_nil_of_last_dash rightPlain rest, List.append_nil]
  rw [sameKind] at same
  exact ⟨sameKind, (List.cons.inj (List.append_cancel_left same)).2⟩

theorem idAt_inj {kind other : String} {number otherNumber : UInt64}
    (same : idAt kind number = idAt other otherNumber) : kind = other ∧ number = otherNumber := by
  have lists := congrArg String.toList same
  rw [idAt_toList, idAt_toList] at lists
  rcases split_at_last_dash (dash_not_mem_digits _) (dash_not_mem_digits _) lists with
    ⟨sameKind, sameDigits⟩
  exact ⟨String.toList_injective sameKind, UInt64.toNat_inj.mp (digits_injective sameDigits)⟩

/-! As long as numbers do not run out, counting on from a number is adding to it. -/

theorem toNat_add_ofNat {start : UInt64} {offset : Nat} (room : start.toNat + offset < 2 ^ 64) :
    (start + UInt64.ofNat offset).toNat = start.toNat + offset := by
  rw [UInt64.toNat_add, UInt64.toNat_ofNat', Nat.mod_eq_of_lt (by omega : offset < 2 ^ 64),
    Nat.mod_eq_of_lt room]

theorem idAt_add {start : UInt64} {offset : Nat} (kind : String)
    (room : start.toNat + offset < 2 ^ 64) :
    idAt kind (start + UInt64.ofNat offset) = kind ++ "-" ++ toString (start.toNat + offset) := by
  rw [idAt, toNat_add_ofNat room]

/-! ## Ids with consecutive numbers -/

/-- As many ids as there are numbers from `start` on, one id for each. -/
structure GivenOut (start : UInt64) (ids : List String) : Prop where
  numbered : ∀ id ∈ ids, ∃ kind offset, offset < ids.length ∧
    id = idAt kind (start + UInt64.ofNat offset)
  nodup : ids.length ≤ 2 ^ 64 → ids.Nodup

variable {start : UInt64} {ids others : List String}

theorem givenOut_nil (start : UInt64) : GivenOut start [] :=
  ⟨by simp, by simp⟩

theorem givenOut_singleton (kind : String) (start : UInt64) : GivenOut start [idAt kind start] where
  numbered id member := by
    cases List.mem_singleton.mp member
    exact ⟨kind, 0, Nat.one_pos, congrArg (idAt kind) (UInt64.add_zero start).symm⟩
  nodup _ := by simp

/-- Later numbers are other numbers. -/
theorem GivenOut.append (given : GivenOut start ids)
    (later : GivenOut (start + UInt64.ofNat ids.length) others) :
    GivenOut start (ids ++ others) where
  numbered := by
    intro id member
    rw [List.length_append]
    rcases List.mem_append.mp member with first | second
    · rcases given.numbered id first with ⟨kind, offset, inRange, same⟩
      exact ⟨kind, offset, by omega, same⟩
    · rcases later.numbered id second with ⟨kind, offset, inRange, same⟩
      refine ⟨kind, ids.length + offset, by omega, ?_⟩
      rw [same, UInt64.ofNat_add, UInt64.add_assoc]
  nodup := by
    intro room
    rw [List.length_append] at room
    refine List.nodup_append.mpr ⟨given.nodup (by omega), later.nodup (by omega), ?_⟩
    intro id first other second same
    subst same
    rcases given.numbered id first with ⟨_, offset, inRange, asFirst⟩
    rcases later.numbered id second with ⟨_, laterOffset, laterInRange, asSecond⟩
    have sameNumber := (idAt_inj (asFirst.symm.trans asSecond)).2
    rw [UInt64.add_assoc, ← UInt64.ofNat_add, UInt64.add_right_inj] at sameNumber
    have sameOffset := congrArg UInt64.toNat sameNumber
    have small : offset < 2 ^ 64 := by omega
    have laterSmall : ids.length + laterOffset < 2 ^ 64 := by omega
    rw [UInt64.toNat_ofNat_of_lt' small, UInt64.toNat_ofNat_of_lt' laterSmall] at sameOffset
    omega

theorem GivenOut.perm (given : GivenOut start ids) (same : others.Perm ids) :
    GivenOut start others where
  numbered := by
    intro id member
    rcases given.numbered id (same.mem_iff.mp member) with ⟨kind, offset, inRange, named⟩
    exact ⟨kind, offset, by rwa [same.length_eq], named⟩
  nodup := by
    intro room
    rw [same.length_eq] at room
    exact same.nodup_iff.mpr (given.nodup room)

/-- One id more, with the next number. -/
theorem GivenOut.mint (given : GivenOut start ids) {kind : String}
    (more : others.Perm (idAt kind (start + UInt64.ofNat ids.length) :: ids)) :
    GivenOut start others :=
  (given.append (givenOut_singleton kind _)).perm
    (more.trans (List.perm_append_singleton _ _).symm)

theorem GivenOut.ne_empty (given : GivenOut start ids) : ∀ id ∈ ids, id ≠ "" := by
  intro id member
  rcases given.numbered id member with ⟨kind, offset, -, rfl⟩
  exact idAt_ne_empty kind _

end Statechart.IdSource
