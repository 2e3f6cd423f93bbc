import Statechart.Json.Codec
import Statechart.Proofs.Outcome

/-!
Values without a tag. Nothing in a text says which kind of value it holds, so one way
of reading it is attempted after the other, and the first that succeeds decides. Where
no two of them read the same text the order makes no difference.
-/

namespace Statechart.Json

variable {α : Type}

/-- A way to read a value. -/
abbrev Attempt (α : Type) := Nat → Reading → Except Fault α

namespace Attempt

/-- Nothing is read in both ways. -/
def Excludes (first second : Attempt α) : Prop :=
  ∀ room reading value other, first room reading = .ok value → second room reading ≠ .ok other

theorem Excludes.symm {first second : Attempt α} (excludes : first.Excludes second) :
    second.Excludes first :=
  fun room reading value other readSecond readFirst =>
    excludes room reading other value readFirst readSecond

/-- Ways of reading exclude each other when each of them wants another kind of outline. -/
theorem exclusive_of_kinds {attempts : List (Attempt α)} {kinds : List Nat}
    (wants : List.Forall₂ (fun (attempt : Attempt α) kind => ∀ room reading value,
      attempt room reading = .ok value → reading.ctorIdx = kind) attempts kinds)
    (distinct : kinds.Nodup) : attempts.Pairwise Excludes := by
  induction wants with
  | nil => exact .nil
  | @cons attempt kind attempts kinds own others induction =>
      rcases List.nodup_cons.mp distinct with ⟨fresh, distinct⟩
      refine List.pairwise_cons.mpr ⟨?_, induction distinct⟩
      intro later member room reading value other read readLater
      rcases List.forall₂_iff_get.mp others with ⟨sameLength, wantsAt⟩
      rcases List.mem_iff_get.mp member with ⟨position, rfl⟩
      have inRange : position < kinds.length := sameLength ▸ position.isLt
      have kindLater := wantsAt position position.isLt inRange room reading other readLater
      rw [own room reading value read] at kindLater
      exact fresh (kindLater ▸ List.get_mem kinds ⟨position, inRange⟩)

def tryEach : List (Attempt α) → Attempt α
  | [], _, _ => .error .mismatched
  | attempt :: others, room, reading =>
      match attempt room reading with
      | .ok value => .ok value
      | .error _ => tryEach others room reading

/-- The value is read whole before anything is attempted. -/
def untagged (attempts : List (Attempt α)) : Attempt α :=
  fun room reading => do
    reading.whole room
    tryEach attempts room reading

variable {attempts others : List (Attempt α)} {room : Nat} {reading : Reading}

theorem tryEach_eq_error {fault : Fault} (failed : tryEach attempts room reading = .error fault) :
    fault = .mismatched := by
  induction attempts with
  | nil =>
      cases failed
      rfl
  | cons attempt others induction =>
      rw [tryEach] at failed
      split at failed
      case h_1 => cases failed
      case h_2 => exact induction failed

/-- Among attempts that exclude each other any that succeeds decides. -/
theorem tryEach_eq_ok (exclusive : attempts.Pairwise Excludes) {value : α} :
    tryEach attempts room reading = .ok value ↔
      ∃ attempt ∈ attempts, attempt room reading = .ok value := by
  induction attempts with
  | nil => simp [tryEach]
  | cons attempt others induction =>
      rcases List.pairwise_cons.mp exclusive with ⟨excludesOthers, exclusiveOthers⟩
      rw [tryEach, List.exists_mem_cons_iff]
      cases read : attempt room reading with
      | ok found =>
          constructor
          · exact .inl
          · rintro (same | ⟨other, member, readOther⟩)
            · exact same
            · exact absurd readOther (excludesOthers other member room reading found value read)
      | error fault =>
          rw [induction exclusiveOthers]
          simp

theorem tryEach_perm (same : others.Perm attempts) (exclusive : attempts.Pairwise Excludes) :
    tryEach others room reading = tryEach attempts room reading := by
  have exclusiveOthers : others.Pairwise Excludes :=
    (same.pairwise_iff fun excludes => excludes.symm).mpr exclusive
  have sameValues : ∀ value, tryEach others room reading = .ok value ↔
      tryEach attempts room reading = .ok value := by
    intro value
    rw [tryEach_eq_ok exclusiveOthers, tryEach_eq_ok exclusive]
    simp only [same.mem_iff]
  cases read : tryEach others room reading with
  | ok value => exact ((sameValues value).mp read).symm
  | error fault =>
      cases readToo : tryEach attempts room reading with
      | ok value =>
          rw [(sameValues value).mpr readToo] at read
          cases read
      | error other => rw [tryEach_eq_error read, tryEach_eq_error readToo]

end Attempt

open Attempt

/-- The codec finds out which one of several kinds of values it is given, and in whichever
order it would look for them, it would find the same. -/
structure Codec.Untagged (codec : Codec α) (attempts : List (Attempt α)) : Prop where
  exclusive : attempts.Pairwise Excludes
  anyOrder : ∀ others : List (Attempt α), others.Perm attempts →
    ∀ room reading, codec.decode room reading = untagged others room reading

theorem Codec.untagged_of_exclusive {codec : Codec α} {attempts : List (Attempt α)}
    (exclusive : attempts.Pairwise Excludes)
    (decode : ∀ room reading, codec.decode room reading = untagged attempts room reading) :
    codec.Untagged attempts where
  exclusive := exclusive
  anyOrder others same room reading := by
    rw [decode, untagged, untagged, tryEach_perm same exclusive]

end Statechart.Json
