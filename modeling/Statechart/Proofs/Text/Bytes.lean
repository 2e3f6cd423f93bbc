import Mathlib.Algebra.GroupWithZero.Nat
import Mathlib.Tactic.SplitIfs

/-!
The order of texts. Texts are compared by the code points of their characters. In UTF-8 a
code point is cut into groups of six bits, the upper ones first, and the first byte is the
greater the more of them there are, so that comparing bytes gives the same order.
-/

namespace Statechart.Text

/-- The bytes of a text in UTF-8. -/
def bytes (text : String) : List UInt8 :=
  text.toUTF8.data.toList

theorem bytes_eq_flatMap (text : String) :
    bytes text = text.toList.flatMap String.utf8EncodeChar := by
  conv => lhs; rw [← String.ofList_toList (s := text)]
  exact List.toList_data_toByteArray

/-! ## Groups of bits -/

/-- A byte with the upper bits of a code point and a byte for each of the groups behind. -/
def groups (lead : Nat) : Nat → Nat → List UInt8
  | 0, code => [UInt8.ofNat (code + lead)]
  | more + 1, code => groups lead more (code / 64) ++ [UInt8.ofNat (code % 64 + 128)]

theorem length_groups (lead more code : Nat) : (groups lead more code).length = more + 1 := by
  induction more generalizing code with
  | zero => rfl
  | succ more induction =>
      rw [groups, List.length_append, induction]
      rfl

theorem exists_groups_eq_cons (lead more code : Nat) :
    ∃ behind, groups lead more code = UInt8.ofNat (code / 64 ^ more + lead) :: behind := by
  induction more generalizing code with
  | zero =>
      refine ⟨[], ?_⟩
      rw [Nat.pow_zero, Nat.div_one]
      rfl
  | succ more induction =>
      rcases induction (code / 64) with ⟨behind, same⟩
      refine ⟨behind ++ [UInt8.ofNat (code % 64 + 128)], ?_⟩
      rw [groups, same, Nat.pow_succ', ← Nat.div_div_eq_div_mul, List.cons_append]

theorem ofNat_lt {low high : Nat} (less : low < high) (fits : high < 256) :
    UInt8.ofNat low < UInt8.ofNat high :=
  (UInt8.ofNat_lt_iff_lt (Nat.lt_trans less fits) fits).mpr less

/-- What follows two lists of one length does not count when the lists differ. -/
theorem append_lt_append {left right : List UInt8} (sameLength : left.length = right.length)
    (less : left < right) (rest others : List UInt8) : left ++ rest < right ++ others := by
  induction left generalizing right with
  | nil =>
      cases right with
      | nil => cases less
      | cons byte right => cases sameLength
  | cons byte left induction =>
      cases right with
      | nil => cases sameLength
      | cons other right =>
          rw [List.cons_append, List.cons_append, List.cons_lt_cons_iff]
          rcases List.cons_lt_cons_iff.mp less with first | ⟨same, later⟩
          · exact .inl first
          · exact .inr ⟨same, induction (Nat.succ.inj sameLength) later⟩

/-- Among code points that are cut alike the greater one has the greater bytes. -/
theorem groups_lt {lead more low high : Nat} (less : low < high)
    (fits : high / 64 ^ more + lead < 256) : groups lead more low < groups lead more high := by
  induction more generalizing low high with
  | zero =>
      rw [Nat.pow_zero, Nat.div_one] at fits
      exact List.cons_lt_cons_iff.mpr (.inl (ofNat_lt (Nat.add_lt_add_right less lead) fits))
  | succ more induction =>
      rw [groups, groups]
      rcases Nat.lt_or_ge (low / 64) (high / 64) with upper | notUpper
      · rw [Nat.pow_succ', ← Nat.div_div_eq_div_mul] at fits
        have sameLength : (groups lead more (low / 64)).length =
            (groups lead more (high / 64)).length := by
          rw [length_groups, length_groups]
        exact append_lt_append sameLength (induction upper fits) _ _
      · have same : low / 64 = high / 64 := by omega
        have lower : UInt8.ofNat (low % 64 + 128) < UInt8.ofNat (high % 64 + 128) :=
          ofNat_lt (by omega) (by omega)
        rw [same]
        exact List.append_left_lt (List.cons_lt_cons_iff.mpr (.inl lower))

/-! ## Characters

A character takes the fewest bytes that its code point fits in. -/

def furtherBytes (code : Nat) : Nat :=
  if code ≤ 127 then 0 else if code ≤ 2047 then 1 else if code ≤ 65535 then 2 else 3

/-- What tells in the first byte how many others there are. -/
def leadMark (code : Nat) : Nat :=
  if code ≤ 127 then 0 else if code ≤ 2047 then 192 else if code ≤ 65535 then 224 else 240

def firstByte (code : Nat) : Nat :=
  code / 64 ^ furtherBytes code + leadMark code

theorem code_lt (character : Char) : character.val.toNat < 0x110000 := by
  rcases character.valid with low | ⟨-, high⟩
  · exact Nat.lt_trans low (by decide)
  · exact high

theorem utf8EncodeChar_eq_groups {character : Char} {code : Nat}
    (same : character.val.toNat = code) :
    String.utf8EncodeChar character = groups (leadMark code) (furtherBytes code) code := by
  have valid := code_lt character
  rw [same] at valid
  rw [String.utf8EncodeChar, same, leadMark, furtherBytes]
  split
  case isTrue => rfl
  case isFalse =>
    split
    case isTrue =>
      have small : code / 64 % 32 = code / 64 := by omega
      rw [small]
      rfl
    case isFalse =>
      split
      case isTrue =>
        have small : code / 4096 % 16 = code / 4096 := by omega
        simp [groups, small, Nat.div_div_eq_div_mul]
      case isFalse =>
        have small : code / 262144 % 8 = code / 262144 := by omega
        simp [groups, small, Nat.div_div_eq_div_mul]

theorem firstByte_lt {code : Nat} (valid : code < 0x110000) : firstByte code < 256 := by
  rw [firstByte, furtherBytes, leadMark]
  split_ifs <;> omega

/-- Two code points are cut alike, or the greater one has the greater first byte. -/
theorem cut_alike_or_firstByte_lt {low high : Nat} (less : low < high)
    (valid : high < 0x110000) :
    (furtherBytes low = furtherBytes high ∧ leadMark low = leadMark high) ∨
      firstByte low < firstByte high := by
  simp only [firstByte, furtherBytes, leadMark]
  split_ifs <;> omega

/-- The bytes of a lower character are less, whatever follows them. -/
theorem utf8EncodeChar_append_lt {left right : Char} (less : left < right)
    (rest others : List UInt8) :
    String.utf8EncodeChar left ++ rest < String.utf8EncodeChar right ++ others := by
  have lessCode : left.val.toNat < right.val.toNat := less
  have valid := code_lt right
  rw [utf8EncodeChar_eq_groups rfl, utf8EncodeChar_eq_groups rfl]
  generalize left.val.toNat = low at lessCode
  generalize right.val.toNat = high at lessCode valid
  have fits := firstByte_lt valid
  rcases cut_alike_or_firstByte_lt lessCode valid with ⟨sameFurther, sameLead⟩ | lower
  · rw [sameFurther, sameLead]
    have sameLength : (groups (leadMark high) (furtherBytes high) low).length =
        (groups (leadMark high) (furtherBytes high) high).length := by
      rw [length_groups, length_groups]
    exact append_lt_append sameLength (groups_lt lessCode fits) rest others
  · rcases exists_groups_eq_cons (leadMark low) (furtherBytes low) low with ⟨behind, lowGroups⟩
    rcases exists_groups_eq_cons (leadMark high) (furtherBytes high) high with
      ⟨behindToo, highGroups⟩
    rw [lowGroups, highGroups, List.cons_append, List.cons_append]
    exact List.cons_lt_cons_iff.mpr (.inl (ofNat_lt lower fits))

/-! ## Texts -/

theorem flatMap_utf8EncodeChar_lt {left right : List Char} (less : left < right) :
    left.flatMap String.utf8EncodeChar < right.flatMap String.utf8EncodeChar := by
  induction left generalizing right with
  | nil =>
      cases right with
      | nil => cases less
      | cons character right =>
          have someByte : String.utf8EncodeChar character ≠ [] := String.utf8EncodeChar_ne_nil
          rcases List.exists_cons_of_ne_nil someByte with ⟨byte, behind, same⟩
          rw [List.flatMap_cons, same]
          exact List.nil_lt_cons _ _
  | cons character left induction =>
      cases right with
      | nil => cases less
      | cons other right =>
          rw [List.flatMap_cons, List.flatMap_cons]
          rcases List.cons_lt_cons_iff.mp less with lower | ⟨rfl, later⟩
          · exact utf8EncodeChar_append_lt lower _ _
          · exact List.append_left_lt (induction later)

theorem bytes_lt {left right : String} (less : left < right) : bytes left < bytes right := by
  rw [bytes_eq_flatMap, bytes_eq_flatMap]
  exact flatMap_utf8EncodeChar_lt less

/-- The order of texts is the order of their bytes. -/
theorem lt_iff_bytes_lt {left right : String} : left < right ↔ bytes left < bytes right := by
  refine ⟨bytes_lt, fun less => Decidable.byContradiction fun notLess => ?_⟩
  by_cases greater : right < left
  · exact List.lt_asymm less (bytes_lt greater)
  · have same := String.le_antisymm (String.not_lt.mp greater) (String.not_lt.mp notLess)
    rw [same] at less
    exact List.lt_irrefl _ less

end Statechart.Text
