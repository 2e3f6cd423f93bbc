import Mathlib.Data.List.Basic
import Statechart.Json.Numeral
import Statechart.Json.Quotation

/-!
Scanning written tokens. A number is scanned from its digits up to the comma or
bracket that follows it, and a quoted text piece by piece: one piece for each of its
characters, whether that is written as itself or escaped.
-/

namespace Statechart.Json

/-! ## Numbers -/

/-- What can stand behind a value: nothing, a comma or a closing bracket. -/
def Delimited (rest : List Char) : Prop :=
  ∀ character ∈ rest.head?, character = ',' ∨ character = ']' ∨ character = '}'

theorem delimited_nil : Delimited [] := by
  intro character member
  cases member

theorem delimited_cons {character : Char} {rest : List Char}
    (closes : character = ',' ∨ character = ']' ∨ character = '}') :
    Delimited (character :: rest) := by
  intro head member
  cases member
  exact closes

theorem toDigits_head {number : Nat} (positive : 0 < number) :
    (Nat.toDigits 10 number).head? ≠ some '0' := by
  induction number using Nat.strongRecOn with
  | ind number induction =>
      by_cases small : number < 10
      · have digits : ∀ digit < 10, 0 < digit → [digit.digitChar].head? ≠ some '0' := by decide
        rw [Nat.toDigits_of_lt_base small]
        exact digits number small positive
      · rw [Nat.toDigits_of_base_le (by decide) (Nat.le_of_not_lt small),
          List.head?_append_of_ne_nil _ Nat.toDigits_ne_nil]
        exact induction (number / 10) (by omega) (by omega)

/-- The digits of a number stop where a value ends. -/
theorem span_digits (number : Nat) {rest : List Char} (delimited : Delimited rest) :
    (Nat.toDigits 10 number ++ rest).takeWhile Char.isDigit = Nat.toDigits 10 number ∧
      (Nat.toDigits 10 number ++ rest).dropWhile Char.isDigit = rest := by
  have digits : ∀ digit ∈ Nat.toDigits 10 number, digit.isDigit = true :=
    fun digit member => Nat.isDigit_of_mem_toDigits (by decide) (by decide) member
  rw [List.takeWhile_append_of_pos digits, List.dropWhile_append_of_pos digits]
  cases rest with
  | nil => simp
  | cons character rest =>
      have stops : character.isDigit = false := by
        rcases delimited character rfl with rfl | rfl | rfl <;> rfl
      simp [stops]

theorem scanFraction_delimited (token : NumberToken) {rest : List Char}
    (delimited : Delimited rest) : scanFraction token rest = (.number token.classify, rest) := by
  cases rest with
  | nil => rfl
  | cons character rest =>
      rcases delimited character rfl with rfl | rfl | rfl <;> rfl

theorem scanNumber_toDigits (value : UInt64) {rest : List Char} (delimited : Delimited rest) :
    scanNumber false (Nat.toDigits 10 value.toNat ++ rest) = (.number (.word value), rest) := by
  rcases span_digits value.toNat delimited with ⟨digits, left⟩
  have noLeadingZero : ((Nat.toDigits 10 value.toNat).head? = some '0' &&
      (Nat.toDigits 10 value.toNat).length > 1) = false := by
    by_cases zero : value.toNat = 0
    · rw [zero]
      decide
    · simp [toDigits_head (Nat.pos_of_ne_zero zero)]
  have isWord : NumberToken.classify ⟨false, Nat.toDigits 10 value.toNat, none, none⟩ =
      .word value := by
    simp [NumberToken.classify, value.toNat_lt_size]
  rw [scanNumber, digits, left, noLeadingZero, scanFraction_delimited _ delimited, isWord]
  simp [Nat.toDigits_ne_nil]

/-! ## Quoted texts -/

/-- The piece that is scanned from a written character. -/
def pieceOf (character : Char) : Piece :=
  if (escape character).length = 6 then .unit character.toNat else .character character

theorem hexUnit?_digitChars : ∀ number < 0x20,
    hexUnit? '0' '0' (Nat.digitChar (number / 16)) (Nat.digitChar (number % 16)) =
      some number := by
  decide

/-- A character that needs no escape. -/
theorem scanPieces_plain {character : Char} (notQuote : character ≠ '"')
    (notBackslash : character ≠ '\\') (printable : ¬character.toNat < 0x20) (rest : List Char) :
    scanPieces (character :: rest) = addPiece (.character character) (scanPieces rest) := by
  rw [scanPieces.eq_def]
  split
  case h_1 same => cases same
  case h_2 same => exact absurd (List.cons.inj same).1 notQuote
  case h_3 same => exact absurd (List.cons.inj same).1 notBackslash
  case h_4 same => exact absurd (List.cons.inj same).1 notBackslash
  case h_5 same => exact absurd (List.cons.inj same).1 notBackslash
  case h_6 same => exact absurd (List.cons.inj same).1 notBackslash
  case h_7 same =>
    rcases List.cons.inj same with ⟨rfl, rfl⟩
    exact if_neg printable

theorem scanPieces_escape (character : Char) (rest : List Char) :
    scanPieces (escape character ++ rest) = addPiece (pieceOf character) (scanPieces rest) := by
  unfold pieceOf escape
  split
  case isTrue quote => subst quote; rfl
  split
  case isTrue backslash => subst backslash; rfl
  split
  case isTrue backspace => subst backspace; rfl
  split
  case isTrue formFeed => subst formFeed; rfl
  split
  case isTrue newline => subst newline; rfl
  split
  case isTrue carriageReturn => subst carriageReturn; rfl
  split
  case isTrue tab => subst tab; rfl
  split
  case isTrue control =>
    have digits := hexUnit?_digitChars character.toNat control
    simp only [List.cons_append, List.nil_append]
    rw [scanPieces, digits]
    rfl
  case isFalse notQuote notBackslash _ _ _ _ _ printable =>
    exact scanPieces_plain notQuote notBackslash printable rest

theorem scanPieces_written (characters rest : List Char) :
    scanPieces (characters.flatMap escape ++ '"' :: rest) =
      (characters.map pieceOf, .ok rest) := by
  induction characters with
  | nil => rw [List.flatMap_nil, List.nil_append, scanPieces, List.map_nil]
  | cons character characters induction =>
      rw [List.flatMap_cons, List.append_assoc, scanPieces_escape, induction]
      rfl

/-- Only control characters are escaped by their number. -/
theorem pieceOf_cases (character : Char) : pieceOf character = .character character ∨
    character.toNat < 0x20 ∧ pieceOf character = .unit character.toNat := by
  by_cases control : character.toNat < 0x20
  · by_cases long : (escape character).length = 6
    · exact .inr ⟨control, if_pos long⟩
    · exact .inl (if_neg long)
  · have short : (escape character).length ≤ 2 := by
      unfold escape
      rw [if_neg control]
      split_ifs <;> simp
    exact .inl (if_neg (by omega))

/-- A control character is no half of a pair, whatever follows it. -/
theorem join_control {number : Nat} (control : number < 0x20) (pieces : List Piece) :
    join (.unit number :: pieces) = (Char.ofNat number :: ·) <$> join pieces := by
  have notTrailing : isTrailingHalf number = false := by
    simp [isTrailingHalf]
    omega
  have notLeading : isLeadingHalf number = false := by
    simp [isLeadingHalf]
    omega
  rw [join.eq_def]
  cases pieces with
  | nil =>
      simp only [notTrailing, notLeading]
      rfl
  | cons piece pieces =>
      cases piece <;>
        simp only [notTrailing, notLeading] <;> rfl

theorem join_pieceOf (characters : List Char) : join (characters.map pieceOf) = .ok characters := by
  induction characters with
  | nil => rfl
  | cons character characters induction =>
      rw [List.map_cons]
      rcases pieceOf_cases character with plain | ⟨control, escaped⟩
      · rw [plain, join, induction]
        rfl
      · rw [escaped, join_control control, induction, Char.ofNat_toNat]
        rfl

theorem scanQuotation_written (value : String) (rest : List Char) :
    scanQuotation (value.toList.flatMap escape ++ '"' :: rest) = .closed (some value) rest := by
  rw [scanQuotation, scanPieces_written]
  simp only [join_pieceOf, String.ofList_toList]

end Statechart.Json
