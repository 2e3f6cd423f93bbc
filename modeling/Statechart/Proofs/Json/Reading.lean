import Statechart.Json.Reader
import Statechart.Proofs.Json.Scanning

/-!
Reading what was written. The outline of a written text is that of its value, and
what follows the value is left over. The readers of values, items and members are
followed together; the text that is left to read bounds their calls.
-/

namespace Statechart.Json

/-! ## Where a written value begins -/

theorem skipBlanks_cons {character : Char} (printable : isBlank character = false)
    (rest : List Char) : skipBlanks (character :: rest) = character :: rest := by
  simp [skipBlanks, printable]

theorem isDigit_toDigits_head {number : Nat} {digit : Char} {digits : List Char}
    (written : Nat.toDigits 10 number = digit :: digits) : digit.isDigit = true :=
  Nat.isDigit_of_mem_toDigits (by decide) (by decide) (written ▸ List.mem_cons_self)

/-- A digit is none of the characters that a reader looks for. -/
theorem ne_of_isDigit {digit other : Char} (isDigit : digit.isDigit = true)
    (notDigit : other.isDigit = false) : digit ≠ other := by
  rintro rfl
  rw [isDigit] at notDigit
  cases notDigit

theorem isBlank_digit {digit : Char} (isDigit : digit.isDigit = true) : isBlank digit = false := by
  simp [isBlank, ne_of_isDigit isDigit (by decide : ' '.isDigit = false),
    ne_of_isDigit isDigit (by decide : '\t'.isDigit = false),
    ne_of_isDigit isDigit (by decide : '\n'.isDigit = false),
    ne_of_isDigit isDigit (by decide : '\r'.isDigit = false)]

/-- A written value begins with neither a blank nor a closing bracket. -/
theorem write_eq_cons (json : Json) (rest : List Char) :
    ∃ first text, json.write rest = first :: text ∧ isBlank first = false ∧ first ≠ ']' := by
  cases json with
  | null => exact ⟨'n', _, rfl, rfl, by decide⟩
  | flag value => cases value <;> exact ⟨_, _, rfl, rfl, by decide⟩
  | number value =>
      cases written : Nat.toDigits 10 value.toNat with
      | nil => exact absurd written Nat.toDigits_ne_nil
      | cons digit digits =>
          have isDigit := isDigit_toDigits_head written
          refine ⟨digit, digits ++ rest, ?_, isBlank_digit isDigit, ?_⟩
          · rw [write, written, List.cons_append]
          · exact ne_of_isDigit isDigit (by decide)
  | text value => exact ⟨'"', _, rfl, rfl, by decide⟩
  | list items => cases items <;> exact ⟨'[', _, rfl, rfl, by decide⟩
  | object members =>
      rcases members with _ | ⟨⟨key, value⟩, members⟩ <;> exact ⟨'{', _, rfl, rfl, by decide⟩

theorem delimited_writeItems (items : List Json) (rest : List Char) :
    Delimited (writeItems items rest) := by
  cases items <;> exact delimited_cons (by decide)

theorem delimited_writeMembers (members : List (String × Json)) (rest : List Char) :
    Delimited (writeMembers members rest) := by
  rcases members with _ | ⟨⟨key, value⟩, members⟩ <;> exact delimited_cons (by decide)

/-! ## One step of each reader -/

theorem readValue_number {bound : Nat} (value : UInt64) {rest : List Char}
    (delimited : Delimited rest) :
    readValue (bound + 1) (Nat.toDigits 10 value.toNat ++ rest) = (.number (.word value), rest) := by
  have scanned := scanNumber_toDigits value delimited
  cases written : Nat.toDigits 10 value.toNat with
  | nil => exact absurd written Nat.toDigits_ne_nil
  | cons digit digits =>
      have isDigit := isDigit_toDigits_head written
      rw [written, List.cons_append] at scanned
      rw [List.cons_append, readValue.eq_def]
      simp only [skipBlanks_cons (isBlank_digit isDigit)]
      split <;> simp_all

theorem readValue_text {bound : Nat} (value : String) (rest : List Char) :
    readValue (bound + 1) (writeText value rest) = (.text (some value), rest) := by
  rw [readValue, writeText, skipBlanks_cons (by decide)]
  simp only [scanQuotation_written]

theorem readMember_writeText {bound : Nat} (key : String) (rest : List Char) :
    readMember (bound + 1) (writeText key (':' :: rest)) =
      (.next (some key) (readValue bound rest).1 (readMembers bound (readValue bound rest).2).1,
        (readMembers bound (readValue bound rest).2).2) := by
  rw [readMember, writeText, skipBlanks_cons (by decide)]
  simp only [scanQuotation_written, skipBlanks_cons (by decide : isBlank ':' = false)]

theorem readValue_list {bound : Nat} {first : Char} {text : List Char}
    (printable : isBlank first = false) (notClosing : first ≠ ']') :
    readValue (bound + 1) ('[' :: first :: text) =
      (.list (.next (readValue bound (first :: text)).1
          (readItems bound (readValue bound (first :: text)).2).1),
        (readItems bound (readValue bound (first :: text)).2).2) := by
  rw [readValue, skipBlanks_cons (by decide)]
  simp only [skipBlanks_cons printable]
  split <;> simp_all

theorem readValue_object {bound : Nat} (key : String) (rest : List Char) :
    readValue (bound + 1) ('{' :: writeText key rest) =
      (.object (readMember bound (writeText key rest)).1,
        (readMember bound (writeText key rest)).2) := by
  rw [readValue, skipBlanks_cons (by decide)]
  simp only [writeText, skipBlanks_cons (by decide : isBlank '"' = false)]
  rfl

/-! ## Whole values -/

theorem length_writeText (value : String) (rest : List Char) :
    rest.length + 2 ≤ (writeText value rest).length := by
  simp only [writeText, List.length_cons, List.length_append]
  omega

mutual
theorem length_lt_write (json : Json) (rest : List Char) :
    rest.length < (json.write rest).length := by
  cases json with
  | null => simp only [write, List.length_cons]; omega
  | flag value => cases value <;> (simp only [write, List.length_cons]; omega)
  | number value =>
      have digits : 0 < (Nat.toDigits 10 value.toNat).length := Nat.length_toDigits_pos
      simp only [write, List.length_append]
      omega
  | text value =>
      have longer := length_writeText value rest
      simp only [write]
      omega
  | list items =>
      cases items with
      | nil => simp only [write, List.length_cons]; omega
      | cons item items =>
          have first := length_lt_write item (writeItems items rest)
          have others := length_lt_writeItems items rest
          simp only [write, List.length_cons]
          omega
  | object members =>
      rcases members with _ | ⟨⟨key, value⟩, members⟩
      · simp only [write, List.length_cons]
        omega
      · have own := length_writeText key (':' :: value.write (writeMembers members rest))
        have first := length_lt_write value (writeMembers members rest)
        have others := length_lt_writeMembers members rest
        simp only [write, List.length_cons] at own ⊢
        omega

theorem length_lt_writeItems (items : List Json) (rest : List Char) :
    rest.length < (writeItems items rest).length := by
  cases items with
  | nil => simp only [writeItems, List.length_cons]; omega
  | cons item items =>
      have first := length_lt_write item (writeItems items rest)
      have others := length_lt_writeItems items rest
      simp only [writeItems, List.length_cons]
      omega

theorem length_lt_writeMembers (members : List (String × Json)) (rest : List Char) :
    rest.length < (writeMembers members rest).length := by
  rcases members with _ | ⟨⟨key, value⟩, members⟩
  · simp only [writeMembers, List.length_cons]
    omega
  · have own := length_writeText key (':' :: value.write (writeMembers members rest))
    have first := length_lt_write value (writeMembers members rest)
    have others := length_lt_writeMembers members rest
    simp only [writeMembers, List.length_cons] at own ⊢
    omega
end

mutual
theorem readValue_write (json : Json) {bound : Nat} {rest : List Char}
    (enough : (json.write rest).length < bound) (delimited : Delimited rest) :
    readValue bound (json.write rest) = (Reading.ofJson json, rest) := by
  cases bound with
  | zero => cases enough
  | succ bound =>
      cases json with
      | null => rfl
      | flag value => cases value <;> rfl
      | number value => exact readValue_number value delimited
      | text value => exact readValue_text value rest
      | list items =>
          cases items with
          | nil => rfl
          | cons item items =>
              have length : (item.write (writeItems items rest)).length < bound := by
                simpa [write] using enough
              have shorter := length_lt_write item (writeItems items rest)
              have first := readValue_write item length (delimited_writeItems items rest)
              have others := readItems_write items (Nat.lt_trans shorter length)
              rcases write_eq_cons item (writeItems items rest) with
                ⟨head, text, written, printable, notClosing⟩
              rw [write, written, readValue_list printable notClosing, ← written, first]
              simp only [others]
              rfl
      | object members =>
          rcases members with _ | ⟨⟨key, value⟩, members⟩
          · rfl
          · have length : (writeText key
                (':' :: value.write (writeMembers members rest))).length < bound := by
              simpa [write] using enough
            rw [write, readValue_object, readMember_write key value members length]
            rfl
termination_by bound

theorem readItems_write (items : List Json) {bound : Nat} {rest : List Char}
    (enough : (writeItems items rest).length < bound) :
    readItems bound (writeItems items rest) = (Items.ofJson items, rest) := by
  cases bound with
  | zero => cases enough
  | succ bound =>
      cases items with
      | nil => rfl
      | cons item items =>
          have length : (item.write (writeItems items rest)).length < bound := by
            simpa [writeItems] using enough
          have shorter := length_lt_write item (writeItems items rest)
          have first := readValue_write item length (delimited_writeItems items rest)
          have others := readItems_write items (Nat.lt_trans shorter length)
          rw [writeItems, readItems, skipBlanks_cons (by decide)]
          simp only [first, others]
          rfl
termination_by bound

theorem readMember_write (key : String) (value : Json) (members : List (String × Json))
    {bound : Nat} {rest : List Char}
    (enough : (writeText key (':' :: value.write (writeMembers members rest))).length < bound) :
    readMember bound (writeText key (':' :: value.write (writeMembers members rest))) =
      (Members.ofJson ((key, value) :: members), rest) := by
  cases bound with
  | zero => cases enough
  | succ bound =>
      have shorter := length_writeText key (':' :: value.write (writeMembers members rest))
      have length : (value.write (writeMembers members rest)).length < bound := by
        rw [List.length_cons] at shorter
        omega
      have shorterToo := length_lt_write value (writeMembers members rest)
      have first := readValue_write value length (delimited_writeMembers members rest)
      have others := readMembers_write members (Nat.lt_trans shorterToo length)
      rw [readMember_writeText, first]
      simp only [others]
      rfl
termination_by bound

theorem readMembers_write (members : List (String × Json)) {bound : Nat} {rest : List Char}
    (enough : (writeMembers members rest).length < bound) :
    readMembers bound (writeMembers members rest) = (Members.ofJson members, rest) := by
  cases bound with
  | zero => cases enough
  | succ bound =>
      rcases members with _ | ⟨⟨key, value⟩, members⟩
      · rfl
      · have length : (writeText key
            (':' :: value.write (writeMembers members rest))).length < bound := by
          simpa [writeMembers] using enough
        rw [writeMembers, readMembers, skipBlanks_cons (by decide)]
        exact readMember_write key value members length
termination_by bound
end

/-- A written text is read back to its end. -/
theorem read_compact (json : Json) :
    read json.compact.toList = (Reading.ofJson json, []) := by
  rw [read, compact, String.toList_ofList]
  exact readValue_write json (by omega) delimited_nil

end Statechart.Json
