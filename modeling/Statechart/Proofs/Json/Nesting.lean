import Mathlib.Tactic.SplitIfs
import Statechart.Json.Value

/-!
The nesting of a value and the brackets in its text. Brackets are counted over the
characters of a text: those inside quotation marks do not count, and neither does a
quotation mark behind a backslash.
-/

namespace Statechart.Json

/-- What has been seen of the brackets of a text. -/
structure Brackets where
  quoted : Bool := false
  escaped : Bool := false
  opened : Nat := 0
  deepest : Nat := 0

namespace Brackets

def step (seen : Brackets) (character : Char) : Brackets :=
  if seen.escaped then { seen with escaped := false }
  else if seen.quoted then
    { seen with quoted := character ≠ '"', escaped := character = '\\' }
  else if character = '"' then { seen with quoted := true }
  else if character = '[' ∨ character = '{' then
    { seen with opened := seen.opened + 1, deepest := max seen.deepest (seen.opened + 1) }
  else if character = ']' ∨ character = '}' then { seen with opened := seen.opened - 1 }
  else seen

def run (seen : Brackets) (characters : List Char) : Brackets :=
  characters.foldl step seen

end Brackets

/-- The largest number of brackets that are open at once in a text. -/
def openAtOnce (text : String) : Nat :=
  (Brackets.run {} text.toList).deepest

namespace Brackets

/-- Between two tokens. -/
def between (opened deepest : Nat) : Brackets where
  opened := opened
  deepest := deepest

def inQuotation (opened deepest : Nat) : Brackets where
  quoted := true
  opened := opened
  deepest := deepest

theorem run_cons (seen : Brackets) (character : Char) (rest : List Char) :
    seen.run (character :: rest) = (seen.step character).run rest := rfl

theorem run_append (seen : Brackets) (characters rest : List Char) :
    seen.run (characters ++ rest) = (seen.run characters).run rest :=
  List.foldl_append

/-! ## Quotations -/

section Quotation

variable {opened deepest : Nat}

theorem step_plain {character : Char} (notQuote : character ≠ '"') (notBackslash : character ≠ '\\') :
    (inQuotation opened deepest).step character = inQuotation opened deepest := by
  simp [step, inQuotation, notQuote, notBackslash]

/-- A written character of a quotation neither ends it nor leaves an escape open. -/
theorem run_escape (character : Char) :
    (inQuotation opened deepest).run (escape character) = inQuotation opened deepest := by
  have hexadecimal : ∀ digit < 0x10, Nat.digitChar digit ≠ '"' ∧ Nat.digitChar digit ≠ '\\' := by
    decide
  unfold escape
  split_ifs with quote backslash backspace formFeed newline carriageReturn tab control
  -- Only the escape by number and the character as itself depend on the character.
  any_goals rfl
  case pos =>
    rcases hexadecimal (character.toNat / 16) (by omega) with ⟨firstPlain, firstPlainToo⟩
    rcases hexadecimal (character.toNat % 16) (by omega) with ⟨lastPlain, lastPlainToo⟩
    change (((inQuotation opened deepest).step _).step _) = _
    rw [step_plain firstPlain firstPlainToo, step_plain lastPlain lastPlainToo]
  case neg => exact step_plain quote backslash

theorem run_writeText (value : String) (rest : List Char) :
    (between opened deepest).run (writeText value rest) = (between opened deepest).run rest := by
  have inside : ∀ characters : List Char,
      (inQuotation opened deepest).run (characters.flatMap escape) = inQuotation opened deepest := by
    intro characters
    induction characters with
    | nil => rfl
    | cons character characters induction =>
        rw [List.flatMap_cons, run_append, run_escape, induction]
  rw [writeText, run_cons, run_append]
  exact congrArg (run · ('"' :: rest)) (inside value.toList)

end Quotation

/-! ## Values -/

theorem run_digits {opened deepest : Nat} (number : Nat) :
    (between opened deepest).run (Nat.toDigits 10 number) = between opened deepest := by
  have plain : ∀ digit : Char, digit.isDigit = true →
      (between opened deepest).step digit = between opened deepest := by
    intro digit isDigit
    have different : ∀ other : Char, other.isDigit = false → digit ≠ other := by
      rintro other notDigit rfl
      rw [isDigit] at notDigit
      cases notDigit
    simp [step, between, different '"' rfl, different '[' rfl, different '{' rfl, different ']' rfl,
      different '}' rfl]
  have digits : ∀ digit ∈ Nat.toDigits 10 number, digit.isDigit = true :=
    fun digit member => Nat.isDigit_of_mem_toDigits (by decide) (by decide) member
  generalize Nat.toDigits 10 number = characters at digits
  induction characters with
  | nil => rfl
  | cons digit rest induction =>
      rw [run_cons, plain digit (digits digit List.mem_cons_self)]
      exact induction fun later member => digits later (List.mem_cons_of_mem _ member)

/-- A value that opens no bracket. -/
theorem between_flat {json : Json} {opened deepest : Nat} (flat : json.nesting = 0)
    (atLeast : opened ≤ deepest) :
    between opened deepest = between opened (max deepest (opened + json.nesting)) := by
  rw [flat, Nat.add_zero, Nat.max_eq_left atLeast]

mutual
/-- A value leaves no bracket open and reaches as deep as it nests. -/
theorem run_write (json : Json) {opened deepest : Nat} (rest : List Char) (atLeast : opened ≤ deepest) :
    (between opened deepest).run (json.write rest) =
      (between opened (max deepest (opened + json.nesting))).run rest := by
  cases json with
  | null =>
      rw [← between_flat rfl atLeast]
      rfl
  | flag value =>
      rw [← between_flat rfl atLeast]
      cases value <;> rfl
  | number value =>
      rw [← between_flat rfl atLeast, write, run_append, run_digits]
  | text value =>
      rw [← between_flat rfl atLeast, write, run_writeText]
  | list items =>
      cases items with
      | nil => rfl
      | cons item items =>
          change (between (opened + 1) (max deepest (opened + 1))).run
            (item.write (writeItems items rest)) = _
          rw [run_write item _ (Nat.le_max_right _ _), run_writeItems items rest (by omega), nesting,
            nestingOfItems]
          congr 2
          omega
  | object members =>
      rcases members with _ | ⟨⟨key, value⟩, members⟩
      · rfl
      · change (between (opened + 1) (max deepest (opened + 1))).run
          (writeText key (':' :: value.write (writeMembers members rest))) = _
        rw [run_writeText]
        change (between (opened + 1) (max deepest (opened + 1))).run
          (value.write (writeMembers members rest)) = _
        rw [run_write value _ (Nat.le_max_right _ _), run_writeMembers members rest (by omega),
          nesting, nestingOfMembers]
        congr 2
        omega

theorem run_writeItems (items : List Json) {opened deepest : Nat} (rest : List Char) (atLeast : opened < deepest) :
    (between (opened + 1) deepest).run (writeItems items rest) =
      (between opened (max deepest (opened + 1 + nestingOfItems items))).run rest := by
  cases items with
  | nil =>
      rw [nestingOfItems, Nat.add_zero, Nat.max_eq_left atLeast]
      rfl
  | cons item items =>
      change (between (opened + 1) deepest).run (item.write (writeItems items rest)) = _
      rw [run_write item _ atLeast, run_writeItems items rest (by omega), nestingOfItems]
      congr 2
      omega

theorem run_writeMembers (members : List (String × Json)) {opened deepest : Nat} (rest : List Char)
    (atLeast : opened < deepest) :
    (between (opened + 1) deepest).run (writeMembers members rest) =
      (between opened (max deepest (opened + 1 + nestingOfMembers members))).run rest := by
  rcases members with _ | ⟨⟨key, value⟩, members⟩
  · rw [nestingOfMembers, Nat.add_zero, Nat.max_eq_left atLeast]
    rfl
  · change (between (opened + 1) deepest).run
      (writeText key (':' :: value.write (writeMembers members rest))) = _
    rw [run_writeText]
    change (between (opened + 1) deepest).run (value.write (writeMembers members rest)) = _
    rw [run_write value _ atLeast, run_writeMembers members rest (by omega), nestingOfMembers]
    congr 2
    omega
end

end Brackets

/-- As many brackets are open at once in the text of a value as the value nests. -/
theorem openAtOnce_compact (json : Json) : openAtOnce json.compact = json.nesting := by
  have whole := Brackets.run_write json [] (Nat.le_refl 0)
  rw [openAtOnce, compact, String.toList_ofList]
  exact (congrArg Brackets.deepest whole).trans (by simp [Brackets.run, Brackets.between])

end Statechart.Json
