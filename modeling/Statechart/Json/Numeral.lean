import Statechart.Json.Reading

/-!
Number tokens. The grammar is a whole part without a leading zero, an optional
fraction and an optional exponent. Plain digits below 2^64 are a word; every
other number is only checked against the range of a double.
-/

namespace Statechart.Json

structure NumberToken where
  negative : Bool
  whole : List Char
  fraction : Option (List Char)
  exponent : Option Int

namespace NumberToken

/-! Digits enter the significand for as long as it stays a 64-bit word. The
second component counts the digits that are left out. -/

def absorb : Nat → List Char → Nat × Nat
  | significand, [] => (significand, 0)
  | significand, digit :: digits =>
      let next := significand * 10 + (digit.toNat - '0'.toNat)
      if next < UInt64.size then absorb next digits
      else (significand, digits.length + 1)

/-! The nearest double of a natural number, for numbers in range: at most 53
significant bits, a half going to the even neighbour. -/

def roundToDouble (value : Nat) : Nat :=
  let shift := value.log2 - 52
  let unit := 1 <<< shift
  let quotient := value / unit
  let remainder := value % unit
  if 2 * remainder > unit || (2 * remainder == unit && quotient % 2 == 1) then
    (quotient + 1) * unit
  else quotient * unit

/-! The least number that rounds to infinity: half a unit above the largest
double. -/

def doubleOverflow : Nat := (1 <<< 1024) - (1 <<< 970)

/-! A number is taken as significand times a power of ten, each rounded to a
double before they are multiplied; powers above 10^308 are no doubles. -/

def exceedsDouble (token : NumberToken) : Bool :=
  let (whole, wholeLeft) := absorb 0 token.whole
  let fraction := token.fraction.getD []
  let (significand, fractionLeft) := absorb whole fraction
  let power : Int := wholeLeft - (fraction.length - fractionLeft : Nat) + token.exponent.getD 0
  if significand = 0 || power < 0 then false
  else if power > 308 then true
  else roundToDouble significand * roundToDouble (Nat.pow 10 power.toNat) ≥ doubleOverflow

def classify (token : NumberToken) : Numeral :=
  let value := Nat.ofDigitChars 10 token.whole 0
  if !token.negative && token.fraction.isNone && token.exponent.isNone &&
      value < UInt64.size then
    .word (UInt64.ofNat value)
  else if token.exceedsDouble then .excessive
  else .other

end NumberToken

/-! Scanning. A text that ends inside a number ends too early for a decoder
that wants the number, and is no number for the others. -/

def brokenNumber (rest : List Char) : Reading × List Char :=
  if rest.isEmpty then
    (.broken { wanted := .truncated, skipped := .malformed, naming := .malformed }, [])
  else (.broken (.plain .malformed), [])

def scanExponentDigits (token : NumberToken) (negative : Bool) (rest : List Char) :
    Reading × List Char :=
  let digits := rest.takeWhile Char.isDigit
  if digits.isEmpty then brokenNumber rest
  else
    let power : Int := Nat.ofDigitChars 10 digits 0
    let exponent := if negative then -power else power
    (.number { token with exponent := some exponent }.classify, rest.dropWhile Char.isDigit)

def scanExponent (token : NumberToken) : List Char → Reading × List Char
  | mark :: rest =>
      if mark = 'e' || mark = 'E' then
        match rest with
        | '+' :: digits => scanExponentDigits token false digits
        | '-' :: digits => scanExponentDigits token true digits
        | digits => scanExponentDigits token false digits
      else (.number token.classify, mark :: rest)
  | [] => (.number token.classify, [])

def scanFraction (token : NumberToken) : List Char → Reading × List Char
  | '.' :: rest =>
      let digits := rest.takeWhile Char.isDigit
      if digits.isEmpty then brokenNumber rest
      else scanExponent { token with fraction := some digits } (rest.dropWhile Char.isDigit)
  | rest => scanExponent token rest

/-- Scans what follows an optional minus sign. -/
def scanNumber (negative : Bool) (characters : List Char) : Reading × List Char :=
  let digits := characters.takeWhile Char.isDigit
  let rest := characters.dropWhile Char.isDigit
  if digits.isEmpty then brokenNumber rest
  else if digits.head? = some '0' && digits.length > 1 then
    (.broken (.plain .malformed), [])
  else scanFraction ⟨negative, digits, none, none⟩ rest

end Statechart.Json
