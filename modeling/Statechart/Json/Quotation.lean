import Statechart.Json.Reading

/-!
Quoted texts. Scanning splits the body into pieces under the rules that hold
everywhere; `join` then turns the pieces into characters, and only here an
escaped half of a surrogate pair must meet its other half.
-/

namespace Statechart.Json

inductive Piece where
  | character (value : Char)
  | unit (value : Nat)

def hexDigit? (character : Char) : Option Nat :=
  if '0' ≤ character ∧ character ≤ '9' then some (character.toNat - '0'.toNat)
  else if 'a' ≤ character ∧ character ≤ 'f' then some (character.toNat - 'a'.toNat + 10)
  else if 'A' ≤ character ∧ character ≤ 'F' then some (character.toNat - 'A'.toNat + 10)
  else none

def hexUnit? (first second third fourth : Char) : Option Nat := do
  let first ← hexDigit? first
  let second ← hexDigit? second
  let third ← hexDigit? third
  let fourth ← hexDigit? fourth
  return ((first * 16 + second) * 16 + third) * 16 + fourth

def escaped? : Char → Option Char
  | '"' => some '"'
  | '\\' => some '\\'
  | '/' => some '/'
  | 'b' => some '\x08'
  | 'f' => some '\x0c'
  | 'n' => some '\n'
  | 'r' => some '\r'
  | 't' => some '\t'
  | _ => none

/-! A hexadecimal escape needs four bytes of text, whatever they are, before
its digits are looked at. -/

def utf8Bytes (characters : List Char) : Nat :=
  characters.foldl (fun bytes character => bytes + character.utf8Size) 0

def addPiece (piece : Piece) (scanned : List Piece × Except Fault (List Char)) :
    List Piece × Except Fault (List Char) :=
  (piece :: scanned.1, scanned.2)

/-- The pieces up to the closing quote, and the text behind it. -/
def scanPieces : List Char → List Piece × Except Fault (List Char)
  | [] => ([], .error .truncated)
  | '"' :: rest => ([], .ok rest)
  | '\\' :: 'u' :: first :: second :: third :: fourth :: rest =>
      match hexUnit? first second third fourth with
      | some value => addPiece (.unit value) (scanPieces rest)
      | none => ([], .error .malformed)
  | '\\' :: 'u' :: rest =>
      ([], .error (if utf8Bytes rest < 4 then .truncated else .malformed))
  | '\\' :: letter :: rest =>
      match escaped? letter with
      | some character => addPiece (.character character) (scanPieces rest)
      | none => ([], .error .malformed)
  | ['\\'] => ([], .error .truncated)
  | character :: rest =>
      if character.toNat < 0x20 then ([], .error .malformed)
      else addPiece (.character character) (scanPieces rest)

/-! Pieces fail to join when a half has no partner. A leading half at the very
end is unfinished: whether it is wrong depends on what would follow. -/

inductive Unpaired where
  | wrong
  | unfinished
  deriving DecidableEq, Repr

def isLeadingHalf (value : Nat) : Bool := 0xD800 ≤ value && value ≤ 0xDBFF

def isTrailingHalf (value : Nat) : Bool := 0xDC00 ≤ value && value ≤ 0xDFFF

def pairedCharacter (leading trailing : Nat) : Char :=
  Char.ofNat ((leading - 0xD800) * 0x400 + (trailing - 0xDC00) + 0x10000)

def join : List Piece → Except Unpaired (List Char)
  | [] => .ok []
  | .character value :: rest => return value :: (← join rest)
  | .unit leading :: .unit trailing :: rest =>
      if isTrailingHalf leading then .error .wrong
      else if isLeadingHalf leading then
        if isTrailingHalf trailing then return pairedCharacter leading trailing :: (← join rest)
        else .error .wrong
      else return Char.ofNat leading :: (← join (.unit trailing :: rest))
  | .unit value :: rest =>
      if isTrailingHalf value then .error .wrong
      else if isLeadingHalf value then
        .error (if rest.isEmpty then .unfinished else .wrong)
      else return Char.ofNat value :: (← join rest)

/-! A quoted text, scanned from behind its opening quote: closed, with its
characters unless a half stands alone, or broken. -/

inductive Quotation where
  | closed (value : Option String) (rest : List Char)
  | broken (breach : Breach)

def scanQuotation (characters : List Char) : Quotation :=
  match scanPieces characters with
  | (pieces, .ok rest) =>
      match join pieces with
      | .ok value => .closed (some (String.ofList value)) rest
      | .error _ => .closed none rest
  | (pieces, .error fault) =>
      match join pieces with
      | .error .wrong => .broken { wanted := .malformed, skipped := fault, naming := .malformed }
      | _ => .broken (.plain fault)

end Statechart.Json
