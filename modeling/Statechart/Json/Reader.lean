import Statechart.Json.Numeral
import Statechart.Json.Quotation

/-!
Reading a text into its outline. The reader goes through the text once, under
the rules that hold for every value; it stops building at a broken value and
returns no rest then, since no decoder looks behind one.

The readers of a value, of the items of a list and of the members of an object
call each other. Each call has less text or less to do with the same text, so
twice the length of the text bounds the depth of the calls.
-/

namespace Statechart.Json

def isBlank (character : Char) : Bool :=
  character = ' ' || character = '\t' || character = '\n' || character = '\r'

def skipBlanks (characters : List Char) : List Char :=
  characters.dropWhile isBlank

/-! A literal, from behind its first letter, with the report on a text that ends
inside it. No literal begins a name, so who expects a name does not look past
the first letter, unless it may begin a null. -/

def readLiteral (value : Reading) (early : Breach) :
    (letters : List Char) → List Char → Reading × List Char
  | [], rest => (value, rest)
  | _ :: _, [] => (.broken early, [])
  | letter :: letters, character :: rest =>
      if letter = character then readLiteral value early letters rest
      else (.broken (.plain .malformed), [])

def readNull (rest : List Char) : Reading × List Char :=
  readLiteral .null
    { wanted := .truncated, skipped := .truncated
      naming := .malformed, namingOrNull := .truncated }
    ['u', 'l', 'l'] rest

def readFlag (value : Bool) (letters rest : List Char) : Reading × List Char :=
  readLiteral (.flag value)
    { wanted := .truncated, skipped := .truncated, naming := .malformed } letters rest

/-! `readItems` starts behind an item and `readMembers` behind a member;
`readMember` starts where a key is due. -/

mutual
def readValue : Nat → List Char → Reading × List Char
  | 0, _ => (.broken (.plain .truncated), [])
  | bound + 1, characters =>
      match skipBlanks characters with
      | [] => (.broken (.plain .truncated), [])
      | 'n' :: rest => readNull rest
      | 't' :: rest => readFlag true ['r', 'u', 'e'] rest
      | 'f' :: rest => readFlag false ['a', 'l', 's', 'e'] rest
      | '"' :: rest =>
          match scanQuotation rest with
          | .closed value rest => (.text value, rest)
          | .broken breach => (.broken breach, [])
      | '[' :: rest =>
          match skipBlanks rest with
          | [] => (.list (.stopped .truncated), [])
          | ']' :: rest => (.list .done, rest)
          | rest =>
              let (item, rest) := readValue bound rest
              let (items, rest) := readItems bound rest
              (.list (.next item items), rest)
      | '{' :: rest =>
          match skipBlanks rest with
          | '}' :: rest => (.object .done, rest)
          | rest =>
              let (members, rest) := readMember bound rest
              (.object members, rest)
      | '-' :: rest => scanNumber true rest
      | character :: rest =>
          if character.isDigit then scanNumber false (character :: rest)
          else (.broken (.plain .malformed), [])

def readItems : Nat → List Char → Items × List Char
  | 0, _ => (.stopped .truncated, [])
  | bound + 1, characters =>
      match skipBlanks characters with
      | [] => (.stopped .truncated, [])
      | ']' :: rest => (.done, rest)
      | ',' :: rest =>
          let (item, rest) := readValue bound rest
          let (items, rest) := readItems bound rest
          (.next item items, rest)
      | _ => (.stopped .malformed, [])

def readMember : Nat → List Char → Members × List Char
  | 0, _ => (.stopped .truncated, [])
  | bound + 1, characters =>
      match skipBlanks characters with
      | [] => (.keyless (.plain .truncated), [])
      | '"' :: rest =>
          match scanQuotation rest with
          | .broken breach => (.keyless breach, [])
          | .closed key rest =>
              match skipBlanks rest with
              | ':' :: rest =>
                  let (value, rest) := readValue bound rest
                  let (members, rest) := readMembers bound rest
                  (.next key value members, rest)
              | [] => (.next key (.broken (.plain .truncated)) .done, [])
              | _ => (.next key (.broken (.plain .malformed)) .done, [])
      | _ => (.keyless (.plain .malformed), [])

def readMembers : Nat → List Char → Members × List Char
  | 0, _ => (.stopped .truncated, [])
  | bound + 1, characters =>
      match skipBlanks characters with
      | [] => (.stopped .truncated, [])
      | '}' :: rest => (.done, rest)
      | ',' :: rest => readMember bound rest
      | _ => (.stopped .malformed, [])
end

/-- The outline of the value a text starts with, and the text behind it. -/
def read (characters : List Char) : Reading × List Char :=
  readValue (2 * characters.length + 2) characters

end Statechart.Json
