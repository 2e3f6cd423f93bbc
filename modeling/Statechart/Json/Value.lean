/-!
JSON values as this library writes them, and their compact text. Every number
of the format is a 64-bit word. `Json.write` puts the text of a value in front
of what follows it, so that a written list is one pass over its items.
-/

namespace Statechart

inductive Json where
  | null
  | flag (value : Bool)
  | number (value : UInt64)
  | text (value : String)
  | list (items : List Json)
  | object (members : List (String × Json))

namespace Json

/-! The nesting of a value is the largest number of lists and objects that are
open at once in its text. -/

mutual
def nesting : Json → Nat
  | .list items => nestingOfItems items + 1
  | .object members => nestingOfMembers members + 1
  | _ => 0

def nestingOfItems : List Json → Nat
  | [] => 0
  | item :: items => max item.nesting (nestingOfItems items)

def nestingOfMembers : List (String × Json) → Nat
  | [] => 0
  | (_, value) :: members => max value.nesting (nestingOfMembers members)
end

/-! Inside a text only the quote, the backslash and the control characters
below the space are escaped; five of the controls have a letter of their own. -/

def escape (character : Char) : List Char :=
  if character = '"' then ['\\', '"']
  else if character = '\\' then ['\\', '\\']
  else if character = '\x08' then ['\\', 'b']
  else if character = '\x0c' then ['\\', 'f']
  else if character = '\n' then ['\\', 'n']
  else if character = '\r' then ['\\', 'r']
  else if character = '\t' then ['\\', 't']
  else if character.toNat < 0x20 then
    ['\\', 'u', '0', '0', Nat.digitChar (character.toNat / 16),
      Nat.digitChar (character.toNat % 16)]
  else [character]

def writeText (value : String) (rest : List Char) : List Char :=
  '"' :: (value.toList.flatMap escape ++ '"' :: rest)

/-! `writeItems` and `writeMembers` write what follows the first item: a comma in
front of each further one, and the bracket. -/

mutual
def write : Json → List Char → List Char
  | .null, rest => 'n' :: 'u' :: 'l' :: 'l' :: rest
  | .flag true, rest => 't' :: 'r' :: 'u' :: 'e' :: rest
  | .flag false, rest => 'f' :: 'a' :: 'l' :: 's' :: 'e' :: rest
  | .number value, rest => Nat.toDigits 10 value.toNat ++ rest
  | .text value, rest => writeText value rest
  | .list [], rest => '[' :: ']' :: rest
  | .list (item :: items), rest => '[' :: item.write (writeItems items rest)
  | .object [], rest => '{' :: '}' :: rest
  | .object ((key, value) :: members), rest =>
      '{' :: writeText key (':' :: value.write (writeMembers members rest))

def writeItems : List Json → List Char → List Char
  | [], rest => ']' :: rest
  | item :: items, rest => ',' :: item.write (writeItems items rest)

def writeMembers : List (String × Json) → List Char → List Char
  | [], rest => '}' :: rest
  | (key, value) :: members, rest =>
      ',' :: writeText key (':' :: value.write (writeMembers members rest))
end

def compact (value : Json) : String :=
  String.ofList (value.write [])

/-! Absent values are written as null. -/

def ofOption (encode : α → Json) : Option α → Json
  | none => .null
  | some value => encode value

end Json

end Statechart
