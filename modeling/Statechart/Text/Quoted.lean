import Statechart.Text.Unprintable

/-!
Texts as they are quoted inside messages: in double quotes, with the quote, the
backslash and the unprintable characters escaped.
-/

namespace Statechart.Text

/-! An escaped code point is written in lower case hexadecimal digits without
leading zeros, between braces. -/

def escapeCodePoint (character : Char) : List Char :=
  ['\\', 'u', '\x7b'] ++ Nat.toDigits 16 character.toNat ++ ['\x7d']

def escapeCharacter (character : Char) : List Char :=
  if character = '"' then ['\\', '"']
  else if character = '\\' then ['\\', '\\']
  else if character = '\x00' then ['\\', '0']
  else if character = '\t' then ['\\', 't']
  else if character = '\n' then ['\\', 'n']
  else if character = '\r' then ['\\', 'r']
  else if ' ' ≤ character && character ≤ '~' then [character]
  else if isUnprintable character then escapeCodePoint character
  else [character]

def quoted (text : String) : String :=
  String.ofList ('"' :: (text.toList.flatMap escapeCharacter ++ ['"']))

/-! Quoted entries, each a key and its value, between braces. -/

def quotedEntries (entries : List (String × String)) : String :=
  let parts := entries.map fun entry => quoted entry.1 ++ ": " ++ quoted entry.2
  "\x7b" ++ ", ".intercalate parts ++ "\x7d"

end Statechart.Text
