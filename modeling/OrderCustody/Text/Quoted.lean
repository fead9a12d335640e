import OrderCustody.Text.Unprintable

namespace OrderCustody.Text

/-!
# Quoted text

How messages show a text that a client or operator supplied: between double
quotes, with quotes and backslashes marked, and with everything invisible
written out, so that the message stays one line and shows what was sent.
-/

/-- The number of a character in lowercase hexadecimal, without padding. -/
def codePoint (c : Char) : List Char :=
  '\\' :: 'u' :: '{' :: (Nat.toDigits 16 c.toNat ++ ['}'])

/-- A character as it is shown between quotes. -/
def quotedCharacter (c : Char) : List Char :=
  if c = '"' ∨ c = '\\' then ['\\', c]
  else if c = '\x00' then ['\\', '0']
  else if c = '\t' then ['\\', 't']
  else if c = '\n' then ['\\', 'n']
  else if c = '\r' then ['\\', 'r']
  else if ' ' ≤ c ∧ c ≤ '~' then [c]
  else if isUnprintable c then codePoint c
  else [c]

/-- A text between quotes, shown so that nothing in it can be taken for something else. -/
def quoted (text : String) : String :=
  String.ofList
    ('"' :: (text.toList.flatMap quotedCharacter ++ ['"']))

end OrderCustody.Text
