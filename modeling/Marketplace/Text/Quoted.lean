import Marketplace.Text.Hex
import Marketplace.Text.Unseen

/-!
# Quoted text

A text as it is shown in a message: in double quotes, with everything escaped that could not be
seen. A character that has no short escape is written by its number in braces.
-/

namespace Marketplace.Text

/-- The hexadecimal digits of a number, without leading zeros. -/
def hexNumber (n : Nat) : List Char :=
  if n < 16 then [hexDigit n] else hexNumber (n / 16) ++ [hexDigit n]
termination_by n

/-- Whether a character leaves no mark of its own. -/
def isUnseen (c : Char) : Bool := Unseen.isWithin c.toNat Unseen.ranges

/-- One character inside the quotes. -/
def quotedChar (c : Char) : List Char :=
  match c with
  | '"' => ['\\', '"']
  | '\\' => ['\\', '\\']
  | '\n' => ['\\', 'n']
  | '\r' => ['\\', 'r']
  | '\t' => ['\\', 't']
  | '\x00' => ['\\', '0']
  | c => if isUnseen c then '\\' :: 'u' :: '{' :: (hexNumber c.toNat ++ ['}']) else [c]

/-- A text in quotes. -/
def quoted (s : String) : String := String.ofList ('"' :: (s.toList.flatMap quotedChar ++ ['"']))

end Marketplace.Text
