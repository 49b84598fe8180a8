import Marketplace.Json.Basic
import Marketplace.Text.Hex
import Marketplace.Text.Numeral

/-!
# Printing JSON

The compact form: no blanks, fields in the order they have in the value. In strings only the quote,
the backslash and the control characters below U+0020 are escaped, with the short forms where JSON
has one.
-/

namespace Marketplace.Json

/-- One character inside a string. -/
def escape (c : Char) : List Char :=
  match c with
  | '"' => ['\\', '"']
  | '\\' => ['\\', '\\']
  | '\n' => ['\\', 'n']
  | '\t' => ['\\', 't']
  | '\r' => ['\\', 'r']
  | '\x08' => ['\\', 'b']
  | '\x0c' => ['\\', 'f']
  | c => if c.toNat < 0x20 then '\\' :: 'u' :: Text.hexDigits 4 c.toNat else [c]

/-- A string in quotes. -/
def quoted (s : String) : List Char := '"' :: (s.toList.flatMap escape ++ ['"'])

mutual

/-- The compact text of a value; what is no value has no text. -/
def print : Json → List Char
  | .null => "null".toList
  | .bool true => "true".toList
  | .bool false => "false".toList
  | .integer n => Text.integer n
  | .decimal => []
  | .text s => quoted s
  | .list items => '[' :: printItems items ++ [']']
  | .record fields => '{' :: printFields fields ++ ['}']
  | .unreadable => []
  | .nameless _ => []
  | .misplaced _ => []
  | .fault => []

def printItems : List Json → List Char
  | [] => []
  | [v] => print v
  | v :: vs => print v ++ ',' :: printItems vs

def printFields : List (String × Json) → List Char
  | [] => []
  | [(k, v)] => quoted k ++ ':' :: print v
  | (k, v) :: fs => quoted k ++ ':' :: print v ++ ',' :: printFields fs

end

/-- The compact text of a value. -/
def compact (v : Json) : String := String.ofList v.print

end Marketplace.Json
