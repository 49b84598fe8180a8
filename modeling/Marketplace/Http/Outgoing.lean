import Marketplace.Http.Target
import Marketplace.Text.Blank

/-!
# Where a request goes

An address that somebody configured is resolved to the target that is sent: what follows a number
sign is dropped, the segments `.` and `..` are followed, and what may not stand in a target is
written as percent signs with two digits. Pairs are appended to the query in the form encoding: a
space is a plus sign, and what is neither a letter nor a digit is written by its octets, four signs
apart.
-/

namespace Marketplace.Http

/-- An octet as a percent sign and two digits. -/
def percentOctet (octet : UInt8) : List Char :=
  '%' :: (Text.hexDigits 2 octet.toNat).map Char.toUpper

/-- Writes the characters that may not stay as the octets of their encoding. -/
def percentEncode (stays : Char → Bool) (cs : List Char) : List Char :=
  cs.flatMap fun c => if stays c then [c] else (Text.encode c.toString).flatMap percentOctet

/-- A visible ASCII character. -/
def isGraphic (c : Char) : Bool := 0x20 < c.toNat && c.toNat < 0x7F

/-- The characters that stay as they are in a path. -/
def staysInPath (c : Char) : Bool :=
  isGraphic c && !(['\x22', '#', '<', '>', '?', '\x60', '\x7b', '\x7d'].contains c)

/-- The characters that stay as they are in a query. -/
def staysInQuery (c : Char) : Bool := isGraphic c && !(['\x22', '#', '<', '>', '\x27'].contains c)

/-- The characters that stay as they are in the form encoding. -/
def staysInForm (c : Char) : Bool := c.isAlphanum || ['*', '-', '.', '_'].contains c

/-- A name or a value in the form encoding. -/
def formEncode (s : String) : List Char :=
  (percentEncode (fun c => c == ' ' || staysInForm c) s.toList).map fun c =>
    if c = ' ' then '+' else c

/-- A segment without its written-out dots, to compare it with `.` and `..`. -/
def plainDots : List Char → List Char
  | '%' :: '2' :: 'e' :: cs => '.' :: plainDots cs
  | '%' :: '2' :: 'E' :: cs => '.' :: plainDots cs
  | c :: cs => c :: plainDots cs
  | [] => []

/-- Follows the segments of a path; those passed so far come first, the last one foremost. A path
that ends in a dot segment ends in a slash. -/
def followDots : List (List Char) → List (List Char) → List (List Char)
  | passed, [] => passed.reverse
  | passed, segment :: rest =>
    let back := plainDots segment = ['.', '.']
    let stay := plainDots segment = ['.']
    let passed := if back then passed.tail else if stay then passed else segment :: passed
    if (back ∨ stay) ∧ rest = [] then ([] :: passed).reverse else followDots passed rest

/-- The characters of an address that count: none around it that is no more than a space, and no
tab or line break in it. -/
def countedChars (s : String) : List Char :=
  let isIdle (c : Char) : Bool := c.toNat ≤ 0x20
  let inner := ((s.toList.dropWhile isIdle).reverse.dropWhile isIdle).reverse
  inner.filter fun c => c ≠ '\t' && c ≠ '\n' && c ≠ '\r'

namespace Target

/-- The target of what follows the host in an address. -/
def ofRest (rest : List Char) : Target :=
  match Text.cut '#' rest with
  | (shown, _) =>
    match Text.cut '?' shown with
    | (path, query) =>
      let segments := Text.splitAt '/' (path.map fun c => if c = '\\' then '/' else c)
      let encoded := segments.tail.map (percentEncode staysInPath)
      let followed := followDots [] encoded
      ⟨[] :: (if followed.isEmpty then [[]] else followed),
        percentEncode staysInQuery (query.getD [])⟩

/-- The target of an address on a host, if the address goes on with a path, a query or nothing. -/
def ofAddress? (origin address : String) : Option Target :=
  let counted := countedChars address
  if origin.toList.isPrefixOf counted then
    match counted.drop origin.toList.length with
    | [] => some (ofRest [])
    | c :: cs => if ['/', '\\', '?', '#'].contains c then some (ofRest (c :: cs)) else none
  else none

/-- Appends a pair to the query. -/
def withPair (name value : String) (t : Target) : Target :=
  let pair := formEncode name ++ '=' :: formEncode value
  { t with query := if t.query.isEmpty then pair else t.query ++ '&' :: pair }

/-- The target as it is sent. -/
def text (t : Target) : String :=
  String.ofList (Text.join '/' t.path ++ (if t.query.isEmpty then [] else '?' :: t.query))

/-- The first line of a request. -/
def requestLine (method : String) (t : Target) : String := method ++ " " ++ t.text ++ " HTTP/1.1"

end Target

end Marketplace.Http
