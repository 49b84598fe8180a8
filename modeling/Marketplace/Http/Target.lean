import Marketplace.Listing
import Marketplace.Text.Hex
import Marketplace.Text.Utf8

/-!
# Paths and queries

A target is a path and, after a question mark, a query; what follows a number sign is not sent. The
path is cut into segments at its slashes. A target may be absolute, with a scheme and an authority in
front; they are not looked at, and a missing path is a slash. An authority alone and an asterisk have
no path that leads anywhere. A query is a list of pairs, each name and value encoded as in a form: a
plus sign is a space, and a percent sign with two hexadecimal digits is an octet.
-/

namespace Marketplace.Http

/-- A path, cut into segments, and a query. -/
structure Target where
  path : List (List Char)
  query : List Char

namespace Target

/-- The characters of a scheme. -/
def isSchemeChar (c : Char) : Bool := c.isAlphanum || ['+', '-', '.'].contains c

/-- Whether a character ends an authority. -/
def endsAuthority (c : Char) : Bool := ['/', '?', '#'].contains c

/-- A target without its scheme and authority. -/
def withoutAuthority (cs : List Char) : List Char :=
  if cs.head? = some '/' then cs
  else
    match cs.span isSchemeChar with
    | (_, ':' :: '/' :: '/' :: rest) =>
      let path := rest.dropWhile fun c => !(endsAuthority c)
      if path.head? = some '/' then path else '/' :: path
    | _ => []

/-- Cuts a target into its parts. -/
def ofText (s : String) : Target :=
  match Text.cut '#' (withoutAuthority s.toList) with
  | (shown, _) =>
    match Text.cut '?' shown with
    | (path, query) => ⟨Text.splitAt '/' path, query.getD []⟩

end Target

/-- The octets of a text in which a percent sign and two digits stand for an octet. -/
def percentDecode : List Char → List UInt8
  | [] => []
  | '%' :: a :: b :: cs =>
    match Text.hexValue? a, Text.hexValue? b with
    | some x, some y => UInt8.ofNat (16 * x + y) :: percentDecode cs
    | _, _ => Text.encode "%" ++ percentDecode (a :: b :: cs)
  | c :: cs => Text.encode c.toString ++ percentDecode cs

/-- A segment of a path as text, if it spells any. -/
def segmentText? (segment : List Char) : Option String :=
  Text.decode? ⟨(percentDecode segment).toArray⟩

/-- A name or a value of a query as text. -/
def formDecode (cs : List Char) : String :=
  Text.decodeLossy ⟨(percentDecode (cs.map fun c => if c = '+' then ' ' else c)).toArray⟩

/-- The pairs of a query; empty pieces are passed over, and a missing value is empty. -/
def pairs (query : List Char) : List (String × String) :=
  ((Text.splitAt '&' query).filter fun piece => !piece.isEmpty).map fun piece =>
    match Text.cut '=' piece with
    | (name, value) => (formDecode name, formDecode (value.getD []))

/-- The values of a name in a query. -/
def values (name : String) (ps : List (String × String)) : List String :=
  (ps.filter fun p => p.1 == name).map Prod.snd

/-- The value of a parameter that may be missing but not be repeated. -/
def parameter? (name : String) (ps : List (String × String)) : Option (Option String) :=
  match values name ps with
  | [] => some none
  | [v] => some (some v)
  | _ => none

/-- The value of a numeric parameter, zero if it is missing. -/
def numericParameter? (name : String) (ps : List (String × String)) : Option UInt64 :=
  match parameter? name ps with
  | none => none
  | some none => some 0
  | some (some v) =>
    match Text.unsigned? v with
    | some n => if n < UInt64.size then some (UInt64.ofNat n) else none
    | none => none

/-- The page and order that a query asks for. -/
def pageQuery? (query : List Char) : Option PageQuery := do
  let ps := pairs query
  let page ← numericParameter? "page" ps
  let pageSize ← numericParameter? "page_size" ps
  let orderBy ← parameter? "orderby" ps
  some ⟨page, pageSize, orderBy⟩

end Marketplace.Http
