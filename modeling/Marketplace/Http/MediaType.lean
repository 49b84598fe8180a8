/-!
# Media types

A media type is a kind and a subtype with a slash between them, and parameters after semicolons. A
subtype may end in a suffix after a plus sign, which names the format that it is written in. The
parameters of a type are of no interest, but they have to be well formed. Letters count in either
case.
-/

namespace Marketplace.Http

/-- A media type without its parameters, in lower case. -/
structure MediaType where
  kind : List Char
  /-- The subtype without its suffix. -/
  base : List Char
  suffix : Option (List Char)
  deriving DecidableEq

namespace MediaType

/-- The characters that names are made of. -/
def isToken (c : Char) : Bool :=
  c.isAlphanum ||
    ['!', '#', '$', '%', '&', '\x27', '*', '+', '-', '.', '^', '_', '\x60', '|', '~'].contains c

/-- The characters that may stand between quotes. -/
def isQuotable (c : Char) : Bool := 0x20 ≤ c.toNat && c.toNat ≠ 0x7F

/-- Where a reader of parameters is; `fresh` before the first character of a part. -/
inductive Place where
  | name (fresh : Bool)
  | value (fresh : Bool)
  | quoted (fresh : Bool)
  | afterQuote

/-- Whether parameters are well formed from a place on. Blanks may stand before a name and after a
quoted value, and nothing needs to follow the last semicolon. -/
def areParameters : Place → List Char → Bool
  | .name fresh, [] => fresh
  | .name fresh, c :: cs =>
    if fresh ∧ c = ' ' then areParameters (.name true) cs
    else if isToken c then areParameters (.name false) cs
    else if !fresh ∧ c = '=' then areParameters (.value true) cs
    else false
  | .value _, [] => true
  | .value fresh, c :: cs =>
    if fresh ∧ c = '\x22' then areParameters (.quoted true) cs
    else if isToken c then areParameters (.value false) cs
    else if !fresh ∧ c = ';' then areParameters (.name true) cs
    else false
  | .quoted _, [] => false
  | .quoted fresh, c :: cs =>
    if !fresh ∧ c = '\x22' then areParameters .afterQuote cs
    else if isQuotable c then areParameters (.quoted false) cs
    else false
  | .afterQuote, [] => true
  | .afterQuote, c :: cs =>
    if c = ';' then areParameters (.name true) cs
    else if c = ' ' then areParameters .afterQuote cs
    else false

/-- A subtype before its last plus sign, and the suffix after it. A plus sign in front is part of
the subtype. -/
def splitSuffix (subtype : List Char) : List Char × Option (List Char) :=
  match subtype.reverse.span (· ≠ '+') with
  | (suffix, _ :: rest) => if rest = [] then (subtype, none) else (rest.reverse, some suffix.reverse)
  | (_, []) => (subtype, none)

/-- The media type of a kind and a subtype. -/
def ofNames (kind subtype : List Char) : MediaType :=
  match splitSuffix (subtype.map Char.toLower) with
  | (base, suffix) => ⟨kind.map Char.toLower, base, suffix⟩

/-- Reads a media type. -/
def parse? (cs : List Char) : Option MediaType :=
  match cs.span isToken with
  | (kind, '/' :: rest) =>
    if kind = [] then none
    else
      match rest.span isToken with
      | (subtype, []) => some (ofNames kind subtype)
      | (subtype, c :: parameters) =>
        if subtype ≠ [] ∧ c = ';' ∧ areParameters (.name true) parameters then
          some (ofNames kind subtype)
        else none
  | _ => none

/-- Whether a type is JSON: by its subtype or by the suffix of it. -/
def isJson (m : MediaType) : Bool :=
  m.kind = "application".toList && (m.base = "json".toList || m.suffix = some "json".toList)

end MediaType

end Marketplace.Http
