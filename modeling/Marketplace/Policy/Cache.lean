import Marketplace.Policy.GrantSet

/-!
# The cache of grants

A service keeps the grants of the subjects it was asked about, for the types of resource that it
guards. An entry lives for a time that every hit starts anew; then it is fetched again from a
source, one query for each type. A subject without grants is never kept, and neither is an answer
of which a part is missing. Times are milliseconds.
-/

namespace Marketplace

/-- What a source of grants answers for one subject: for a type of resource, the texts of grants. -/
abbrev GrantSource := String → Except PolicyError (List String)

/-- How a cache is set up. -/
structure CacheSettings where
  /-- The types of resource it keeps grants on, in the order in which they are fetched. -/
  handled : List String
  /-- For how long an entry serves after it was fetched or hit. -/
  lifetime : Nat
  /-- How often expired entries are swept out. -/
  sweepPeriod : Nat

/-- The entry of one subject. The grants of an expired entry are no longer served. -/
structure CacheEntry where
  grants : Option GrantSet
  expiresAt : Nat

/-- The grants that an entry serves at a time. -/
def CacheEntry.resident? (e : CacheEntry) (now : Nat) : Option GrantSet :=
  if e.expiresAt ≤ now then none else e.grants

/-- Entries by subject. -/
structure GrantCache where
  entries : Table String CacheEntry

/-- What a look-up answers and leaves behind. -/
structure Lookup where
  answer : Except PolicyError (List Grant)
  cache : GrantCache
  /-- Whether the entry was current. -/
  hit : Bool
  /-- The types that the source was asked for, in order. -/
  asked : List String

/-- The grants a source gave, and the failures it answered with. -/
structure Fetched where
  grants : GrantSet
  failures : List PolicyError

namespace Fetched

/-- Adds the text of a grant; a text that is no grant of the subject is passed over. -/
def addText (subject : String) (s : GrantSet) (text : String) : GrantSet :=
  match Grant.parse text with
  | .ok g => if g.subject = subject then (s.insert g.resourceType g.action g.resourceId).2 else s
  | .error _ => s

/-- Adds the answer for one type. -/
def add (subject : String) (f : Fetched) : Except PolicyError (List String) → Fetched
  | .ok texts => { f with grants := texts.foldl (addText subject) f.grants }
  | .error e => { f with failures := f.failures ++ [e] }

/-- Asks the source for every type. -/
def ofSource (subject : String) (types : List String) (source : GrantSource) : Fetched :=
  types.foldl (fun f t => f.add subject (source t)) ⟨.empty, []⟩

/-- Nothing is missing. -/
def isComplete (f : Fetched) : Bool := f.failures.isEmpty

end Fetched

namespace GrantCache

/-- The cache without entries. -/
def empty : GrantCache := ⟨.empty⟩

instance : Inhabited GrantCache := ⟨empty⟩

/-- The entry of a subject; a subject not seen before gets one that has just expired. -/
def entry (c : GrantCache) (now : Nat) (subject : String) : CacheEntry :=
  (c.entries.get? subject).getD ⟨none, now⟩

/-- The grants that the cache serves for a subject at a time. -/
def resident? (c : GrantCache) (now : Nat) (subject : String) : Option GrantSet :=
  (c.entries.get? subject).bind fun e => e.resident? now

/-- The grants of a subject: from the entry while it is current, else what a fetch has found when
it is ready, both of which matter on a miss only. When every query fails the answer is the first
failure and the old entry stays, expired. -/
def serve (settings : CacheSettings) (now ready : Nat) (found : Fetched) (c : GrantCache)
    (subject : String) : Lookup :=
  let e := c.entry now subject
  match e.resident? now with
  | some s =>
    { answer := .ok (s.grants subject)
      cache := ⟨c.entries.put subject ⟨some s, now + settings.lifetime⟩⟩
      hit := true
      asked := [] }
  | none =>
    match found.failures with
    | [] =>
      let kept : CacheEntry :=
        if found.grants.isEmpty then ⟨none, e.expiresAt⟩
        else ⟨some found.grants, ready + settings.lifetime⟩
      ⟨.ok (found.grants.grants subject), ⟨c.entries.put subject kept⟩, false, settings.handled⟩
    | failure :: _ =>
      if found.failures.length = settings.handled.length then
        ⟨.error failure, ⟨c.entries.put subject e⟩, false, settings.handled⟩
      else
        ⟨.ok (found.grants.grants subject), ⟨c.entries.put subject ⟨none, e.expiresAt⟩⟩, false,
          settings.handled⟩

/-- A look-up with a source that answers at once, by the type of resource. -/
def lookup (settings : CacheSettings) (now : Nat) (source : GrantSource) (c : GrantCache)
    (subject : String) : Lookup :=
  c.serve settings now now (Fetched.ofSource subject settings.handled source) subject

/-- Applies a change that the authorization service announced, to a current entry only. -/
def update (settings : CacheSettings) (now : Nat) (method : PolicyMethod) (g : Grant)
    (c : GrantCache) : Except PolicyError GrantCache :=
  if settings.handled.contains g.resourceType then
    match c.entries.get? g.subject with
    | none => .error (.notCached g.subject)
    | some e =>
      match e.resident? now with
      | none => .error (.notCached g.subject)
      | some s =>
        let s := match method with
          | .put => (s.insert g.resourceType g.action g.resourceId).2
          | .delete => (s.remove g.resourceType g.action g.resourceId).2
        .ok ⟨c.entries.put g.subject ⟨some s, e.expiresAt⟩⟩
  else .error (.unsupportedType g.resourceType)

/-- Removes every entry that is not current. -/
def sweep (now : Nat) (c : GrantCache) : GrantCache :=
  ⟨c.entries.keep fun _ e => (e.resident? now).isSome⟩

/-- The number of entries that a sweep removes. -/
def expiredCount (now : Nat) (c : GrantCache) : Nat := c.entries.size - (c.sweep now).entries.size

/-- The number of subjects with a current entry. -/
def residentCount (now : Nat) (c : GrantCache) : Nat := (c.sweep now).entries.size

end GrantCache

end Marketplace
