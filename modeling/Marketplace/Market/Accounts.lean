import Marketplace.Market.Operation

/-!
# Accounts

Registration and removal of accounts. A new account is announced and gets full control of itself;
a deleted one is announced too. No two accounts have the same email.
-/

namespace Marketplace

/-- A registered account. -/
structure Account where
  id : AccountId
  name : String
  email : String
  role : Role
  createdAt : Instant
  deriving DecidableEq

namespace Account

instance : Sortable Account where
  compareBy
    | "created_at" => some fun a b => compare a.createdAt b.createdAt
    | "updated_at" => some fun a b => compare a.createdAt b.createdAt
    | "name" => some fun a b => compare a.name b.name
    | "email" => some fun a b => compare a.email b.email
    | _ => none

def toJson (a : Account) : Json :=
  .record [("id", a.id.toJson), ("name", .text a.name), ("email", .text a.email),
    ("role", a.role.toJson), ("created_at", a.createdAt.toJson)]

instance : ToJson Account := ⟨toJson⟩

end Account

/-- The accounts, by number. -/
structure AccountStore where
  accounts : Table AccountId Account
  /-- The number of accounts ever registered, the last one's number. -/
  issued : Nat
  isDown : Bool

namespace AccountStore

def empty : AccountStore := ⟨.empty, 0, false⟩

instance : Inhabited AccountStore := ⟨empty⟩

/-- Whether the store answers. -/
def check (s : AccountStore) : Except ServiceError Unit :=
  if s.isDown then .error (.storeUnavailable "account store") else .ok ()

/-- The number of the next account. -/
def nextId (s : AccountStore) : AccountId := ⟨UInt64.ofNat (s.issued + 1)⟩

/-- Registers an account under the next number. -/
def create (name email : String) (role : Role) (time : Instant) (s : AccountStore) :
    Except ServiceError (Account × AccountStore) := do
  s.check
  if s.accounts.values.any fun a => a.email == email then
    throw (.conflict ("email already registered: " ++ email))
  let account : Account := ⟨s.nextId, name, email, role, time⟩
  return (account, { s with
    accounts := s.accounts.put account.id account
    issued := s.issued + 1 })

/-- The page of the accounts that a filter lets through. -/
def list (f : ResourceFilter) (q : PageQuery) (s : AccountStore) :
    Except ServiceError (List Account) := do
  s.check
  return q.applyVisible f (fun a => toString a.id) s.accounts.values

/-- Removes an account, if it is there. -/
def delete (id : AccountId) (s : AccountStore) :
    Except ServiceError (Option Account × AccountStore) := do
  s.check
  return (s.accounts.get? id, { s with accounts := s.accounts.erase id })

end AccountStore

namespace Accounts

/-- Registers an account; anybody may. -/
def create (name email : String) (role : Role) : Operation AccountStore Account :=
  fun stamp s => do
    if Text.isAllBlank name then throw (.invalid "name is required")
    if !email.toList.contains '@' then throw (.invalid ("invalid email: " ++ email))
    let (account, s) ← s.create (Text.trim name) email role stamp.time
    let subject := account.id.subject
    return {
      store := s
      answer := account
      news := [.accountCreated account.id role,
        .grant subject Resource.accounts subject Action.any]
      counts := [] }

/-- What it takes to delete an account. -/
def deletePermissions (id : AccountId) : List Permission :=
  [⟨Resource.accounts, Action.delete, toString id⟩]

/-- Deletes an account. -/
def delete (id : AccountId) : Operation AccountStore Unit := fun _ s => do
  match ← s.delete id with
  | (none, _) => throw (.notFound .account (toString id))
  | (some _, s) => return { store := s, answer := (), news := [.accountDeleted id], counts := [] }

/-- The identity service listens to changes of grants only. -/
def participant : Participant AccountStore where
  service := .identity
  guards := [Resource.accounts]
  topics := [.policyUpdated]
  react
    | .policyUpdated method target => some (.patch method target)
    | _ => none

end Accounts

end Marketplace
