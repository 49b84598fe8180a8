import Marketplace.Event.Error
import Marketplace.Policy.Error

/-!
# What can go wrong with an operation

A refusal that the business provides for, such as a lack of stock, is no error: it is an outcome
that is announced by an event.
-/

namespace Marketplace

/-- Failures that may be over when the same thing is tried again. -/
class Retryable (ε : Type) where
  isRetryable : ε → Bool

instance : Retryable EventError := ⟨EventError.isRetryable⟩

/-- The things that an operation can fail to find. -/
inductive Entity where
  | account
  | merchant
  | order
  | wallet
  deriving DecidableEq

def Entity.name : Entity → String
  | .account => "Account"
  | .merchant => "Merchant"
  | .order => "Order"
  | .wallet => "Wallet"

/-- Failures of the operations of the five services. -/
inductive ServiceError where
  /-- The caller may not, or the grants could not be looked up. -/
  | policy (error : PolicyError)
  /-- The request makes no sense. -/
  | invalid (reason : String)
  /-- The request contradicts what is stored. -/
  | conflict (reason : String)
  | notFound (entity : Entity) (id : String)
  /-- The store could not be reached. -/
  | storeUnavailable (store : String)
  /-- An event could not be made or sent. -/
  | event (error : EventError)
  deriving DecidableEq

namespace ServiceError

def message : ServiceError → String
  | policy e => "Authorization error: " ++ e.message
  | invalid reason => "Invalid request: " ++ reason
  | conflict reason => "Conflict: " ++ reason
  | notFound entity id => entity.name ++ " not found: " ++ id
  | storeUnavailable store => "Store unavailable: " ++ store
  | event e => "Event error: " ++ e.message

/-- Whether the same message may be handled when it is delivered again. -/
def isRetryable : ServiceError → Bool
  | storeUnavailable _ => true
  | event e => e.isRetryable
  | policy e => e.isTransient
  | _ => false

instance : Retryable ServiceError := ⟨isRetryable⟩

/-- Whether the caller lacks a grant. -/
def isDenied : ServiceError → Bool
  | policy .denied => true
  | _ => false

end ServiceError

end Marketplace
