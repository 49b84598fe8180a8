import Marketplace.Identifier

/-!
# Who takes part

The roles an account can have, the five services of the marketplace and the claims that a caller
presents.
-/

namespace Marketplace

/-- A text that names none of what was asked for. -/
inductive NameError where
  | role (text : String)
  | service (text : String)
  deriving DecidableEq

def NameError.message : NameError → String
  | role s => "unknown role: " ++ s
  | service s => "unknown service: " ++ s

/-- What an account is in the marketplace. -/
inductive Role where
  | customer
  | seller
  | admin
  deriving DecidableEq

namespace Role

def name : Role → String
  | customer => "customer"
  | seller => "seller"
  | admin => "admin"

def all : List Role := [customer, seller, admin]

def ofName? (s : String) : Option Role := all.find? fun r => r.name = s

/-- The role of a name. -/
def parse (s : String) : Except NameError Role :=
  match ofName? s with
  | some r => .ok r
  | none => .error (.role s)

theorem ofName?_name (r : Role) : ofName? r.name = some r := by
  cases r <;> simp [ofName?, all, name]

end Role

/-- The five services, each the owner of one store. -/
inductive Service where
  | identity
  | authorization
  | inventory
  | orders
  | payments
  deriving DecidableEq

namespace Service

/-- The name under which a service publishes and subscribes. -/
def name : Service → String
  | identity => "identitysvc"
  | authorization => "authzsvc"
  | inventory => "inventorysvc"
  | orders => "ordersvc"
  | payments => "paymentsvc"

def all : List Service := [identity, authorization, inventory, orders, payments]

def ofName? (s : String) : Option Service := all.find? fun v => v.name = s

/-- The service of a name. -/
def parse (s : String) : Except NameError Service :=
  match ofName? s with
  | some v => .ok v
  | none => .error (.service s)

theorem ofName?_name (v : Service) : ofName? v.name = some v := by
  cases v <;> simp [ofName?, all, name]

end Service

/-- Who is calling, as vouched for by whoever let the call in. -/
structure Claims where
  account : AccountId
  email : String
  role : Role
  deriving DecidableEq

/-- The caller as the subject of grants. -/
def Claims.subject (c : Claims) : String := c.account.subject

end Marketplace
