import Marketplace.Http.Caller
import Marketplace.Http.Problem
import Marketplace.Http.Target
import Marketplace.Market.Basic

/-!
# Routes

Which requests the services answer, and how. A request is looked at in a fixed order: path, method,
claims, then query or body; the first fault decides the response.
-/

namespace Marketplace.Http

/-! ## What responses show -/

/-- An order, without its buyer. -/
def orderView (o : Order) : Json :=
  .record [("id", o.id.toJson), ("product_id", o.product.toJson),
    ("quantity", .ofNat o.quantity.toNat), ("status", o.status.toJson),
    ("created_at", o.createdAt.toJson), ("updated_at", o.updatedAt.toJson)]

/-- A product, with a warning when there is little left. -/
def productView (p : Product) : Json :=
  .record [("id", p.id.toJson), ("merchant_id", p.merchant.toJson), ("name", .text p.name),
    ("price_cents", p.price.toJson), ("quantity", .ofNat p.quantity.toNat),
    ("low_stock", .bool p.isLow)]

/-- An entry of the ledger, without its account. -/
def transactionView (t : Transaction) : Json :=
  .record ([("id", t.id.toJson), ("amount_cents", t.amount.toJson),
    ("is_credit", .bool t.isCredit)] ++ t.orderField ++ [("created_at", t.createdAt.toJson)])

/-! ## What bodies hold -/

/-- The body that registers an account. -/
structure NewAccount where
  name : String
  email : String
  role : Role

def NewAccount.read : Json.Reader NewAccount := fun v => do
  let seen ← Json.readFields
    [Json.field "name" Json.readText, Json.field "email" Json.readText,
      Json.field "role" Role.read] v
  return ⟨← Json.required "name" Json.readText seen, ← Json.required "email" Json.readText seen,
    ← Json.required "role" Role.read seen⟩

/-- The name in the body that opens a merchant. -/
def readMerchantName : Json.Reader String := fun v => do
  let seen ← Json.readFields [Json.field "name" Json.readText] v
  Json.required "name" Json.readText seen

/-- The body that adds a product. -/
structure NewProduct where
  merchant : MerchantId
  name : String
  price : Money
  quantity : UInt32

def NewProduct.read : Json.Reader NewProduct := fun v => do
  let seen ← Json.readFields
    [Json.field "merchant_id" (Id.read : Json.Reader MerchantId), Json.field "name" Json.readText,
      Json.field "price_cents" Money.read, Json.field "quantity" Json.readUInt32] v
  return ⟨← Json.required "merchant_id" Id.read seen, ← Json.required "name" Json.readText seen,
    ← Json.required "price_cents" Money.read seen, ← Json.required "quantity" Json.readUInt32 seen⟩

/-- The body that places an order. -/
structure NewOrder where
  product : ProductId
  quantity : UInt32

def NewOrder.read : Json.Reader NewOrder := fun v => do
  let seen ← Json.readFields
    [Json.field "product_id" (Id.read : Json.Reader ProductId),
      Json.field "quantity" Json.readUInt32] v
  return ⟨← Json.required "product_id" Id.read seen, ← Json.required "quantity" Json.readUInt32 seen⟩

/-- The amount in the body that recharges a wallet. -/
def readAmount : Json.Reader Money := fun v => do
  let seen ← Json.readFields [Json.field "amount_cents" Money.read] v
  Json.required "amount_cents" Money.read seen

/-! ## Paths -/

/-- The paths that are answered. -/
inductive Route where
  | accounts
  | account (segment : List Char)
  | merchants
  | products
  | orders
  | recharge
  | transactions
  | policies
  | policiesOf (segment : List Char)

namespace Route

/-- The route of a path. -/
def ofPath? (path : List (List Char)) : Option Route :=
  match path with
  | [[], first] =>
    [("accounts", accounts), ("merchants", merchants), ("products", products), ("orders", orders),
      ("transactions", transactions), ("policies", policies)].findSome? fun (name, route) =>
        if first = name.toList then some route else none
  | [[], first, second] =>
    if first = "accounts".toList ∧ second ≠ [] then some (account second)
    else if first = "policies".toList ∧ second ≠ [] then some (policiesOf second)
    else if first = "wallet".toList ∧ second = "recharge".toList then some recharge
    else none
  | _ => none

/-- The service that answers on a route. -/
def service : Route → Service
  | accounts => .identity
  | account _ => .identity
  | merchants => .inventory
  | products => .inventory
  | orders => .orders
  | recharge => .payments
  | transactions => .payments
  | policies => .authorization
  | policiesOf _ => .authorization

end Route

/-! ## Answers -/

/-- An answer to a request, which may change the market. -/
abbrev Answer := Market → Response × Market

namespace Answer

/-- An answer that leaves the market alone. -/
def fixed (r : Response) : Answer := fun m => (r, m)

/-- Goes on with a part of the request, or answers what is wrong with it. -/
def withPart {α : Type} (part : Except Response α) (next : α → Answer) : Answer :=
  match part with
  | .ok a => next a
  | .error r => fixed r

/-- Answers with the outcome of an operation. -/
def ofOutcome {α : Type} (show_ : α → Response) (operation : Market → Except ServiceError α × Market) :
    Answer := fun m =>
  match operation m with
  | (.ok a, m) => (show_ a, m)
  | (.error e, m) => (failure e, m)

end Answer

open Answer

namespace Request

/-- The name of the request, made up if the caller gave none. -/
def withRequestId (r : Request) (next : String → Answer) : Answer := fun m =>
  match r.requestId? with
  | some id => next id m
  | none =>
    let (id, supply) := m.supply.fresh
    next (toString id) { m with supply := supply }

/-- The page that the query asks for. -/
def page (r : Request) : Except Response PageQuery :=
  match pageQuery? (Target.ofText r.target).query with
  | some q => .ok q
  | none => .error (.empty 400)

/-- Lists rows for the caller. -/
def list {α : Type} (r : Request) (view : α → Json)
    (operation : Claims → PageQuery → Market → Except ServiceError (List α) × Market) : Answer :=
  withPart r.claims fun caller =>
  withPart r.page fun q =>
  ofOutcome (fun rows => .json 200 (.list (rows.map view))) (operation caller q)

/-- Creates something for the caller from the body. -/
def create {α β : Type} (r : Request) (shape : Json.Reader β) (view : α → Json)
    (operation : String → Claims → β → Market → Except ServiceError α × Market) : Answer :=
  r.withRequestId fun id =>
  withPart r.claims fun caller =>
  withPart (r.readBody shape) fun body =>
  ofOutcome (fun a => .json 201 (view a)) (operation id caller body)

/-- An account named by a segment of the path. -/
def accountIn (segment : List Char) (wrong : String) : Except Response AccountId :=
  match segmentText? segment with
  | none => .error (.empty 400)
  | some s =>
    match AccountId.parse s with
    | .ok id => .ok id
    | .error _ => .error (.problem 400 (wrong ++ s))

/-- Nothing to show for success. -/
def done (_ : Unit) : Response := .empty 204

/-- Registers an account. -/
def register (r : Request) : Answer :=
  r.withRequestId fun id =>
  withPart (r.readBody NewAccount.read) fun body =>
  ofOutcome (fun a => .json 201 a.toJson) (Market.createAccount id body.name body.email body.role)

/-- Deletes an account. -/
def deleteAccount (r : Request) (segment : List Char) : Answer :=
  r.withRequestId fun id =>
  withPart r.claims fun caller =>
  withPart (accountIn segment "invalid account id: ") fun account =>
  ofOutcome done (Market.deleteAccount id caller account)

/-- The subject and the type of resource that a query asks for. -/
def grantQuery (r : Request) : Except Response (String × Option String) :=
  let ps := pairs (Target.ofText r.target).query
  match parameter? "sub" ps, parameter? "resource_type" ps with
  | some (some subject), some type => .ok (subject, type)
  | _, _ => .error (.empty 400)

/-- Lists the grants of a subject. -/
def listGrants (r : Request) : Answer :=
  withPart r.grantQuery fun (subject, type) =>
  if subject = "" then fixed (.problem 400 "sub is required")
  else
    ofOutcome
      (fun texts => .json 200 (GrantList.toJson texts))
      (fun m => (m.listGrants subject type, m))

/-- Gives or revokes the grant in the body. -/
def changeGrant (r : Request) (operation : String → Grant → Market → Except ServiceError Unit × Market) :
    Answer :=
  r.withRequestId fun id =>
  withPart (r.readBody Grant.read) fun g =>
  ofOutcome done (operation id g)

/-- Revokes all grants of an account. -/
def revokeGrants (r : Request) (segment : List Char) : Answer :=
  r.withRequestId fun id =>
  withPart (accountIn segment "invalid subject: ") fun account =>
  ofOutcome done (Market.revokeGrants id account)

/-- The answer of a route to a method, if it has one. -/
def answer? (r : Request) : Route → (method : String) → Option Answer
  | .accounts, "GET" => some (r.list Account.toJson Market.listAccounts)
  | .accounts, "POST" => some r.register
  | .account segment, "DELETE" => some (r.deleteAccount segment)
  | .merchants, "GET" => some (r.list Merchant.toJson Market.listMerchants)
  | .merchants, "POST" =>
    some (r.create readMerchantName Merchant.toJson Market.createMerchant)
  | .products, "GET" => some (r.list productView Market.listProducts)
  | .products, "POST" =>
    some (r.create NewProduct.read productView fun id caller p =>
      Market.createProduct id caller p.merchant p.name p.price p.quantity)
  | .orders, "GET" => some (r.list orderView Market.listOrders)
  | .orders, "POST" =>
    some (r.create NewOrder.read orderView fun id caller o =>
      Market.placeOrder id caller o.product o.quantity)
  | .recharge, "POST" => some (r.create readAmount transactionView Market.recharge)
  | .transactions, "GET" => some (r.list transactionView Market.listTransactions)
  | .policies, "GET" => some r.listGrants
  | .policies, "PUT" => some (r.changeGrant Market.giveGrant)
  | .policies, "DELETE" => some (r.changeGrant Market.revokeGrant)
  | .policiesOf segment, "DELETE" => some (r.revokeGrants segment)
  | _, _ => none

/-- Answers a request at the routes of some services. A request for a head is answered like one for
the whole, without the body. -/
def respond (r : Request) (services : List Service) : Answer :=
  match Route.ofPath? (Target.ofText r.target).path with
  | none => fixed (.empty 404)
  | some route =>
    if !services.contains route.service then fixed (.empty 404)
    else if r.method = "HEAD" then
      match r.answer? route "GET" with
      | none => fixed (.empty 405)
      | some answer => fun m =>
        match answer m with
        | (response, m) => (response.withoutBody, m)
    else
      match r.answer? route r.method with
      | none => fixed (.empty 405)
      | some answer => answer

end Request

end Marketplace.Http
