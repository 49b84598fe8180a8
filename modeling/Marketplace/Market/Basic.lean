import Marketplace.Event.Consumer
import Marketplace.Market.Accounts
import Marketplace.Market.Authorization
import Marketplace.Market.Inventory
import Marketplace.Market.Orders
import Marketplace.Market.Payments

/-!
# The market

The five participants side by side. They share a bus, a clock and nothing else: what one knows of
another it learned from an event, or from the list of grants, which the caches are filled from.
-/

namespace Marketplace

/-- A participant's store and its cache of grants. -/
structure Site (σ : Type) where
  store : σ
  cache : GrantCache

/-- A site before anything has happened. -/
def Site.new {σ : Type} (store : σ) : Site σ := ⟨store, .empty⟩

/-- How a market is set up. -/
structure MarketSettings where
  /-- For how long a cache serves an entry, in milliseconds. -/
  lifetime : Nat
  /-- How often caches are swept, in milliseconds. -/
  sweepPeriod : Nat
  /-- What a new wallet holds. -/
  initialBalance : Money
  /-- Whether the list of grants can be reached. -/
  grantsReachable : Bool

/-- The five participants. -/
structure Market where
  settings : MarketSettings
  identity : Site AccountStore
  authorization : Site GrantBook
  inventory : Site InventoryStore
  orders : Site OrderStore
  payments : Site PaymentStore
  outlet : Outlet
  supply : Supply

/-- The seat of a participant at the market: who it is, and where its site is. -/
structure Seat (σ : Type) where
  participant : MarketSettings → Participant σ
  site : Market → Site σ
  withSite : Site σ → Market → Market

namespace Seat

def identity : Seat AccountStore where
  participant _ := Accounts.participant
  site m := m.identity
  withSite s m := { m with identity := s }

def authorization : Seat GrantBook where
  participant _ := Authorization.participant
  site m := m.authorization
  withSite s m := { m with authorization := s }

def inventory : Seat InventoryStore where
  participant _ := Inventory.participant
  site m := m.inventory
  withSite s m := { m with inventory := s }

def orders : Seat OrderStore where
  participant _ := Orders.participant
  site m := m.orders
  withSite s m := { m with orders := s }

def payments : Seat PaymentStore where
  participant s := Payments.participant s.initialBalance
  site m := m.payments
  withSite s m := { m with payments := s }

end Seat

namespace Market

variable {σ α : Type}

/-- A market before anything has happened. -/
def new (settings : MarketSettings) (outlet : Outlet) (supply : Supply) : Market where
  settings := settings
  identity := .new .empty
  authorization := .new .empty
  inventory := .new .empty
  orders := .new .empty
  payments := .new .empty
  outlet := outlet
  supply := supply

instance : Connected Market where
  outlet m := m.outlet
  withOutlet o m := { m with outlet := o }

/-- Where the caches are filled from. -/
def grants (m : Market) : Grants where
  lifetime := m.settings.lifetime
  sweepPeriod := m.settings.sweepPeriod
  source subject :=
    if m.settings.grantsReachable then m.authorization.store.source subject
    else fun _ => .error (.requestFailed "authorization service")

/-- Makes the store of a service unreachable, or reachable again. -/
def setDown (v : Service) (isDown : Bool) (m : Market) : Market :=
  match v with
  | .identity => { m with identity.store.isDown := isDown }
  | .authorization => { m with authorization.store.isDown := isDown }
  | .inventory => { m with inventory.store.isDown := isDown }
  | .orders => { m with orders.store.isDown := isDown }
  | .payments => { m with payments.store.isDown := isDown }

/-- The desk of a participant. -/
def desk (seat : Seat σ) (m : Market) : Desk σ where
  store := (seat.site m).store
  cache := (seat.site m).cache
  outlet := m.outlet
  supply := m.supply

/-- The market after a participant has worked at its desk. -/
def withDesk (seat : Seat σ) (d : Desk σ) (m : Market) : Market :=
  { seat.withSite ⟨d.store, d.cache⟩ m with outlet := d.outlet, supply := d.supply }

/-- Lets a participant work at its desk. -/
def atDesk (seat : Seat σ) (work : Participant σ → Grants → Desk σ → α × Desk σ) (m : Market) :
    α × Market :=
  match work (seat.participant m.settings) m.grants (m.desk seat) with
  | (answer, d) => (answer, m.withDesk seat d)

/-- Performs an operation that anybody may ask for. -/
def perform (seat : Seat σ) (correlation : String) (operation : Operation σ α) (m : Market) :
    Except ServiceError α × Market :=
  m.atDesk seat fun p _ d => p.perform correlation operation d

/-- Performs an operation for a caller who holds all of some permissions. -/
def performFor (seat : Seat σ) (caller : Claims) (needed : List Permission) (correlation : String)
    (operation : Operation σ α) (m : Market) : Except ServiceError α × Market :=
  m.atDesk seat fun p g d => p.performFor g caller needed correlation operation d

/-- Lists what a caller may see of a type of resource. -/
def listFor (seat : Seat σ) (caller : Claims) (resourceType : String)
    (list : ResourceFilter → σ → Except ServiceError α) (m : Market) :
    Except ServiceError α × Market :=
  m.atDesk seat fun p g d =>
    match p.filterFor g caller resourceType d with
    | (.error e, d) => (.error e, d)
    | (.ok f, d) => (list f d.store, d)

/-! ## What clients can ask for -/

def createAccount (correlation name email : String) (role : Role) :
    Market → Except ServiceError Account × Market :=
  perform .identity correlation (Accounts.create name email role)

def listAccounts (caller : Claims) (q : PageQuery) :
    Market → Except ServiceError (List Account) × Market :=
  listFor .identity caller Resource.accounts fun f s => s.list f q

def deleteAccount (correlation : String) (caller : Claims) (id : AccountId) :
    Market → Except ServiceError Unit × Market :=
  performFor .identity caller (Accounts.deletePermissions id) correlation (Accounts.delete id)

def createMerchant (correlation : String) (caller : Claims) (name : String) :
    Market → Except ServiceError Merchant × Market :=
  performFor .inventory caller Inventory.createMerchantPermissions correlation
    (Inventory.createMerchant caller.account name)

def listMerchants (caller : Claims) (q : PageQuery) :
    Market → Except ServiceError (List Merchant) × Market :=
  listFor .inventory caller Resource.merchants fun f s => s.listMerchants f q

def createProduct (correlation : String) (caller : Claims) (merchant : MerchantId) (name : String)
    (price : Money) (quantity : UInt32) : Market → Except ServiceError Product × Market :=
  performFor .inventory caller (Inventory.createProductPermissions merchant) correlation
    (Inventory.createProduct caller.account merchant name price quantity)

/-- Customers see all products, everybody else what they were granted. -/
def listProducts (caller : Claims) (q : PageQuery) (m : Market) :
    Except ServiceError (List Product) × Market :=
  match caller.role with
  | .customer => (m.inventory.store.listProducts .unrestricted q, m)
  | _ => m.listFor .inventory caller Resource.products fun f s => s.listProducts f q

def placeOrder (correlation : String) (caller : Claims) (product : ProductId) (quantity : UInt32) :
    Market → Except ServiceError Order × Market :=
  performFor .orders caller Orders.placePermissions correlation
    (Orders.place caller.account product quantity)

def listOrders (caller : Claims) (q : PageQuery) :
    Market → Except ServiceError (List Order) × Market :=
  listFor .orders caller Resource.orders fun f s => s.list f q

def recharge (correlation : String) (caller : Claims) (amount : Money) :
    Market → Except ServiceError Transaction × Market :=
  performFor .payments caller Payments.rechargePermissions correlation
    (Payments.recharge caller.account amount)

def listTransactions (caller : Claims) (q : PageQuery) :
    Market → Except ServiceError (List Transaction) × Market :=
  listFor .payments caller Resource.transactions fun f s => s.list f q

def giveGrant (correlation : String) (g : Grant) : Market → Except ServiceError Unit × Market :=
  perform .authorization correlation (Authorization.give g)

def revokeGrant (correlation : String) (g : Grant) : Market → Except ServiceError Unit × Market :=
  perform .authorization correlation (Authorization.revoke g)

def revokeGrants (correlation : String) (account : AccountId) :
    Market → Except ServiceError Unit × Market :=
  perform .authorization correlation (Authorization.revokeAll account)

def listGrants (subject : String) (resourceType : Option String) (m : Market) :
    Except ServiceError (List String) :=
  m.authorization.store.texts subject resourceType

/-! ## Events -/

/-- The handler of a participant. -/
def handlerAt (seat : Seat σ) (settings : MarketSettings) : Handler Market ServiceError where
  names := (seat.participant settings).names
  accepts := (seat.participant settings).accepts
  handle correlation payload m := m.atDesk seat fun p g d => p.handle g correlation payload d

/-- The handler of a service. -/
def handler (settings : MarketSettings) : Service → Handler Market ServiceError
  | .identity => handlerAt .identity settings
  | .authorization => handlerAt .authorization settings
  | .inventory => handlerAt .inventory settings
  | .orders => handlerAt .orders settings
  | .payments => handlerAt .payments settings

/-- Hands a message to a service. -/
def dispatch (v : Service) (octets : ByteArray) (m : Market) : Disposition × Market :=
  let d := (handler m.settings v).dispatch octets m
  (d.disposition, Connected.count d.counter d.state)

end Market

end Marketplace
