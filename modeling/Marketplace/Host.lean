import Marketplace.Config
import Marketplace.Event.Consumer
import Marketplace.Http.Routes

/-!
# A process

A process hosts one service or all of them on one bus, handles their messages and answers their
requests. The service that lists grants starts first, so that the others in the same process can
ask it directly; a process without it would have to ask over the network.
-/

namespace Marketplace

/-- A service that could not subscribe to its events. -/
structure StartupError where
  service : Service
  error : EventError

def StartupError.message (e : StartupError) : String :=
  "failed to start " ++ e.service.name ++ " consumer: " ++ e.error.message

/-- A running process. -/
structure Host where
  config : Config
  market : Market
  consumers : List (Service × Consumer)

namespace Host

/-- The services in the order in which they start. -/
def startOrder (services : List Service) : List Service :=
  (services.filter fun v => v = .authorization) ++ services.filter fun v => v ≠ .authorization

/-- How the market of a process is set up. -/
def marketSettings (c : Config) : MarketSettings where
  lifetime := c.cacheLifetime * 1000
  sweepPeriod := c.cacheSweep * 1000
  initialBalance := c.initialBalance
  grantsReachable := c.services.contains .authorization

/-- Stops consumers. -/
def stopAll (consumers : List (Service × Consumer)) (b : Bus) : Bus :=
  consumers.foldl (fun b c => c.2.stop b) b

/-- Starts the consumers of services after those that run already; when one cannot start, all of
them are stopped. -/
def startAll (settings : MarketSettings) :
    List Service → List (Service × Consumer) → Bus →
      Except StartupError (List (Service × Consumer)) × Bus
  | [], started, b => (.ok started, b)
  | v :: services, started, b =>
    match Consumer.start .standard (Market.handler settings v).names v.name b with
    | (.ok c, b) => startAll settings services (started ++ [(v, c)]) b
    | (.error e, b) => (.error ⟨v, e⟩, stopAll started b)

/-- Starts a process on a bus. -/
def start (c : Config) (bus : Bus) (supply : Supply) : Except StartupError Host :=
  let settings := marketSettings c
  match startAll settings (startOrder c.services) [] bus with
  | (.error e, _) => .error e
  | (.ok consumers, bus) => .ok ⟨c, .new settings ⟨bus, .empty⟩ supply, consumers⟩

/-- The handlers of the process, by subscription. -/
def staff (h : Host) : Staff Market ServiceError := fun id =>
  (h.consumers.find? fun c => c.2.subscriptions.contains id).map fun c =>
    Market.handler h.market.settings c.1

/-- Lets the process work while time passes. -/
def run (duration : Nat) (h : Host) : Host := { h with market := h.staff.run duration h.market }

/-- Stops handling messages. -/
def shutdown (h : Host) : Host :=
  { h with market := Connected.onBus (stopAll h.consumers) h.market }

/-- Changes the bus. -/
def onBus (f : Bus → Bus) (h : Host) : Host := { h with market := Connected.onBus f h.market }

/-- The answer to a question about the process itself, by path and method. -/
def selfAnswer? (h : Host) (r : Http.Request) : Option Http.Response :=
  let health : Json := .record [("status", .text "ok"), ("service", .text h.config.processName)]
  let ok? : Option Http.Response :=
    match (Http.Target.ofText r.target).path.map String.ofList with
    | ["", "health"] => some (.json 200 health)
    | ["", "metrics"] => some (.empty 200)
    | _ => none
  ok?.map fun ok =>
    if r.method = "GET" then ok else if r.method = "HEAD" then ok.withoutBody else .empty 405

/-- Answers a request. Any page may ask what it may send, so `OPTIONS` is always answered. -/
def respond (r : Http.Request) (h : Host) : Http.Response × Host :=
  if r.method = "OPTIONS" then (.empty 200, h)
  else
    match h.selfAnswer? r with
    | some answer => (answer, h)
    | none =>
      match r.respond h.config.services h.market with
      | (answer, m) => (answer, { h with market := m })

end Host

end Marketplace
