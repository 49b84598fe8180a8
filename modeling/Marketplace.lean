import Marketplace.Config
import Marketplace.Event.Batch
import Marketplace.Event.Bus
import Marketplace.Event.Consumer
import Marketplace.Event.Disposition
import Marketplace.Event.Envelope
import Marketplace.Event.Error
import Marketplace.Event.Handler
import Marketplace.Event.Payload
import Marketplace.Event.Registry
import Marketplace.Host
import Marketplace.Http.Caller
import Marketplace.Http.MediaType
import Marketplace.Http.Message
import Marketplace.Http.Outgoing
import Marketplace.Http.Problem
import Marketplace.Http.Routes
import Marketplace.Http.Target
import Marketplace.Identifier
import Marketplace.Json.Basic
import Marketplace.Json.Number
import Marketplace.Json.Parser
import Marketplace.Json.Printer
import Marketplace.Json.Reader
import Marketplace.Json.Vocabulary
import Marketplace.Listing
import Marketplace.Market.Accounts
import Marketplace.Market.Authorization
import Marketplace.Market.Basic
import Marketplace.Market.Inventory
import Marketplace.Market.Operation
import Marketplace.Market.Orders
import Marketplace.Market.Payments
import Marketplace.Market.Relay
import Marketplace.Metrics
import Marketplace.Money
import Marketplace.Orders.Status
import Marketplace.Participant
import Marketplace.Policy.Cache
import Marketplace.Policy.Enforcer
import Marketplace.Policy.Error
import Marketplace.Policy.Grant
import Marketplace.Policy.GrantSet
import Marketplace.Policy.Guarded
import Marketplace.Policy.Janitor
import Marketplace.Policy.Remote
import Marketplace.Policy.StaticSource
import Marketplace.Report
import Marketplace.ServiceError
import Marketplace.Table
import Marketplace.Text.Blank
import Marketplace.Text.Hex
import Marketplace.Text.Numeral
import Marketplace.Text.Quoted
import Marketplace.Text.Split
import Marketplace.Text.Unseen
import Marketplace.Text.Utf8
import Marketplace.Time.Calendar
import Marketplace.Time.Supply
import Marketplace.Time.Timestamp
import Marketplace.Uuid
import Marketplace.Proofs.Announcement
import Marketplace.Proofs.Inventory.Stock
import Marketplace.Proofs.Inventory.Store
import Marketplace.Proofs.Orders.Store
import Marketplace.Proofs.Payments.Ledger
import Marketplace.Proofs.Payments.Store
import Marketplace.Proofs.Result
import Marketplace.Proofs.Saga.Agreement
import Marketplace.Proofs.Saga.Completion
import Marketplace.Proofs.Saga.Reactions
import Marketplace.Proofs.Saga.Records
import Marketplace.Proofs.Saga.Traffic
import Marketplace.Proofs.Table
import Marketplace.Proofs.Policy.Grant
import Marketplace.Proofs.Policy.GrantSet
import Marketplace.Proofs.Accounts.Store
import Marketplace.Proofs.Authorization.Coherence
import Marketplace.Proofs.Deeds.Commits
import Marketplace.Proofs.Deeds.Course
import Marketplace.Proofs.Deeds.Deletion
import Marketplace.Proofs.Deeds.Lawful
import Marketplace.Proofs.Json.ReadPrint
import Marketplace.Proofs.Time.Timestamp
import Marketplace.Proofs.Event.Wire
import Marketplace.Proofs.Bus.Calls
import Marketplace.Proofs.Bus.Placement
import Marketplace.Proofs.Bus.Invariant
import Marketplace.Proofs.Bus.Delivery
import Marketplace.Proofs.Bus.Tally
import Marketplace.Proofs.Consumer.Subscriptions
import Marketplace.Proofs.Consumer.Shift
import Marketplace.Proofs.Consumer.Settlement
import Marketplace.Proofs.Saga.Dealing
import Marketplace.Proofs.Saga.Apart
import Marketplace.Proofs.Saga.Foretold
import Marketplace.Proofs.Policy.Session
import Marketplace.Proofs.Policy.Sweeping
import Marketplace.Proofs.Policy.Isolation
import Marketplace.Proofs.Policy.Permission
import Marketplace.Proofs.Policy.Tidy
import Marketplace.Proofs.Policy.Miss
import Marketplace.Proofs.Orders.Status
import Marketplace.Proofs.Inventory.HoldLife
import Marketplace.Proofs.Batch
import Marketplace.Proofs.Retry
import Marketplace.Proofs.Requests
import Marketplace.Proofs.Policy.Lifetime
import Marketplace.Proofs.Policy.Emptied
import Marketplace.Proofs.Authorization.Faithful
import Marketplace.Proofs.Listing.Order
import Marketplace.Proofs.Listing.Pages
import Marketplace.Proofs.Listing.Fallback
import Marketplace.Proofs.Event.Dispatch
import Marketplace.Proofs.Event.Sending
import Marketplace.Proofs.Policy.Triples
import Marketplace.Proofs.Consumer.Starting
import Marketplace.Proofs.Consumer.Stopping
