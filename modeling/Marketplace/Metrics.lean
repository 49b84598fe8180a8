import Marketplace.Event.Disposition
import Marketplace.Orders.Status
import Marketplace.Text.Numeral

/-!
# Metrics

Counters of what the services do, and their text for a scraper: one line for a counter, with its
labels in braces. A counter that was raised by zero is listed too.
-/

namespace Marketplace

/-- What is counted. -/
inductive Counter where
  | eventPublished (event : String)
  | eventNotPublished (event : String)
  | eventConsumed (event : String) (outcome : Disposition)
  | cacheHit
  | cacheMiss
  | grantAdded
  | grantRemoved
  | orderPlaced
  | orderMoved (target : OrderStatus)
  | reservation (held : Bool)
  | stockReturned
  | charge (approved : Bool)
  deriving DecidableEq

namespace Counter

def name : Counter → String
  | eventPublished _ => "events_published_total"
  | eventNotPublished _ => "events_publish_failed_total"
  | eventConsumed _ _ => "events_consumed_total"
  | cacheHit => "policy_cache_hits_total"
  | cacheMiss => "policy_cache_misses_total"
  | grantAdded => "policies_upserted_total"
  | grantRemoved => "policies_removed_total"
  | orderPlaced => "orders_created_total"
  | orderMoved _ => "order_transitions_total"
  | reservation _ => "saga_reservations_total"
  | stockReturned => "saga_compensations_total"
  | charge _ => "saga_payments_total"

def labels : Counter → List (String × String)
  | eventPublished event => [("event", event)]
  | eventNotPublished event => [("event", event)]
  | eventConsumed event outcome => [("event", event), ("outcome", outcome.name)]
  | orderMoved target => [("to", target.name)]
  | reservation held => [("outcome", if held then "reserved" else "rejected")]
  | stockReturned => [("step", "undo_reserve")]
  | charge approved => [("outcome", if approved then "successful" else "failed")]
  | _ => []

/-- The text of a label: line feeds and quotes are escaped. A backslash is written twice, and a pair
of backslashes is taken to be written twice already. -/
def escapeLabel (held : Bool) : List Char → List Char
  | [] => if held then ['\\', '\\'] else []
  | '\n' :: cs => '\\' :: 'n' :: escapeLabel held cs
  | '"' :: cs => '\\' :: '"' :: escapeLabel false cs
  | '\\' :: cs => if held then '\\' :: '\\' :: escapeLabel false cs else escapeLabel true cs
  | c :: cs => if held then '\\' :: '\\' :: c :: escapeLabel false cs else c :: escapeLabel false cs

/-- One label: its name, and its value in quotes. -/
def labelText (l : String × String) : List Char :=
  l.1.toList ++ '=' :: '"' :: escapeLabel false l.2.toList ++ ['"']

/-- The labels with commas between them, in braces if there are any. -/
def labelsText (ls : List (String × String)) : List Char :=
  match ls with
  | [] => []
  | ls => '{' :: List.intercalate [','] (ls.map labelText) ++ ['}']

/-- The counter as it is listed: its name and its labels. -/
def text (c : Counter) : String := String.ofList (c.name.toList ++ labelsText c.labels)

end Counter

/-- How often things happened. -/
abbrev Counts := List (Counter × Nat)

/-- The counters that were raised, with their values. -/
structure Tally where
  counts : Counts

namespace Tally

/-- Nothing was counted. -/
def empty : Tally := ⟨[]⟩

instance : Inhabited Tally := ⟨empty⟩

/-- Raises one counter in a list. -/
def raise (c : Counter) (amount : Nat) : Counts → Counts
  | [] => [(c, amount)]
  | (d, n) :: rest => if d = c then (d, n + amount) :: rest else (d, n) :: raise c amount rest

/-- Raises a counter. -/
def add (t : Tally) (c : Counter) (amount : Nat) : Tally := ⟨raise c amount t.counts⟩

/-- Raises several counters. -/
def addAll (t : Tally) (counts : Counts) : Tally := counts.foldl (fun t c => t.add c.1 c.2) t

/-- The counters as they are listed, with their values. Of several counters that are listed alike the
last one stands for all. -/
def entries : Counts → List (String × Nat)
  | [] => []
  | (c, n) :: rest =>
    let later := entries rest
    if later.any fun e => e.1 == c.text then later else (c.text, n) :: later

/-- The lines of all counters, sorted. -/
def lines (t : Tally) : List String :=
  ((entries t.counts).map fun e => e.1 ++ " " ++ String.ofList (Text.decimal e.2)).mergeSort
    fun a b => decide (a ≤ b)

end Tally

end Marketplace
