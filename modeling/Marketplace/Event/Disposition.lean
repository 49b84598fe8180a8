/-!
# What becomes of a message
-/

namespace Marketplace

/-- What is done with a message once it has been looked at. -/
inductive Disposition where
  /-- It was handled and is settled. -/
  | ack
  /-- It failed for now and is to be delivered again. -/
  | retry
  /-- It is of no use, now or later, and is settled without effect. -/
  | drop
  deriving DecidableEq

namespace Disposition

def name : Disposition → String
  | ack => "ack"
  | retry => "retry"
  | drop => "drop"

end Disposition

end Marketplace
