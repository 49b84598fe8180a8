import Marketplace.Market.Accounts
import Marketplace.Proofs.Result
import Marketplace.Proofs.Table

/-!
# What the calls of the account store do

What a call answered and what the store is afterwards, when it succeeded.
-/

namespace Marketplace

namespace AccountStore

variable {s s' : AccountStore}

/-- A new account is stored under the next number. -/
theorem create_eq_ok {name email : String} {role : Role} {time : Instant} {a : Account}
    (h : s.create name email role time = .ok (a, s')) :
    a = ⟨s.nextId, name, email, role, time⟩ ∧
      s' = { s with accounts := s.accounts.put a.id a, issued := s.issued + 1 } := by
  unfold create at h
  obtain ⟨_, _, h⟩ := bind_eq_ok.1 h
  split at h
  · cases h
  · cases h
    exact ⟨rfl, rfl⟩

end AccountStore

end Marketplace
