import Marketplace.Market.Payments
import Marketplace.Proofs.Result

/-!
# What the calls of the payment store do

One lemma for every call: what it answered and what the store is afterwards, when it succeeded. An
order that has an outcome keeps it. A first charge is refused, and then only the outcome is new, or
approved, and then wallet, ledger and outcome change together.
-/

namespace Marketplace

theorem Money.isPositive_iff {m : Money} : m.isPositive = true ↔ 0 < m.cents :=
  decide_eq_true_iff

namespace PaymentStore

variable {s s' : PaymentStore} {stamp : Stamp} {a : AccountId} {o : OrderId} {amount : Money}

/-- An account keeps the wallet that it has. -/
theorem openWallet_eq_ok {balance : Money} {time : Instant} {w : Wallet}
    (h : s.openWallet a balance time = .ok (w, s')) :
    (s.wallets.get? a = some w ∧ s' = s) ∨
    (s.wallets.get? a = none ∧ w = ⟨a, balance, time⟩ ∧
      s' = { s with wallets := s.wallets.put a ⟨a, balance, time⟩ }) := by
  unfold openWallet at h
  obtain ⟨_, _, h⟩ := bind_eq_ok.1 h
  split at h
  · rename_i w' hw
    cases pure_eq_ok.1 h
    exact .inl ⟨hw, rfl⟩
  · rename_i hw
    cases pure_eq_ok.1 h
    exact .inr ⟨hw, rfl, rfl⟩

/-- A charge leaves something, in exact numbers. -/
theorem afterCharge?_eq_some {balance rest : Money} :
    afterCharge? balance amount = some rest ↔
      rest.cents = balance.cents - amount.cents ∧ 0 < rest.cents := by
  unfold afterCharge?
  constructor
  · intro h
    split at h
    · rename_i r hr
      split at h
      · rename_i pos
        cases h
        exact ⟨Money.sub?_eq_some.1 hr, Money.isPositive_iff.1 pos⟩
      · cases h
    · cases h
  · rintro ⟨hr, pos⟩
    rw [Money.sub?_eq_some.2 hr]
    exact if_pos (Money.isPositive_iff.2 pos)

/-- A first charge records a refusal and nothing else, or takes the amount out of the wallet, enters
it in the ledger and records the entry. -/
theorem chargeNew_cases {x : Debit} (h : s.chargeNew stamp a o amount = (x, s')) :
    (x.isApproved = false ∧ s' = { s with debits := s.debits.put o x }) ∨
    ∃ w rest, s.wallets.get? a = some w ∧ 0 < amount.cents ∧
      rest.cents = w.balance.cents - amount.cents ∧ 0 < rest.cents ∧
      x = .approved (.debit stamp a amount o) ∧
      s' = { s with
        wallets := s.wallets.put a { w with balance := rest, updatedAt := stamp.time }
        ledger := s.ledger ++ [.debit stamp a amount o]
        debits := s.debits.put o (.approved (.debit stamp a amount o)) } := by
  unfold chargeNew at h
  split at h
  · cases h
    exact .inl ⟨rfl, rfl⟩
  · rename_i hpos
    have pos : 0 < amount.cents := Money.isPositive_iff.1 (by simpa using hpos)
    split at h
    · cases h
      exact .inl ⟨rfl, rfl⟩
    · rename_i w hw
      split at h
      · cases h
        exact .inl ⟨rfl, rfl⟩
      · rename_i rest hrest
        obtain ⟨exact', left⟩ := afterCharge?_eq_some.1 hrest
        cases h
        exact .inr ⟨w, rest, hw, pos, exact', left, rfl, rfl⟩

/-- The account has a wallet in which something is left after the amount is taken. -/
def Affords (s : PaymentStore) (a : AccountId) (amount : Money) : Prop :=
  ∃ w, s.wallets.get? a = some w ∧ amount.cents < w.balance.cents

/-- A first charge of some money is refused only if the account cannot afford it. -/
theorem not_affords_of_refused {x : Debit} (h : s.chargeNew stamp a o amount = (x, s'))
    (refused : x.isApproved = false) (pos : 0 < amount.cents) : ¬s.Affords a amount := by
  rintro ⟨w, hw, enough⟩
  unfold chargeNew at h
  rw [hw] at h
  split at h
  · rename_i hpos
    rw [Money.isPositive_iff.2 pos] at hpos
    cases hpos
  · dsimp only at h
    split at h
    · rename_i none_left
      -- what would be left is an amount of money, and some
      have upper := w.balance.upper
      let rest : Money := ⟨w.balance.cents - amount.cents, by omega, by omega⟩
      have left : 0 < rest.cents := Int.sub_pos_of_lt enough
      rw [afterCharge?_eq_some.2 ⟨rfl, left⟩] at none_left
      cases none_left
    · cases h
      cases refused

/-- A charge is answered from the outcome that the order has, or it is its first. -/
theorem charge_eq_ok {x : Debit} (h : s.charge stamp a o amount = .ok (x, s')) :
    (s.debits.get? o = some x ∧ s' = s) ∨
    (s.debits.get? o = none ∧ s.chargeNew stamp a o amount = (x, s')) := by
  unfold charge at h
  obtain ⟨_, _, h⟩ := bind_eq_ok.1 h
  split at h
  · rename_i x' hx
    cases pure_eq_ok.1 h
    exact .inl ⟨hx, rfl⟩
  · rename_i hx
    exact .inr ⟨hx, pure_eq_ok.1 h⟩

/-- A credit goes to a wallet whose new balance is an amount of money. -/
theorem credit_eq_ok {t : Transaction} (h : s.credit stamp a amount = .ok (t, s')) :
    ∃ w balance, s.wallets.get? a = some w ∧ balance.cents = w.balance.cents + amount.cents ∧
      t = .credit stamp a amount ∧
      s' = { s with
        wallets := s.wallets.put a { w with balance := balance, updatedAt := stamp.time }
        ledger := s.ledger ++ [.credit stamp a amount] } := by
  unfold credit at h
  obtain ⟨_, _, h⟩ := bind_eq_ok.1 h
  split at h
  · cases h
  · rename_i w hw
    split at h
    · cases h
    · rename_i balance hb
      cases pure_eq_ok.1 h
      exact ⟨w, balance, hw, Money.add?_eq_some.1 hb, rfl, rfl⟩

end PaymentStore

end Marketplace
