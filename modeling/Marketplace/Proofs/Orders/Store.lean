import Marketplace.Market.Orders
import Marketplace.Proofs.Result

/-!
# What the calls of the order store do

One lemma for every call: what it answered and what the store is afterwards, when it succeeded.
-/

namespace Marketplace

namespace OrderStore

variable {s s' : OrderStore} {id : OrderId} {status : OrderStatus} {time : Instant}

/-- An order is added under an identifier that no order has. -/
theorem create_eq_ok {o a : Order} (h : s.create o = .ok (a, s')) :
    s.orders.get? o.id = none ∧ a = o ∧ s' = { s with orders := s.orders.put o.id o } := by
  unfold create at h
  obtain ⟨_, _, h⟩ := bind_eq_ok.1 h
  split at h
  · cases h
  · rename_i known
    cases h
    refine ⟨?_, rfl, rfl⟩
    cases ho : s.orders.get? o.id with
    | none => rfl
    | some b => exact (known (by unfold Table.contains; rw [ho]; rfl)).elim

/-- There is no such order, or it moves forward, or it is that far and stays. -/
theorem updateStatus_eq_ok {x : Option StatusChange}
    (h : s.updateStatus id status time = .ok (x, s')) :
    (s.orders.get? id = none ∧ x = none) ∨
    ∃ o, s.orders.get? id = some o ∧
      ((o.status.canMoveTo status = true ∧ x = some (.applied o.status status) ∧
          s' = { s with
            orders := s.orders.put id { o with status := status, updatedAt := time } }) ∨
        (o.status.canMoveTo status = false ∧ x = some (.ignored o.status) ∧ s' = s)) := by
  unfold updateStatus at h
  obtain ⟨_, _, h⟩ := bind_eq_ok.1 h
  split at h
  · rename_i ho
    cases pure_eq_ok.1 h
    exact .inl ⟨ho, rfl⟩
  · rename_i o ho
    refine .inr ⟨o, ho, ?_⟩
    split at h
    · rename_i hm
      cases pure_eq_ok.1 h
      exact .inl ⟨hm, rfl, rfl⟩
    · rename_i hm
      cases pure_eq_ok.1 h
      exact .inr ⟨Bool.eq_false_iff.2 hm, rfl, rfl⟩

end OrderStore

namespace Orders

/-- An order that is asked to move is there, and moves forward or is that far. -/
theorem move_eq_ok {id : OrderId} {status : OrderStatus} {stamp : Stamp} {s : OrderStore}
    {c : Commit OrderStore Unit} (hc : move id status stamp s = .ok c) :
    c.news = [] ∧ ∃ o, s.orders.get? id = some o ∧
      ((o.status.canMoveTo status = true ∧ c.store = { s with
          orders := s.orders.put id { o with status := status, updatedAt := stamp.time } }) ∨
        (o.status.canMoveTo status = false ∧ c.store = s)) := by
  unfold move at hc
  obtain ⟨⟨x, s'⟩, hs, hx⟩ := bind_eq_ok.1 hc
  rcases OrderStore.updateStatus_eq_ok hs with
    ⟨_, rfl⟩ | ⟨o, ho, ⟨hm, rfl, rfl⟩ | ⟨hm, rfl, rfl⟩⟩
  · cases hx
  · cases hx
    exact ⟨rfl, o, ho, .inl ⟨hm, rfl⟩⟩
  · cases hx
    exact ⟨rfl, o, ho, .inr ⟨hm, rfl⟩⟩

end Orders

end Marketplace
