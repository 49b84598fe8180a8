import Marketplace.Event.Handler

/-!
# Results

How a sequence of steps that may fail comes to its value. The operations of the stores are such
sequences; their lemmas open them one step at a time.
-/

namespace Marketplace

variable {ε α β : Type}

/-- A sequence succeeds exactly when its first step does and the rest does from there. -/
theorem bind_eq_ok {x : Except ε α} {f : α → Except ε β} {b : β} :
    (x >>= f) = .ok b ↔ ∃ a, x = .ok a ∧ f a = .ok b := by
  cases x with
  | error e => simp [bind, Except.bind]
  | ok a => simp [bind, Except.bind]

theorem pure_eq_ok {a b : α} : (pure a : Except ε α) = .ok b ↔ a = b := by
  show (Except.ok a : Except ε α) = .ok b ↔ a = b
  exact Except.ok.injEq a b ▸ Iff.rfl

/-- A sequence fails exactly when its first step does or the rest does from there. -/
theorem bind_eq_error {x : Except ε α} {f : α → Except ε β} {e : ε} :
    (x >>= f) = .error e ↔ x = .error e ∨ ∃ a, x = .ok a ∧ f a = .error e := by
  cases x with
  | error e => simp [bind, Except.bind]
  | ok a => simp [bind, Except.bind]

namespace Handler

variable [Retryable ε] {x : Except ε Unit}

theorem disposition_eq_ack_iff : disposition x = .ack ↔ x = .ok () := by
  cases x with
  | error e =>
    unfold disposition
    dsimp only
    split <;> simp
  | ok u => exact iff_of_true rfl rfl

theorem disposition_eq_retry_iff :
    disposition x = .retry ↔ ∃ e, x = .error e ∧ Retryable.isRetryable e = true := by
  cases x with
  | error e =>
    unfold disposition
    dsimp only
    split <;> simp [*]
  | ok u => exact iff_of_false (fun h => nomatch h) fun ⟨_, h, _⟩ => nomatch h

theorem disposition_eq_drop_iff :
    disposition x = .drop ↔ ∃ e, x = .error e ∧ Retryable.isRetryable e = false := by
  cases x with
  | error e =>
    unfold disposition
    dsimp only
    split <;> simp [*]
  | ok u => exact iff_of_false (fun h => nomatch h) fun ⟨_, h, _⟩ => nomatch h

end Handler

end Marketplace
