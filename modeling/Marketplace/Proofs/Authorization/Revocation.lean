import Marketplace.Proofs.Announcement
import Marketplace.Proofs.Authorization.Store

/-!
# The end of an account, handled again and again

When an account ends, the authorization service takes its grants off the list and announces each
revocation. The list changes first. If the bus fails in the middle, the message comes again and
finds nothing left to revoke, so what had not been announced by then never is.

## Results

* `attempt_cases`: what one attempt does to the list, and what it announces.
* `revocations_announced_iff`: all revocations are announced exactly when no attempt failed on the
  bus.
-/

namespace Marketplace

namespace Authorization

/-- What an attempt finds apart from the list of grants, and whether that can be reached. -/
structure Surroundings where
  isDown : Bool
  cache : GrantCache
  outlet : Outlet
  supply : Supply

namespace Surroundings

def desk (w : Surroundings) (s : GrantBook) : Desk GrantBook :=
  ⟨{ s with isDown := w.isDown }, w.cache, w.outlet, w.supply⟩

def ofDesk (d : Desk GrantBook) : Surroundings := ⟨d.store.isDown, d.cache, d.outlet, d.supply⟩

end Surroundings

section Attempts

variable {grants : Grants} {correlation : String} {a : AccountId}

/-- An attempt to handle the end of an account. -/
def attempt (grants : Grants) (correlation : String) (a : AccountId) (d : Desk GrantBook) :
    Except ServiceError Unit × Desk GrantBook :=
  participant.handle grants correlation (.accountDeleted a) d

/-- What goes out at an attempt. -/
def told (correlation : String) (a : AccountId) (d : Desk GrantBook) : List Payload :=
  (participant.handled correlation (.accountDeleted a) d).map Event.payload

/-- **One attempt**: the list cannot be reached, or the grants are gone and announced, or they are
gone and some are not announced. -/
theorem attempt_cases (grants : Grants) (correlation : String) (a : AccountId)
    (d : Desk GrantBook) :
    ((attempt grants correlation a d).1 = .error (.storeUnavailable "policy store") ∧
      (attempt grants correlation a d).2.store = d.store ∧ told correlation a d = []) ∨
    ((attempt grants correlation a d).2.store = d.store.without a.subject ∧
      (((attempt grants correlation a d).1 = .ok () ∧
          told correlation a d = revocations a.subject d.store) ∨
        ∃ b, (attempt grants correlation a d).1 = .error (.event (.bus b)) ∧
          told correlation a d <+: revocations a.subject d.store ∧
          told correlation a d ≠ revocations a.subject d.store)) := by
  have outcome := participant.perform_outcome correlation (revokeAll a) d
  have ends := revokeAll_cases a d.supply.stamp.1 d.store
  change Outcome _ d.store (attempt grants correlation a d).1
    (attempt grants correlation a d).2.store (told correlation a d) at outcome
  generalize hx : (attempt grants correlation a d).1 = x at outcome
  generalize (attempt grants correlation a d).2.store = s at outcome
  generalize ht : told correlation a d = said at outcome
  cases outcome with
  | refused e h =>
    rcases ends with ⟨_, he⟩ | ⟨_, c, hc, _⟩
    · rw [he] at h
      cases h
      exact .inl ⟨rfl, rfl, rfl⟩
    · rw [hc] at h
      cases h
  | done c h =>
    rcases ends with ⟨_, he⟩ | ⟨_, c', hc, store, news⟩
    · rw [he] at h
      cases h
    · rw [hc] at h
      cases h
      exact .inr ⟨store, .inl ⟨rfl, news⟩⟩
  | cut c h b _ part =>
    rcases ends with ⟨_, he⟩ | ⟨_, c, hc, store, news⟩
    · rw [he] at h
      cases h
    · rw [hc] at h
      cases h
      refine .inr ⟨store, .inr ⟨b, rfl, news ▸ part, ?_⟩⟩
      intro all
      have lt := participant.length_performed_lt correlation (revokeAll a) d hc hx
      have := congrArg List.length (ht.trans (all.trans news.symm))
      unfold told at this
      rw [List.length_map] at this
      exact absurd this (Nat.ne_of_lt lt)

/-- The end of an account is handled again until an attempt succeeds: the list before, the failures
on the way, the list afterwards, and everything that was announced. -/
inductive Redelivery (grants : Grants) (correlation : String) (a : AccountId) :
    GrantBook → List ServiceError → GrantBook → List Payload → Prop
  | settled (w : Surroundings) (s : GrantBook)
    (ok : (attempt grants correlation a (w.desk s)).1 = .ok ()) :
    Redelivery grants correlation a s [] (attempt grants correlation a (w.desk s)).2.store
      (told correlation a (w.desk s))
  | again (w : Surroundings) (s : GrantBook) (e : ServiceError)
    (failed : (attempt grants correlation a (w.desk s)).1 = .error e)
    (retry : e.isRetryable = true) {failures : List ServiceError} {s' : GrantBook}
    {heard : List Payload}
    (rest : Redelivery grants correlation a (attempt grants correlation a (w.desk s)).2.store
      failures s' heard) :
    Redelivery grants correlation a s (e :: failures) s' (told correlation a (w.desk s) ++ heard)

/-- Only the list could not be reached, whenever an attempt failed. -/
def OnlyStore (failures : List ServiceError) : Prop :=
  ∀ e ∈ failures, ∃ store, e = .storeUnavailable store

variable {s s' : GrantBook} {failures : List ServiceError} {heard : List Payload}

/-- **The account loses its grants, and the first part of the revocations is announced**: all of
them if no attempt failed but for the list. -/
theorem Redelivery.effect (run : Redelivery grants correlation a s failures s' heard) :
    (∀ g, s'.Holds g ↔ s.Holds g ∧ g.subject ≠ a.subject) ∧
    heard <+: revocations a.subject s ∧
    (heard = revocations a.subject s ↔ OnlyStore failures) := by
  induction run with
  | settled w s ok =>
    rcases attempt_cases grants correlation a (w.desk s) with
      ⟨hx, _⟩ | ⟨store, ⟨_, all⟩ | ⟨b, hx, _⟩⟩
    · rw [hx] at ok
      cases ok
    · rw [store, all]
      refine ⟨fun g => GrantBook.holds_without, List.prefix_rfl, ?_⟩
      exact iff_of_true rfl fun _ h => nomatch h
    · rw [hx] at ok
      cases ok
  | again w s e failed _ rest ih =>
    obtain ⟨holds, part, whole⟩ := ih
    rcases attempt_cases grants correlation a (w.desk s) with
      ⟨hx, store, none⟩ | ⟨store, ⟨hx, _⟩ | ⟨b, hx, first, short⟩⟩
    · -- nothing has happened yet
      rw [hx] at failed
      cases failed
      rw [store] at holds part whole
      rw [none, List.nil_append]
      refine ⟨holds, part, whole.trans ?_⟩
      unfold OnlyStore
      rw [List.forall_mem_cons]
      exact ⟨fun h => ⟨⟨_, rfl⟩, h⟩, fun h => h.2⟩
    · rw [hx] at failed
      cases failed
    · -- nothing is left to announce
      rw [hx] at failed
      cases failed
      rw [store] at holds part
      rw [revocations_without, List.prefix_nil] at part
      rw [part, List.append_nil]
      refine ⟨?_, first, ?_⟩
      · intro g
        rw [holds, GrantBook.holds_without, and_assoc, and_self]
        rfl
      · apply iff_of_false short
        intro only
        obtain ⟨_, he⟩ := only _ List.mem_cons_self
        cases he

end Attempts

/-- **All revocations are announced exactly when no attempt failed on the bus.** The grants of the
account are gone either way. -/
theorem revocations_announced_iff {grants : Grants} {correlation : String} {a : AccountId}
    {s s' : GrantBook} {failures : List ServiceError} {heard : List Payload}
    (run : Redelivery grants correlation a s failures s' heard) :
    (∀ g, s'.Holds g ↔ s.Holds g ∧ g.subject ≠ a.subject) ∧
    ((∀ g, s.Holds g → ¬s'.Holds g → .policyUpdated .delete g ∈ heard) ↔ OnlyStore failures) := by
  obtain ⟨holds, part, whole⟩ := run.effect
  refine ⟨holds, ?_⟩
  rw [← whole]
  constructor
  · intro all
    obtain ⟨rest, split⟩ := part
    cases rest with
    | nil => rw [← split, List.append_nil]
    | cons p rest =>
      -- a revocation that was left out was not announced before
      have nodup := nodup_revocations (s := s) a.subject
      rw [← split, List.nodup_append] at nodup
      have left : p ∈ revocations a.subject s := by
        rw [← split]
        exact List.mem_append_cons_self
      obtain ⟨g, hg, rfl⟩ := List.mem_map.1 left
      obtain ⟨held, own⟩ := GrantBook.mem_select_none.1 hg
      have gone : ¬s'.Holds g := fun h => ((holds g).1 h).2 own
      exact (nodup.2.2 _ (all g held gone) _ List.mem_cons_self rfl).elim
  · rintro rfl g held gone
    rw [mem_revocations]
    exact ⟨held, Decidable.byContradiction fun other => gone ((holds g).2 ⟨held, other⟩)⟩

/-! ## A revocation that is never announced -/

def sampleGrant : Grant := ⟨"5", Resource.accounts, Action.any, "5"⟩

def sampleBook : GrantBook := GrantBook.empty.changed .put sampleGrant

def sampleGrants : Grants := ⟨1000, 0, sampleBook.source⟩

/-- A bus that fails at the first event. -/
def sampleFailing : Surroundings :=
  ⟨false, .empty, ⟨{ Bus.new Bus.standardSettings with failOn := some 1 }, .empty⟩, ⟨⟨0⟩, 0⟩⟩

/-- After the failed attempt. -/
def sampleDesk : Desk GrantBook :=
  (attempt sampleGrants "r1" ⟨5⟩ (sampleFailing.desk sampleBook)).2

/-- The first attempt is to be made again, the second succeeds, and neither announces anything. -/
theorem sampleRedelivery : ∃ failures, Redelivery sampleGrants "r1" ⟨5⟩ sampleBook failures
    (attempt sampleGrants "r1" ⟨5⟩ sampleDesk).2.store [] := by
  have first : told "r1" ⟨5⟩ (sampleFailing.desk sampleBook) = [] := by decide +kernel
  have second : told "r1" ⟨5⟩ sampleDesk = [] := by decide +kernel
  have comes : Handler.disposition (attempt sampleGrants "r1" ⟨5⟩
      (sampleFailing.desk sampleBook)).1 = .retry := by decide +kernel
  have ends : Handler.disposition (attempt sampleGrants "r1" ⟨5⟩ sampleDesk).1 = .ack := by
    decide +kernel
  obtain ⟨e, failed, retry⟩ := Handler.disposition_eq_retry_iff.1 comes
  have run := Redelivery.again sampleFailing sampleBook e failed retry
    (.settled (.ofDesk sampleDesk) sampleDesk.store (Handler.disposition_eq_ack_iff.1 ends))
  rw [first] at run
  exact ⟨[e], second ▸ run⟩

/-- A grant is gone, the message is settled, and nobody was told. -/
theorem revocation_unannounced : ∃ failures s' heard,
    Redelivery sampleGrants "r1" ⟨5⟩ sampleBook failures s' heard ∧
    ¬∀ g, sampleBook.Holds g → ¬s'.Holds g → .policyUpdated .delete g ∈ heard := by
  obtain ⟨failures, run⟩ := sampleRedelivery
  refine ⟨failures, _, [], run, ?_⟩
  intro all
  exact List.not_mem_nil (all sampleGrant (by decide) (by decide +kernel))

theorem revocations_announced_iff_of_sampleRedelivery : ∃ failures,
    Redelivery sampleGrants "r1" ⟨5⟩ sampleBook failures
      (attempt sampleGrants "r1" ⟨5⟩ sampleDesk).2.store [] ∧ ¬OnlyStore failures := by
  obtain ⟨failures, run⟩ := sampleRedelivery
  refine ⟨failures, run, ?_⟩
  rw [← (revocations_announced_iff run).2]
  intro all
  exact List.not_mem_nil (all sampleGrant (by decide) (by decide +kernel))

end Authorization

end Marketplace
