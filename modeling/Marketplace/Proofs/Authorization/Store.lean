import Marketplace.Market.Authorization
import Marketplace.Proofs.Policy.Cache
import Marketplace.Proofs.Result

/-!
# What the calls of the authorization service do

One lemma for every call: what the list of grants is afterwards and what is announced, when it
succeeded. Giving and revoking are one change of one grant, told apart by a method. A cache that
asks the list gets the well-formed grants of the subject on the type, by their texts.
-/

namespace Marketplace

namespace GrantBook

variable {s : GrantBook} {g h : Grant} {subject : String}

/-- The grant is on the list. -/
def Holds (s : GrantBook) (g : Grant) : Prop := s.grants.contains g = true

instance (s : GrantBook) (g : Grant) : Decidable (s.Holds g) :=
  inferInstanceAs (Decidable (s.grants.contains g = true))

theorem holds_iff : s.Holds g ↔ g ∈ s.grants.keys := Table.mem_keys_iff.symm

theorem not_holds_empty (g : Grant) : ¬empty.Holds g := nofun

theorem check_eq_ok_iff : s.check = .ok () ↔ s.isDown = false := by
  unfold check
  cases s.isDown <;> simp

/-- The list after one grant was put on it or taken off it. -/
def changed (m : PolicyMethod) (g : Grant) (s : GrantBook) : GrantBook :=
  match m with
  | .put => { s with grants := s.grants.put g () }
  | .delete => { s with grants := s.grants.erase g }

theorem holds_changed {m : PolicyMethod} :
    (s.changed m g).Holds h ↔ if h = g then m = .put else s.Holds h := by
  cases m with
  | put =>
    unfold Holds changed Table.contains
    rw [Table.get?_put]
    split <;> simp
  | delete =>
    unfold Holds changed Table.contains
    rw [Table.get?_erase]
    split <;> simp

/-- The list without the grants of a subject. -/
def without (subject : String) (s : GrantBook) : GrantBook :=
  { s with grants := s.grants.keep fun g _ => g.subject ≠ subject }

theorem holds_without : (s.without subject).Holds g ↔ s.Holds g ∧ g.subject ≠ subject := by
  unfold Holds without Table.contains
  rw [Table.get?_keep]
  cases s.grants.get? g with
  | none => simp
  | some u => by_cases hs : g.subject = subject <;> simp [Option.filter, hs]

theorem mem_select {t : Option String} :
    g ∈ s.select subject t ↔
      s.Holds g ∧ g.subject = subject ∧ (t.all fun t => g.resourceType = t) = true := by
  unfold select
  rw [List.mem_filter, holds_iff, Bool.and_eq_true, decide_eq_true_iff]

theorem mem_select_none : g ∈ s.select subject none ↔ s.Holds g ∧ g.subject = subject := by
  rw [mem_select]
  simp

theorem nodup_select (t : Option String) : (s.select subject t).Nodup :=
  List.Pairwise.filter _ s.grants.nodup

theorem source_of_up (up : s.isDown = false) (t : String) :
    s.source subject t = .ok ((s.select subject (some t)).map Grant.text) := by
  unfold source texts list
  rw [check_eq_ok_iff.2 up]
  rfl

theorem source_of_down (subject : String) (down : s.isDown = true) (t : String) :
    ∃ e, s.source subject t = .error e := by
  have refused : s.check = .error (.storeUnavailable "policy store") := by
    unfold check
    rw [if_pos down]
  unfold source texts list
  rw [refused]
  exact ⟨_, rfl⟩

/-- **What the list tells a cache** about a subject and a type. -/
theorem names_source {t : String} :
    Fetched.Names (s.source subject t) g ↔ s.isDown = false ∧
      s.Holds g ∧ g.subject = subject ∧ g.resourceType = t ∧ g.isWellFormed = true := by
  unfold Fetched.Names
  cases hd : s.isDown with
  | true =>
    obtain ⟨e, he⟩ := source_of_down subject hd t
    rw [he]
    simp
  | false =>
    rw [source_of_up hd t]
    constructor
    · rintro ⟨texts, ht, text, hm, hp⟩
      cases ht
      obtain ⟨h, hh, rfl⟩ := List.mem_map.1 hm
      cases Grant.eq_of_parse_text hp
      obtain ⟨held, own, type⟩ := mem_select.1 hh
      exact ⟨rfl, held, own, by simpa using type, (Grant.text_of_parse hp).1⟩
    · rintro ⟨_, held, own, type, good⟩
      have hm : g ∈ s.select subject (some t) := mem_select.2 ⟨held, own, by simpa using type⟩
      exact ⟨_, rfl, g.text, List.mem_map_of_mem hm, Grant.parse_eq_ok_iff.2 ⟨good, rfl⟩⟩

/-! ## The calls -/

variable {s' : GrantBook} {x : Bool}

theorem insert_eq_ok (h : s.insert g = .ok (x, s')) : s.isDown = false ∧ s' = s.changed .put g := by
  unfold insert at h
  obtain ⟨_, up, h⟩ := bind_eq_ok.1 h
  cases h
  exact ⟨check_eq_ok_iff.1 up, rfl⟩

theorem remove_eq_ok (h : s.remove g = .ok (x, s')) :
    s.isDown = false ∧ s' = s.changed .delete g := by
  unfold remove at h
  obtain ⟨_, up, h⟩ := bind_eq_ok.1 h
  cases h
  exact ⟨check_eq_ok_iff.1 up, rfl⟩

end GrantBook

namespace Authorization

variable {s : GrantBook} {stamp : Stamp} {g : Grant} {c : Commit GrantBook Unit}

theorem validate_eq_ok_iff : validate g = .ok () ↔ g.isWellFormed = true := by
  unfold validate
  cases g.isWellFormed <;> simp

/-- Gives or revokes a grant. -/
def alter : PolicyMethod → Grant → Operation GrantBook Unit
  | .put, g => give g
  | .delete, g => revoke g

/-- The request that a grant be given or revoked. -/
def request : PolicyMethod → Grant → Payload
  | .put, g => .upsertPolicy g
  | .delete, g => .removePolicy g

theorem react_request (m : PolicyMethod) (g : Grant) :
    participant.react (request m g) = some (.perform (alter m g)) := by
  cases m <;> rfl

/-- **Giving or revoking** changes one well-formed grant and announces the change, whether it was
one or not. -/
theorem alter_eq_ok {m : PolicyMethod} (h : alter m g stamp s = .ok c) :
    g.isWellFormed = true ∧ s.isDown = false ∧ c.store = s.changed m g ∧
      c.news = [.policyUpdated m g] := by
  cases m with
  | put =>
    unfold alter give at h
    obtain ⟨_, good, h⟩ := bind_eq_ok.1 h
    obtain ⟨⟨x, s'⟩, hi, h⟩ := bind_eq_ok.1 h
    cases h
    obtain ⟨up, rfl⟩ := GrantBook.insert_eq_ok hi
    exact ⟨validate_eq_ok_iff.1 good, up, rfl, rfl⟩
  | delete =>
    unfold alter revoke at h
    obtain ⟨_, good, h⟩ := bind_eq_ok.1 h
    obtain ⟨⟨x, s'⟩, hi, h⟩ := bind_eq_ok.1 h
    cases h
    obtain ⟨up, rfl⟩ := GrantBook.remove_eq_ok hi
    exact ⟨validate_eq_ok_iff.1 good, up, rfl, rfl⟩

theorem alter_of_malformed (m : PolicyMethod) (bad : g.isWellFormed = false) :
    alter m g stamp s = .error (.invalid ("invalid grant: " ++ g.text)) := by
  have refused : validate g = .error (.invalid ("invalid grant: " ++ g.text)) := by
    unfold validate
    rw [bad]
    rfl
  cases m with
  | put =>
    change give g stamp s = _
    unfold give
    rw [refused]
    rfl
  | delete =>
    change revoke g stamp s = _
    unfold revoke
    rw [refused]
    rfl

/-- A well-formed grant is given or revoked when the store is up. -/
theorem alter_of_up (m : PolicyMethod) (stamp : Stamp) (good : g.isWellFormed = true)
    (up : s.isDown = false) : ∃ c, alter m g stamp s = .ok c := by
  obtain ⟨grants, isDown⟩ := s
  have valid := validate_eq_ok_iff.2 good
  cases up
  cases m with
  | put =>
    change ∃ c, give g stamp ⟨grants, false⟩ = .ok c
    unfold give
    rw [valid]
    exact ⟨_, rfl⟩
  | delete =>
    change ∃ c, revoke g stamp ⟨grants, false⟩ = .ok c
    unfold revoke
    rw [valid]
    exact ⟨_, rfl⟩

theorem alter_eq_error {m : PolicyMethod} {e : ServiceError} (h : alter m g stamp s = .error e)
    (good : g.isWellFormed = true) : e = .storeUnavailable "policy store" := by
  obtain ⟨grants, isDown⟩ := s
  have valid := validate_eq_ok_iff.2 good
  cases m with
  | put =>
    change give g stamp ⟨grants, isDown⟩ = .error e at h
    unfold give at h
    rw [valid] at h
    cases isDown <;> cases h
    rfl
  | delete =>
    change revoke g stamp ⟨grants, isDown⟩ = .error e at h
    unfold revoke at h
    rw [valid] at h
    cases isDown <;> cases h
    rfl

/-- What is announced when a subject loses its grants. -/
def revocations (subject : String) (s : GrantBook) : List Payload :=
  (s.select subject none).map (.policyUpdated .delete)

theorem mem_revocations {subject : String} :
    .policyUpdated .delete g ∈ revocations subject s ↔ s.Holds g ∧ g.subject = subject := by
  unfold revocations
  rw [List.mem_map, ← GrantBook.mem_select_none]
  constructor
  · rintro ⟨h, hh, he⟩
    cases he
    exact hh
  · exact fun hg => ⟨g, hg, rfl⟩

theorem nodup_revocations (subject : String) : (revocations subject s).Nodup := by
  refine List.Pairwise.map _ ?_ (GrantBook.nodup_select none)
  intro g h differ he
  cases he
  exact differ rfl

theorem revocations_without (subject : String) :
    revocations subject (s.without subject) = [] := by
  have none : (s.without subject).select subject none = [] := by
    rw [List.eq_nil_iff_forall_not_mem]
    intro g hg
    obtain ⟨held, own⟩ := GrantBook.mem_select_none.1 hg
    exact (GrantBook.holds_without.1 held).2 own
  unfold revocations
  rw [none]
  rfl

/-- **Revoking all grants of an account** succeeds when the store is up. -/
theorem revokeAll_cases (a : AccountId) (stamp : Stamp) (s : GrantBook) :
    (s.isDown = true ∧ revokeAll a stamp s = .error (.storeUnavailable "policy store")) ∨
    (s.isDown = false ∧ ∃ c, revokeAll a stamp s = .ok c ∧ c.store = s.without a.subject ∧
      c.news = revocations a.subject s) := by
  obtain ⟨grants, isDown⟩ := s
  cases isDown with
  | true => exact .inl ⟨rfl, rfl⟩
  | false => exact .inr ⟨rfl, _, rfl, rfl, rfl⟩

end Authorization

end Marketplace
