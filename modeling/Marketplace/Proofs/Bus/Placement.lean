import Mathlib.Algebra.Order.Group.Multiset
import Mathlib.Data.Multiset.UnionInter
import Marketplace.Proofs.Bus.Calls

/-!
# Every copy in its place

The latest stage of a copy says where its parcel is: in a queue, in the hands of a receiver, among
the delayed ones, or nowhere any more. Every call takes some parcels from their spots, puts them or
others elsewhere, and enters the same stage for each of them.

## Results

* `Placed.change`: parcels stay in their places when some of them move.
-/

namespace Marketplace

/-- Where a parcel is on the bus. -/
inductive Spot where
  | queued (p : Parcel)
  | held (h : Held)
  | delayed (d : Delayed)

namespace Spot

def parcel : Spot → Parcel
  | queued p => p
  | held h => h.parcel
  | delayed d => d.parcel

/-- A spot is that of a copy whose latest stage this is. -/
inductive Fits (settings : BusSettings) : Spot → Stage → Prop
  | queued {p : Parcel} {k : Nat} (t : Nat) (attempt : p.attempt = k) :
      Fits settings (.queued p) (.queued k t)
  | held {x : Held} {k r : Nat} (t : Nat) (attempt : x.parcel.attempt = k) (receipt : x.receipt = r) :
      Fits settings (.held x) (.handed k r t)
  | delayed {d : Delayed} {k t : Nat} (attempt : d.parcel.attempt = k + 1)
      (due : d.due = t + settings.delay) : Fits settings (.delayed d) (.refused k t)

end Spot

/-- The copies with something to come are those that have a spot, one each. -/
structure Placed (settings : BusSettings) (history : Copy → List Stage)
    (spots : Multiset (Copy × Spot)) : Prop where
  nodup : (spots.map Prod.fst).Nodup
  fits : ∀ x ∈ spots, ∃ s ∈ (history x.1).head?, x.2.Fits settings s
  covers : ∀ c, ∀ s ∈ (history c).head?, s.isMoving = true → c ∈ spots.map Prod.fst

variable {settings : BusSettings} {history : Copy → List Stage} {old new rest : Multiset (Copy × Spot)}
  {cs : List Copy} {s : Stage}

/-- **Parcels stay in their places when some of them move**: the parcels of some copies leave their
spots, those copies get the same stage, and the ones that are to go on get spots that fit it. -/
theorem Placed.change (h : Placed settings history (old + rest))
    (taken : ∀ x ∈ old, x.1 ∈ cs) (apart : ∀ x ∈ rest, x.1 ∉ cs)
    (nodup : (new.map Prod.fst).Nodup) (put : ∀ x ∈ new, x.1 ∈ cs ∧ x.2.Fits settings s)
    (moving : s.isMoving = true → ∀ c ∈ cs, c ∈ new.map Prod.fst) :
    Placed settings (note cs s history) (new + rest) where
  nodup := by
    have before := h.nodup
    rw [Multiset.map_add, Multiset.nodup_add] at before ⊢
    refine ⟨nodup, before.2.1, Multiset.disjoint_left.2 fun {c} hn hr => ?_⟩
    obtain ⟨x, hx, rfl⟩ := Multiset.mem_map.1 hn
    obtain ⟨y, hy, he⟩ := Multiset.mem_map.1 hr
    exact apart y hy (he ▸ (put x hx).1)
  fits x hx := by
    rcases Multiset.mem_add.1 hx with hx | hx
    · rw [note_of_mem (put x hx).1]
      exact ⟨s, rfl, (put x hx).2⟩
    · rw [note_of_not_mem (apart x hx)]
      exact h.fits x (Multiset.mem_add.2 (.inr hx))
  covers c u hu going := by
    rw [Multiset.map_add, Multiset.mem_add]
    by_cases hc : c ∈ cs
    · rw [note_of_mem hc] at hu
      cases Option.some.inj hu
      exact .inl (moving going c hc)
    · rw [note_of_not_mem hc] at hu
      have kept := h.covers c u hu going
      rw [Multiset.map_add, Multiset.mem_add] at kept
      refine .inr (kept.resolve_left fun ho => hc ?_)
      obtain ⟨x, hx, rfl⟩ := Multiset.mem_map.1 ho
      exact taken x hx

/-- A copy that has a spot moves to another. -/
theorem Placed.move {c : Copy} {a b : Spot} (h : Placed settings history ((c, a) ::ₘ rest))
    (fit : b.Fits settings s) : Placed settings (note [c] s history) ((c, b) ::ₘ rest) := by
  have nodup := h.nodup
  rw [Multiset.map_cons, Multiset.nodup_cons] at nodup
  rw [← Multiset.singleton_add] at h ⊢
  refine h.change (by simp) (fun x hx same => ?_) (by simp) (by simpa using fit) (by simp)
  exact nodup.1 (Multiset.mem_map.2 ⟨x, hx, List.mem_singleton.1 same⟩)

/-- Copies that have a spot leave it for good. -/
theorem Placed.leave (h : Placed settings history (old + rest))
    (left : ∀ c, c ∈ cs ↔ c ∈ old.map Prod.fst) (ended : s.isMoving = false) :
    Placed settings (note cs s history) rest := by
  have nodup := h.nodup
  rw [Multiset.map_add, Multiset.nodup_add] at nodup
  rw [← zero_add rest]
  refine h.change (fun x hx => (left _).2 (Multiset.mem_map_of_mem _ hx)) (fun x hx hc => ?_)
    (by simp) (by simp) (by simp [ended])
  exact Multiset.disjoint_left.1 nodup.2.2 ((left _).1 hc) (Multiset.mem_map_of_mem _ hx)

theorem Placed.leave_one {c : Copy} {a : Spot} (h : Placed settings history ((c, a) ::ₘ rest))
    (ended : s.isMoving = false) : Placed settings (note [c] s history) rest := by
  rw [← Multiset.singleton_add] at h
  exact h.leave (by simp) ended

/-- New copies get spots. -/
theorem Placed.enter (h : Placed settings history rest) (fresh : ∀ c ∈ cs, history c = [])
    (nodup : (new.map Prod.fst).Nodup) (own : ∀ c, c ∈ cs ↔ c ∈ new.map Prod.fst)
    (fit : ∀ x ∈ new, x.2.Fits settings s) : Placed settings (note cs s history) (new + rest) := by
  rw [← zero_add rest] at h
  refine h.change (by simp) (fun x hx hc => ?_) nodup
    (fun x hx => ⟨(own _).2 (Multiset.mem_map_of_mem _ hx), fit x hx⟩) (fun _ c hc => (own c).1 hc)
  obtain ⟨u, hu, -⟩ := h.fits x (Multiset.mem_add.2 (.inr hx))
  rw [fresh x.1 hc] at hu
  cases hu

/-! ## Histories over time -/

/-- The copy is one of a message that was published on the subject of its subscription. -/
def Bus.Knows (b : Bus) (c : Copy) : Prop :=
  ∃ s octets, b.subscriber? c.subscription = some s ∧ b.log[c.message]? = some (s.subject, octets)

/-- A parcel is a copy: it goes to the address of its subscription and holds its message. -/
def Bus.Matches (b : Bus) (p : Parcel) (c : Copy) : Prop :=
  p.subscription = c.subscription ∧ ∃ s, b.subscriber? c.subscription = some s ∧
    p.address = s.address ∧ b.log[c.message]? = some (s.subject, p.octets)

theorem Bus.Matches.knows {b : Bus} {p : Parcel} {c : Copy} (h : b.Matches p c) : b.Knows c := by
  obtain ⟨-, s, found, -, message⟩ := h
  exact ⟨s, p.octets, found, message⟩

theorem Bus.Extends.knows {b b' : Bus} (ext : b.Extends b') {c : Copy} (h : b.Knows c) :
    b'.Knows c := by
  obtain ⟨s, octets, found, message⟩ := h
  obtain ⟨s', found', -, subject, -⟩ := ext.subscriber found
  exact ⟨s', octets, found', subject ▸ ext.log message⟩

theorem Bus.Extends.matches {b b' : Bus} (ext : b.Extends b') {p : Parcel} {c : Copy}
    (h : b.Matches p c) : b'.Matches p c := by
  obtain ⟨own, s, found, address, message⟩ := h
  obtain ⟨s', found', address', subject, -⟩ := ext.subscriber found
  exact ⟨own, s', found', address.trans address'.symm, subject ▸ ext.log message⟩

/-- What a parcel is can be read off an earlier bus that knew its copy. -/
theorem Bus.Extends.matches_of_knows {b b' : Bus} (ext : b.Extends b') {p : Parcel} {c : Copy}
    (known : b.Knows c) (h : b'.Matches p c) : b.Matches p c := by
  obtain ⟨own, s', found', address, message⟩ := h
  obtain ⟨s, octets, found, message'⟩ := known
  obtain ⟨s'', found'', address', subject, -⟩ := ext.subscriber found
  cases found'.symm.trans found''
  have same := message.symm.trans (ext.log message')
  rw [Option.some.injEq, Prod.mk.injEq] at same
  exact ⟨own, s, found, address.trans address', same.2 ▸ message'⟩

/-- A parcel is what its copy and its attempt say. -/
theorem Bus.Matches.eq {b : Bus} {p q : Parcel} {c : Copy} (h : b.Matches p c) (h' : b.Matches q c)
    (attempt : p.attempt = q.attempt) : p = q := by
  obtain ⟨own, s, found, address, message⟩ := h
  obtain ⟨own', s', found', address', message'⟩ := h'
  cases found.symm.trans found'
  have same := message.symm.trans message'
  rw [Option.some.injEq, Prod.mk.injEq] at same
  cases p
  cases q
  simp only [Parcel.mk.injEq]
  exact ⟨own.trans own'.symm, address.trans address'.symm, same.2, attempt⟩

theorem Bus.Extends.takes_eq_false {b b' : Bus} (ext : b.Extends b') {c : Copy} (known : b.Knows c)
    (h : b.takes c.subscription = false) : b'.takes c.subscription = false := by
  obtain ⟨s, -, found, -⟩ := known
  obtain ⟨s', found', -, -, opened⟩ := ext.subscriber found
  unfold takes at h ⊢
  rw [found, Option.any_some] at h
  rw [found', Option.any_some]
  cases hs : s'.isOpen with
  | false => rfl
  | true => rw [opened hs] at h; cases h

/-- The histories are journeys of copies that the bus knows, up to its time and its receipts. -/
structure Chronicle (b : Bus) (history : Copy → List Stage) : Prop where
  journeys : ∀ c, history c ≠ [] → Journey b.settings (history c)
  known : ∀ c, history c ≠ [] → b.Knows c
  times : ∀ c, ∀ s ∈ history c, s.time ≤ b.now
  receipts : ∀ c k r u, .handed k r u ∈ history c → r < b.receipts
  gone : ∀ c, .discarded ∈ history c → b.takes c.subscription = false

theorem Chronicle.message_lt {b : Bus} (h : Chronicle b history) {c : Copy}
    (sent : history c ≠ []) : c.message < b.log.length := by
  obtain ⟨s, octets, -, message⟩ := h.known c sent
  exact (List.getElem?_eq_some_iff.1 message).1

theorem Chronicle.mono {b b' : Bus} (h : Chronicle b history) (ext : b.Extends b') :
    Chronicle b' history where
  journeys c hc := ext.settings ▸ h.journeys c hc
  known c hc := ext.knows (h.known c hc)
  times c s hs := Nat.le_trans (h.times c s hs) ext.now
  receipts c k r u hm := Nat.lt_of_lt_of_le (h.receipts c k r u hm) ext.receipts
  gone c hd := ext.takes_eq_false (h.known c (List.ne_nil_of_mem hd)) (h.gone c hd)

/-- A stage that may follow is entered. -/
theorem Chronicle.note {b : Bus} (h : Chronicle b history)
    (journeys : ∀ c ∈ cs, Journey b.settings (s :: history c) ∧ b.Knows c) (time : s.time ≤ b.now)
    (receipt : ∀ k r u, s = .handed k r u → r < b.receipts)
    (gone : s = .discarded → ∀ c ∈ cs, b.takes c.subscription = false) :
    Chronicle b (note cs s history) where
  journeys c hc := by
    by_cases hm : c ∈ cs
    · rw [note_of_mem hm]
      exact (journeys c hm).1
    · rw [note_of_not_mem hm] at hc ⊢
      exact h.journeys c hc
  known c hc := by
    by_cases hm : c ∈ cs
    · exact (journeys c hm).2
    · rw [note_of_not_mem hm] at hc
      exact h.known c hc
  times c u hu := by
    rcases mem_note.1 hu with ⟨-, rfl⟩ | hu
    · exact time
    · exact h.times c u hu
  receipts c k r u hu := by
    rcases mem_note.1 hu with ⟨-, he⟩ | hu
    · exact receipt k r u he.symm
    · exact h.receipts c k r u hu
  gone c hd := by
    rcases mem_note.1 hd with ⟨hm, he⟩ | hd
    · exact gone he.symm c hm
    · exact h.gone c hd

end Marketplace
