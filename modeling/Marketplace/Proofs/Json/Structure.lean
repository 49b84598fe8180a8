import Marketplace.Json.Vocabulary
import Marketplace.Proofs.Json.ReadPrint
import Marketplace.Proofs.Result
import Marketplace.Proofs.Time.Timestamp

/-!
# Structures read back

A value of the domain is written as JSON and read by a reader of its own. `Reads` says that the two
fit: what is written has a text, and the reader takes it to the value that was written. A structure
is written field by field, so it reads back when its fields do.

## Results

* `readFields_record`: a structure finds its own fields.
* `plain?_record`: an object without repeated names and without inner lists or objects is plain as
  it is.
* `Reads` for the words that all messages use.
-/

namespace Marketplace

namespace Json

/-- A value has a text, and a reader takes it to what it stands for. -/
structure Reads {α : Type} (r : Reader α) (v : Json) (a : α) : Prop where
  data : v.IsData
  read : r v = .ok a

/-- A field of an object is one of a structure and has a value that will do for it. -/
def Fits (shape : List Field) (f : String × Json) : Prop :=
  f.2.IsData ∧ ∃ s, shape.find? (fun s => s.name == f.1) = some s ∧ s.check f.2 = .ok ()

variable {α : Type} {r : Reader α} {v : Json} {a : α} {shape : List Field}
  {fields : List (String × Json)} {name : String}

theorem Reads.check (h : Reads r v a) (name : String) : (field name r).check v = .ok () := by
  show (r v).map (fun _ => ()) = .ok ()
  rw [h.read]
  rfl

theorem Reads.fits (h : Reads r v a)
    (own : shape.find? (fun s => s.name == name) = some (field name r)) : Fits shape (name, v) :=
  ⟨h.data, field name r, own, h.check name⟩

theorem Reads.required (h : Reads r v a) (own : field? name fields = some v) :
    required name r fields = .ok a := by
  unfold Json.required
  rw [own]
  exact h.read

/-- Reads a field of a structure and goes on with its value. -/
theorem Reads.andThen {β : Type} {next : α → Except Reject β} {b : β} (h : Reads r v a)
    (own : field? name fields = some v) (rest : next a = .ok b) :
    (Json.required name r fields >>= next) = .ok b :=
  bind_eq_ok.2 ⟨a, h.required own, rest⟩

theorem fieldsAreData_iff : ∀ {fields : List (String × Json)},
    FieldsAreData fields ↔ ∀ f ∈ fields, f.2.IsData
  | [] => iff_of_true trivial fun _ h => nomatch h
  | (k, v) :: fs => by
    rw [List.forall_mem_cons]
    exact and_congr Iff.rfl fieldsAreData_iff

/-! ## Objects -/

theorem checkFields_fits : ∀ (rest seen : List (String × Json)), (∀ f ∈ rest, Fits shape f) →
    ((seen ++ rest).map Prod.fst).Nodup → checkFields shape seen rest = .ok (seen ++ rest)
  | [], seen, _, _ => by rw [checkFields, List.append_nil]
  | (k, v) :: rest, seen, fits, nodup => by
    obtain ⟨data, s, own, check⟩ := fits (k, v) List.mem_cons_self
    have unseen : seen.any (fun f => f.1 == k) = false := by
      apply List.any_eq_false.2
      intro f hf same
      rw [List.map_append, List.nodup_append] at nodup
      exact nodup.2.2 f.1 (List.mem_map_of_mem hf) k List.mem_cons_self (beq_iff_eq.1 same)
    have next := checkFields_fits rest (seen ++ [(k, v)])
      (fun f hf => fits f (List.mem_cons_of_mem _ hf)) (by simpa using nodup)
    rw [List.append_assoc, List.singleton_append] at next
    rw [← next, checkFields.eq_def]
    split
    · rename_i he
      cases he
    · rename_i he
      cases he
      exact data.elim
    · rename_i he
      cases he
      rw [own]
      simp only [unseen, Bool.false_eq_true, if_false, check]
      rfl

/-- **A structure finds its own fields**, in whatever order they are written. -/
theorem readFields_record (fits : ∀ f ∈ fields, Fits shape f)
    (nodup : (fields.map Prod.fst).Nodup) : readFields shape (.record fields) = .ok fields :=
  checkFields_fits fields [] fits nodup

theorem data_record (fits : ∀ f ∈ fields, Fits shape f) : (Json.record fields).IsData :=
  fieldsAreData_iff.2 fun f hf => (fits f hf).1

/-- A structure whose fields fit reads back when its value can be put together from them. -/
theorem reads_record {make : List (String × Json) → Except Reject α}
    (fits : ∀ f ∈ fields, Fits shape f) (nodup : (fields.map Prod.fst).Nodup)
    (made : make fields = .ok a) :
    Reads (fun v => readFields shape v >>= make) (.record fields) a :=
  ⟨data_record fits, bind_eq_ok.2 ⟨fields, readFields_record fits nodup, made⟩⟩

/-- A value without inner values. -/
def IsFlat (v : Json) : Prop := ∀ depth, v.plain? depth = some v

theorem plainFields?_flat (depth : Nat) : ∀ {fields : List (String × Json)},
    (∀ f ∈ fields, f.2.IsFlat) → (fields.map Prod.fst).Nodup →
    plainFields? depth fields = some fields
  | [], _, _ => rfl
  | (k, v) :: fs, flat, nodup => by
    rw [List.map_cons, List.nodup_cons] at nodup
    have rest := plainFields?_flat depth (fun f hf => flat f (List.mem_cons_of_mem _ hf)) nodup.2
    have new : fs.any (fun f => f.1 == k) = false := by
      apply List.any_eq_false.2
      intro f hf same
      exact nodup.1 (List.mem_map.2 ⟨f, hf, beq_iff_eq.1 same⟩)
    rw [plainFields?, flat (k, v) List.mem_cons_self depth, rest]
    simp only [Option.bind_eq_bind, Option.bind_some, new, Bool.false_eq_true, if_false]

/-- An object of flat values is plain as it is. -/
theorem plain?_record (depth : Nat) (flat : ∀ f ∈ fields, f.2.IsFlat)
    (nodup : (fields.map Prod.fst).Nodup) :
    (Json.record fields).plain? (depth + 1) = some (.record fields) := by
  rw [plain?, plainFields?_flat depth flat nodup]
  rfl

theorem isFlat_text (s : String) : (Json.text s).IsFlat := fun depth => by cases depth <;> rfl

theorem isFlat_integer (n : Int) : (Json.integer n).IsFlat := fun depth => by cases depth <;> rfl

/-! ## Words -/

theorem reads_text (s : String) : Reads readText (.text s) s := ⟨trivial, rfl⟩

theorem reads_name {f : String → Option α} (h : f name = some a) :
    Reads (readName f) (.text name) a := by
  refine ⟨trivial, ?_⟩
  conv => lhs; whnf
  rw [h]

theorem reads_textAs {f : String → Option α} (h : f name = some a) :
    Reads (readTextAs f) (.text name) a := by
  refine ⟨trivial, ?_⟩
  conv => lhs; whnf
  rw [h]

theorem reads_integer {low high n : Int} (h : low ≤ n ∧ n ≤ high)
    (data : (Json.integer n).IsData) : Reads (readInteger low high) (.integer n) n :=
  ⟨data, if_pos h⟩

theorem reads_uInt32 (n : UInt32) : Reads readUInt32 (.ofNat n.toNat) n := by
  have small : n.toNat < 2 ^ 32 := n.toNat_lt
  have data : (Json.ofNat n.toNat).IsData := ⟨by omega, by omega⟩
  refine ⟨data, ?_⟩
  unfold readUInt32 ofNat
  rw [(reads_integer ⟨by omega, by omega⟩ data).read]
  exact congrArg Except.ok (by simp)

theorem reads_uInt64 (n : UInt64) : Reads readUInt64 (.ofNat n.toNat) n := by
  have small : n.toNat < 2 ^ 64 := n.toNat_lt
  have data : (Json.ofNat n.toNat).IsData := ⟨by omega, by omega⟩
  refine ⟨data, ?_⟩
  unfold readUInt64 ofNat
  rw [(reads_integer ⟨by omega, by omega⟩ data).read]
  exact congrArg Except.ok (by simp)

end Json

open Json

theorem AccountId.reads (a : AccountId) : Reads AccountId.read a.toJson a := by
  refine ⟨(reads_uInt64 a.number).data, ?_⟩
  unfold AccountId.read AccountId.toJson
  rw [(reads_uInt64 a.number).read]
  rfl

theorem Uuid.reads (u : Uuid) : Reads Uuid.read u.toJson u := by
  apply reads_textAs
  show parse? (String.ofList u.toText).toList = some u
  rw [String.toList_ofList]
  exact parse?_toText u

theorem Id.reads {kind : Kind} (i : Id kind) : Reads Id.read i.toJson i := by
  refine ⟨i.uuid.reads.data, ?_⟩
  unfold Id.read Id.toJson
  rw [i.uuid.reads.read]
  rfl

theorem Money.reads (m : Money) : Reads Money.read m.toJson m := by
  refine ⟨⟨m.lower, Int.le_trans m.upper (by omega)⟩, ?_⟩
  unfold Money.read Money.toJson
  dsimp only
  rw [ofCents?_cents]

theorem Role.reads (r : Role) : Reads Role.read r.toJson r := reads_name (ofName?_name r)

theorem PolicyMethod.reads (m : PolicyMethod) : Reads PolicyMethod.read m.toJson m :=
  reads_name (ofName?_name m)

theorem Time.Timestamp.reads {t : Timestamp} (h : inRange t.date = true) :
    Reads Timestamp.read t.toJson t := by
  apply reads_textAs
  rw [String.toList_ofList]
  exact parse?_toText t h

end Marketplace
