/-!
# Finite maps whose entries stand in key order

The keys of a card's maps come with a fixed order, be they tiers (`TooltipLine`), attributes
(`Attributes`), parameters (`FactParams`) or the numbers of abilities and auras in a `Document`, and
every text that shows a map shows its entries in that order. An `OrderedMap` keeps its entries
strictly sorted, so it holds a key at most once and two maps are equal exactly when they have the
same entries.

Results:

* **Reading after a write** (`get?_insert`): an insert changes the value of its key and no other.
* **Entries decide** (`ext_get?`): two maps that give every key the same value are equal.
-/

namespace CardText

/-- A type of keys in a fixed order, given by the rank of each key. -/
class Ranked (κ : Type) where
  rank : κ → Nat
  rank_injective : ∀ {a b : κ}, rank a = rank b → a = b

namespace OrderedMap

variable {κ α : Type} [Ranked κ]

open Ranked

/-- Strictly sorted by key. -/
def Sorted (entries : List (κ × α)) : Prop :=
  entries.Pairwise fun a b => rank a.1 < rank b.1

/-- The value that a list of entries gives a key: that of the first entry for it. -/
def find : List (κ × α) → κ → Option α
  | [], _ => none
  | (k, v) :: rest, q => if rank k = rank q then some v else find rest q

/-- Puts a value under a key: a new entry in its place, or a new value in the old entry. -/
def put : List (κ × α) → κ → α → List (κ × α)
  | [], k, v => [(k, v)]
  | (k', v') :: rest, k, v =>
    if rank k < rank k' then (k, v) :: (k', v') :: rest
    else if rank k = rank k' then (k, v) :: rest
    else (k', v') :: put rest k v

theorem sorted_nil : Sorted ([] : List (κ × α)) := List.Pairwise.nil

theorem sorted_cons {e : κ × α} {rest : List (κ × α)} :
    Sorted (e :: rest) ↔ (∀ e' ∈ rest, rank e.1 < rank e'.1) ∧ Sorted rest :=
  List.pairwise_cons

theorem mem_put {m : List (κ × α)} {k : κ} {v : α} {e : κ × α} (h : e ∈ put m k v) :
    e = (k, v) ∨ e ∈ m := by
  induction m with
  | nil => simpa [put] using h
  | cons x rest ih =>
    obtain ⟨k', v'⟩ := x
    simp only [put] at h
    split at h
    · simpa using h
    · split at h
      · rcases List.mem_cons.mp h with h | h
        · exact Or.inl h
        · exact Or.inr (List.mem_cons_of_mem _ h)
      · rcases List.mem_cons.mp h with h | h
        · exact Or.inr (h ▸ List.mem_cons_self)
        · rcases ih h with h | h
          · exact Or.inl h
          · exact Or.inr (List.mem_cons_of_mem _ h)

theorem sorted_put : ∀ {m : List (κ × α)}, Sorted m → ∀ (k : κ) (v : α), Sorted (put m k v)
  | [], _, _, _ => List.pairwise_singleton _ _
  | (k', v') :: rest, hs, k, v => by
    obtain ⟨hlt, hrest⟩ := sorted_cons.mp hs
    simp only [put]
    split
    · rename_i hk
      refine sorted_cons.mpr ⟨fun e he => ?_, hs⟩
      rcases List.mem_cons.mp he with rfl | he
      · exact hk
      · exact Nat.lt_trans hk (hlt e he)
    · split
      · rename_i hk
        exact sorted_cons.mpr ⟨fun e he => hk ▸ hlt e he, hrest⟩
      · rename_i h1 h2
        refine sorted_cons.mpr ⟨fun e he => ?_, sorted_put hrest k v⟩
        rcases mem_put he with rfl | he
        · exact Nat.lt_of_le_of_ne (Nat.le_of_not_lt h1) (fun h => h2 h.symm)
        · exact hlt e he

/-- Below the first key, the rest holds nothing. -/
theorem find_eq_none_of_le {q : κ} {m : List (κ × α)} (h : ∀ e ∈ m, rank q < rank e.1) :
    find m q = none := by
  induction m with
  | nil => rfl
  | cons e rest ih =>
    simp only [find]
    rw [if_neg (Nat.ne_of_gt (h e List.mem_cons_self))]
    exact ih fun e' he => h e' (List.mem_cons_of_mem _ he)

theorem find_put (m : List (κ × α)) (k q : κ) (v : α) :
    find (put m k v) q = if rank k = rank q then some v else find m q := by
  induction m with
  | nil => rfl
  | cons e rest ih =>
    obtain ⟨k', v'⟩ := e
    simp only [put]
    split
    · rfl
    · split
      · rename_i hk
        simp only [find, hk]
        split <;> rfl
      · rename_i h1 h2
        simp only [find, ih]
        split
        · rename_i hq
          rw [if_neg fun h => h2 (h.trans hq.symm)]
        · rfl

/-- Sorted lists of entries are equal when they give every key the same value. -/
theorem eq_of_find_eq : ∀ {a b : List (κ × α)}, Sorted a → Sorted b →
    (∀ q, find a q = find b q) → a = b
  | [], [], _, _, _ => rfl
  | [], (k, v) :: _, _, _, h => by simpa [find] using h k
  | (k, v) :: _, [], _, _, h => by simpa [find] using h k
  | (k, v) :: r, (k', v') :: r', ha, hb, h => by
    obtain ⟨hr, hsr⟩ := sorted_cons.mp ha
    obtain ⟨hr', hsr'⟩ := sorted_cons.mp hb
    rcases Nat.lt_trichotomy (rank k) (rank k') with hlt | heq | hgt
    · have := h k
      rw [find_eq_none_of_le (m := (k', v') :: r')] at this
      · simp [find] at this
      · intro e he
        rcases List.mem_cons.mp he with rfl | he
        · exact hlt
        · exact Nat.lt_trans hlt (hr' e he)
    · obtain rfl := rank_injective heq
      have hv := h k
      simp only [find, if_true, Option.some.injEq] at hv
      subst hv
      refine congrArg _ (eq_of_find_eq hsr hsr' fun q => ?_)
      by_cases hq : rank k = rank q
      · rw [find_eq_none_of_le fun e he => hq ▸ hr e he,
          find_eq_none_of_le fun e he => hq ▸ hr' e he]
      · simpa [find, hq] using h q
    · have := h k'
      rw [find_eq_none_of_le (m := (k, v) :: r)] at this
      · simp [find] at this
      · intro e he
        rcases List.mem_cons.mp he with rfl | he
        · exact hgt
        · exact Nat.lt_trans hgt (hr e he)

end OrderedMap

/-- A finite map: entries in strictly increasing key order. -/
structure OrderedMap (κ α : Type) [Ranked κ] where
  entries : List (κ × α) := []
  sorted : OrderedMap.Sorted entries := by exact OrderedMap.sorted_nil

namespace OrderedMap

variable {κ α : Type} [Ranked κ]

open Ranked

/-- The map without entries. -/
def empty : OrderedMap κ α := {}

/-- The value of a key. -/
def get? (m : OrderedMap κ α) (q : κ) : Option α := find m.entries q

/-- Whether a key has a value. -/
def contains (m : OrderedMap κ α) (q : κ) : Bool := (m.get? q).isSome

/-- Gives a key a value, in place of the one it had. -/
def insert (m : OrderedMap κ α) (k : κ) (v : α) : OrderedMap κ α :=
  ⟨put m.entries k v, sorted_put m.sorted k v⟩

/-- Inserts the entries of a list one after the other, so the last one of a key stays. -/
def insertAll (m : OrderedMap κ α) (l : List (κ × α)) : OrderedMap κ α :=
  l.foldl (fun m e => m.insert e.1 e.2) m

/-- The map of a list of entries; the last entry of a key stays. -/
def ofList (l : List (κ × α)) : OrderedMap κ α := empty.insertAll l

/-- The keys, in their order. -/
def keys (m : OrderedMap κ α) : List κ := m.entries.map Prod.fst

/-- The number of entries. -/
def size (m : OrderedMap κ α) : Nat := m.entries.length

theorem ext_entries {a b : OrderedMap κ α} (h : a.entries = b.entries) : a = b := by
  cases a; cases b; simpa using h

instance [DecidableEq κ] [DecidableEq α] : DecidableEq (OrderedMap κ α) := fun a b =>
  decidable_of_iff (a.entries = b.entries) ⟨ext_entries, fun h => h ▸ rfl⟩

@[simp] theorem get?_empty (q : κ) : (empty : OrderedMap κ α).get? q = none := rfl

/-- **Reading after a write.** -/
theorem get?_insert (m : OrderedMap κ α) (k q : κ) (v : α) :
    (m.insert k v).get? q = if rank k = rank q then some v else m.get? q :=
  find_put m.entries k q v

/-- **Entries decide.** Two maps that give every key the same value are equal. -/
theorem ext_get? {a b : OrderedMap κ α} (h : ∀ q, a.get? q = b.get? q) : a = b :=
  ext_entries (eq_of_find_eq a.sorted b.sorted h)

end OrderedMap

end CardText
