import CardText.OrderedMap

/-!
# Entries of ordered maps

What reading an ordered map has to do with its list of entries.

Results:

* `get?_eq_some_iff`: a key has a value iff the pair is an entry.
* `get?_ite_insert`: what a write under a condition changes.
* `entries_ofList`: a sorted list is the list of entries of its own map, so no entry is lost.
* `get?_insertAll`: after the entries of a sorted list went in, that list decides first.
* `mem_of_get?_ofList`: a map holds nothing but what was put in.
* `filter_entries`: the entries of one key are its value, if it has one.
* `entries_eq_filterMap`: the entries are the keys that have a value, in their order.
-/

namespace CardText.OrderedMap

variable {κ α : Type} [Ranked κ]

open Ranked

/-! ## Reading -/

theorem mem_of_find : ∀ {m : List (κ × α)} {k : κ} {v : α}, find m k = some v → (k, v) ∈ m
  | [], _, _, h => by simp [find] at h
  | (k', v') :: rest, k, v, h => by
    simp only [find] at h
    split at h
    · rename_i hk
      obtain rfl := rank_injective hk
      obtain rfl := Option.some.inj h
      exact List.mem_cons_self
    · exact List.mem_cons_of_mem _ (mem_of_find h)

theorem find_of_mem : ∀ {m : List (κ × α)}, Sorted m → ∀ {k : κ} {v : α}, (k, v) ∈ m →
    find m k = some v
  | [], _, _, _, h => absurd h List.not_mem_nil
  | (k', v') :: rest, hs, k, v, h => by
    obtain ⟨hlt, hrest⟩ := sorted_cons.mp hs
    simp only [find]
    rcases List.mem_cons.mp h with h | h
    · obtain ⟨rfl, rfl⟩ := Prod.mk.inj h
      rw [if_pos rfl]
    · rw [if_neg (Nat.ne_of_lt (hlt (k, v) h)), find_of_mem hrest h]

/-- A key has a value iff the pair is an entry. -/
theorem get?_eq_some_iff {m : OrderedMap κ α} {k : κ} {v : α} :
    m.get? k = some v ↔ (k, v) ∈ m.entries :=
  ⟨mem_of_find, find_of_mem m.sorted⟩

/-- The entries of one key are its value, if it has one. -/
theorem filter_entries [DecidableEq κ] (m : OrderedMap κ α) (k : κ) :
    (m.entries.filter fun e => decide (e.1 = k)).map (·.2) = (m.get? k).toList := by
  suffices h : ∀ l : List (κ × α), Sorted l →
      (l.filter fun e => decide (e.1 = k)).map (·.2) = (find l k).toList from h _ m.sorted
  intro l hl
  induction l with
  | nil => rfl
  | cons e rest ih =>
    obtain ⟨hlt, hrest⟩ := sorted_cons.mp hl
    by_cases hk : e.1 = k
    · have hnone : find rest k = none := find_eq_none_of_le fun e' he' => hk ▸ hlt e' he'
      have hnil := ih hrest
      rw [hnone] at hnil
      rw [List.filter_cons_of_pos (by simpa using hk), List.map_cons, hnil]
      simp [find, hk]
    · have hr : rank e.1 ≠ rank k := fun h => hk (rank_injective h)
      rw [List.filter_cons_of_neg (by simpa using hk), ih hrest]
      simp [find, hr]

/-- The entries are the keys that have a value, in their order, each with its value. -/
theorem entries_eq_filterMap {keys : List κ} (hkeys : keys.Pairwise fun a b => rank a < rank b)
    (hall : ∀ k, k ∈ keys) (m : OrderedMap κ α) :
    m.entries = keys.filterMap fun k => (m.get? k).map fun v => (k, v) := by
  have hmem : ∀ k v, (k, v) ∈ (keys.filterMap fun k => (m.get? k).map fun v => (k, v)) ↔
      m.get? k = some v := by
    intro k v
    simp only [List.mem_filterMap, Option.map_eq_some_iff]
    constructor
    · rintro ⟨k', -, v', hv, heq⟩
      obtain ⟨rfl, rfl⟩ := Prod.mk.inj heq
      exact hv
    · intro h
      exact ⟨k, hall k, v, h, rfl⟩
  have hs : Sorted (keys.filterMap fun k => (m.get? k).map fun v => (k, v)) := by
    refine hkeys.filterMap _ fun k k' hk e he e' he' => ?_
    obtain ⟨v, -, rfl⟩ := Option.map_eq_some_iff.mp he
    obtain ⟨v', -, rfl⟩ := Option.map_eq_some_iff.mp he'
    exact hk
  refine eq_of_find_eq m.sorted hs fun k => Option.ext fun v => ?_
  constructor
  · intro h
    exact find_of_mem hs ((hmem k v).mpr h)
  · intro h
    exact (hmem k v).mp (mem_of_find h)

/-- Reading after a write that is made under a condition only. -/
theorem get?_ite_insert (c : Prop) [Decidable c] [DecidableEq κ] (m : OrderedMap κ α) (k q : κ)
    (v : α) : (if c then m.insert k v else m).get? q = if q = k ∧ c then some v else m.get? q := by
  by_cases hc : c
  · rw [if_pos hc, get?_insert]
    by_cases hq : q = k
    · rw [if_pos (congrArg rank hq.symm), if_pos ⟨hq, hc⟩]
    · rw [if_neg fun hr => hq (rank_injective hr).symm, if_neg fun h => hq h.1]
  · rw [if_neg hc, if_neg fun h => hc h.2]

/-! ## Writing in order -/

/-- A key above all others goes to the end. -/
theorem put_of_lt {m : List (κ × α)} {k : κ} {v : α} (h : ∀ e ∈ m, rank e.1 < rank k) :
    put m k v = m ++ [(k, v)] := by
  induction m with
  | nil => rfl
  | cons e rest ih =>
    have he := h e List.mem_cons_self
    simp only [put]
    rw [if_neg (Nat.not_lt.mpr (Nat.le_of_lt he)), if_neg (Nat.ne_of_gt he),
      ih fun e' he' => h e' (List.mem_cons_of_mem _ he')]
    rfl

theorem entries_insertAll : ∀ {l : List (κ × α)} {m : OrderedMap κ α},
    Sorted (m.entries ++ l) → (m.insertAll l).entries = m.entries ++ l
  | [], m, _ => (List.append_nil _).symm
  | e :: l, m, h => by
    have hlt : ∀ e' ∈ m.entries, rank e'.1 < rank e.1 := fun e' he' =>
      (List.pairwise_append.mp h).2.2 e' he' e List.mem_cons_self
    have hput : (m.insert e.1 e.2).entries = m.entries ++ [e] := put_of_lt hlt
    show ((m.insert e.1 e.2).insertAll l).entries = _
    rw [entries_insertAll (by rw [hput, List.append_assoc]; exact h), hput, List.append_assoc]
    rfl

/-- **No entry is lost.** A sorted list is the list of entries of its map. -/
theorem entries_ofList {l : List (κ × α)} (h : Sorted l) : (ofList l).entries = l :=
  entries_insertAll (m := empty) h

theorem mem_insertAll : ∀ {l : List (κ × α)} {m : OrderedMap κ α} {e : κ × α},
    e ∈ (m.insertAll l).entries → e ∈ m.entries ∨ e ∈ l
  | [], _, _, h => Or.inl h
  | x :: l, m, e, h => by
    rcases mem_insertAll (m := m.insert x.1 x.2) h with h | h
    · rcases mem_put h with rfl | h
      · exact Or.inr List.mem_cons_self
      · exact Or.inl h
    · exact Or.inr (List.mem_cons_of_mem _ h)

/-- A map holds nothing but what was put in, whatever the order. -/
theorem mem_of_get?_ofList {l : List (κ × α)} {k : κ} {v : α} (h : (ofList l).get? k = some v) :
    (k, v) ∈ l :=
  (mem_insertAll (get?_eq_some_iff.mp h)).resolve_left List.not_mem_nil

/-- A list changes nothing for the keys that it does not have. -/
theorem get?_insertAll_of_not_mem : ∀ {l : List (κ × α)} {m : OrderedMap κ α} {q : κ},
    q ∉ l.map (·.1) → (m.insertAll l).get? q = m.get? q
  | [], _, _, _ => rfl
  | x :: l, m, q, h => by
    rw [List.map_cons, List.mem_cons, not_or] at h
    have hrest := get?_insertAll_of_not_mem (m := m.insert x.1 x.2) h.2
    rw [get?_insert, if_neg fun hr => h.1 (Ranked.rank_injective hr.symm)] at hrest
    exact hrest

/-- An entry of a list without repeated keys is found in the map of it. -/
theorem get?_ofList_of_mem {l : List (κ × α)} (hl : (l.map (·.1)).Nodup) {k : κ} {v : α}
    (h : (k, v) ∈ l) : (ofList l).get? k = some v := by
  suffices hm : ∀ m : OrderedMap κ α, (m.insertAll l).get? k = some v from hm empty
  induction l with
  | nil => exact absurd h List.not_mem_nil
  | cons x l ih =>
    intro m
    rw [List.map_cons, List.nodup_cons] at hl
    rcases List.mem_cons.mp h with rfl | h
    · have hlast := get?_insertAll_of_not_mem (m := m.insert k v) hl.1
      rw [get?_insert, if_pos rfl] at hlast
      exact hlast
    · exact ih hl.2 h (m.insert x.1 x.2)

/-- After the entries of a sorted list went in, that list decides first. -/
theorem get?_insertAll : ∀ {l : List (κ × α)}, Sorted l → ∀ (m : OrderedMap κ α) (q : κ),
    (m.insertAll l).get? q = (find l q).or (m.get? q)
  | [], _, _, _ => rfl
  | e :: l, hs, m, q => by
    obtain ⟨hlt, hl⟩ := sorted_cons.mp hs
    show ((m.insert e.1 e.2).insertAll l).get? q = _
    rw [get?_insertAll hl, get?_insert]
    simp only [find]
    split
    · rename_i hq
      rw [find_eq_none_of_le fun e' he' => hq ▸ hlt e' he']
      rfl
    · rfl

end CardText.OrderedMap
