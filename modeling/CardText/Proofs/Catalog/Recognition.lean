import CardText.Proofs.Catalog.Kinds
import CardText.Proofs.Pattern.Search

/-!
# Texts around a line

The phrase of an entry is looked for anywhere in a text, so whatever stands around a line, the
entries that recognise it still do. More of them may, and the first one of the catalog counts
(`classify`): a line can move to an entry before its own, but to none behind it. The one phrase that
has to start the text is that of damage.

Results:

* `recognises_iff`: an entry recognises the texts that its phrase has a split of.
* `recognises_append_right`, `recognises_append_left`: the entries that recognise a longer text.
* `place_classify_le`: a line stands no later than any entry that recognises it.
* **`place_surrounded`**: text around a line never moves it to a later entry.
-/

namespace CardText

open Pattern

/-! ## Places in the catalog -/

/-- The place of a kind in the catalog. That of `unmatched` is behind all entries. -/
def FactType.place (type : FactType) : Nat := catalog.findIdx fun e => e.type = type

theorem FactType.place_le (type : FactType) : type.place ≤ catalog.length :=
  List.findIdx_le_length

theorem FactType.place_unmatched : FactType.unmatched.place = catalog.length := by decide

/-- An entry stands at the place of its kind. -/
theorem place_getElem_catalog : ∀ i (h : i < catalog.length), catalog[i].type.place = i := by
  decide

/-! ## Recognition -/

/-- No phrase of the catalog leaves the matcher a choice, and each starts with a character. -/
theorem sharp_of_mem_catalog : ∀ e ∈ catalog, sharp e.phrase.pieces = true ∧
    startsOff (fun _ => false) e.phrase.pieces = true := by decide

/-- The phrase of damage is the only one that has to start the text. -/
theorem anchored_of_mem_catalog : ∀ e ∈ catalog, e.type ≠ .damage → e.phrase.anchored = false := by
  decide

variable {e : Entry} {a : String}

theorem recognises_iff (he : e ∈ catalog) :
    e.recognises a = true ↔ Nonempty (Split e.phrase a.toList) :=
  isMatch_iff (sharp_of_mem_catalog e he).1

theorem recognises_append_right (he : e ∈ catalog) (h : e.recognises a = true) (b : String) :
    e.recognises (a ++ b) = true := by
  rw [recognises_iff he] at h ⊢
  obtain ⟨x⟩ := h
  rw [String.toList_append]
  exact ⟨x.appendRight b.toList⟩

theorem recognises_append_left (he : e ∈ catalog) (hd : e.type ≠ .damage)
    (h : e.recognises a = true) (p : String) : e.recognises (p ++ a) = true := by
  rw [recognises_iff he] at h ⊢
  obtain ⟨x⟩ := h
  rw [String.toList_append]
  exact ⟨x.appendLeft (anchored_of_mem_catalog e he hd) p.toList⟩

/-! ## Classification -/

/-- **A line is classified as the first kind that recognises it.** -/
theorem place_classify (text : String) :
    (classify text).type.place = catalog.findIdx (·.recognises text) := by
  unfold classify
  cases hfind : catalog.find? (·.recognises text) with
  | none =>
    rw [List.find?_eq_none] at hfind
    have hlength := List.findIdx_eq_length.mpr fun e he => Bool.eq_false_iff.mpr (hfind e he)
    rw [hlength]
    exact FactType.place_unmatched
  | some e =>
    obtain ⟨hr, i, hi, rfl, hbefore⟩ := List.find?_eq_some_iff_getElem.mp hfind
    have hidx : catalog.findIdx (·.recognises text) = i :=
      (List.findIdx_eq hi).mpr ⟨hr, fun j hj => by simpa using hbefore j hj⟩
    rw [hidx]
    exact place_getElem_catalog i hi

/-- A line stands no later than any entry that recognises it. -/
theorem place_classify_le (he : e ∈ catalog) (h : e.recognises a = true) :
    (classify a).type.place ≤ e.type.place := by
  obtain ⟨i, hi, rfl⟩ := List.getElem_of_mem he
  rw [place_classify, place_getElem_catalog i hi]
  by_contra hlt
  -- the entries before the first that recognises do not
  have hnot : catalog[i].recognises a = false := List.not_of_lt_findIdx (Nat.lt_of_not_le hlt)
  exact Bool.false_ne_true (hnot.symm.trans h)

/-- Where the entry of a line recognises another text, that one stands no later. -/
theorem place_classify_le_of_kept {b : String}
    (h : ∀ e ∈ catalog, (classify a).type = e.type → e.recognises b = true) :
    (classify b).type.place ≤ (classify a).type.place := by
  by_cases hu : (classify a).type = .unmatched
  · rw [hu, FactType.place_unmatched]
    exact FactType.place_le _
  · obtain ⟨e, he, htype⟩ := exists_mem_catalog hu
    rw [← htype]
    exact place_classify_le he (h e he htype.symm)

/-- **Text around a line never moves it to a later entry**, nor to none. Only damage has to start
its text, and is lost behind other words. -/
theorem place_surrounded :
    (∀ a b, (classify (a ++ b)).type.place ≤ (classify a).type.place) ∧
      (∀ p a, (classify a).type ≠ .damage →
        (classify (p ++ a)).type.place ≤ (classify a).type.place) ∧
      ∃ p a, (classify a).type = .damage ∧ (classify (p ++ a)).type = .unmatched := by
  refine ⟨fun a b => ?_, fun p a hd => ?_, "Then ", "Deal 5 damage.", ?_, ?_⟩
  · refine place_classify_le_of_kept fun e he htype => ?_
    exact recognises_append_right he (recognises_of_type_classify he htype) b
  · refine place_classify_le_of_kept fun e he htype => ?_
    exact recognises_append_left he (htype ▸ hd) (recognises_of_type_classify he htype) p
  · decide +kernel
  · decide +kernel

/-- A burn behind a cooldown is a cooldown, which stands before it. -/
theorem place_surrounded_burn : (classify "Burn 3").type ≠ .damage ∧
    (classify ("Cooldown up: " ++ "Burn 3")).type.place ≤ (classify "Burn 3").type.place := by
  have hd : (classify "Burn 3").type ≠ .damage := by decide +kernel
  exact ⟨hd, place_surrounded.2.1 "Cooldown up: " "Burn 3" hd⟩

end CardText
