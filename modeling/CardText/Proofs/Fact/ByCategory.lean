import CardText.Fact.Basic
import Mathlib.Data.List.Sort

/-!
# Facts sorted by category

A `FactTable` keeps its facts in a list for each category and is read one list behind the other
(`on_tier`). Read so, facts stand as a stable sort by category puts them: active, passive, cooldown,
price, and those of one category as they came.

Results:

* `flatMap_filter_cons`: one more fact in front is sorted in.
* **`flatMap_filter_eq_insertionSort`**: facts put together category by category are the facts
  sorted by category.
-/

namespace CardText

namespace FactCategory

/-- The place of a category among the four. -/
def place : FactCategory → Nat
  | active => 0
  | passive => 1
  | cooldown => 2
  | price => 3

/-- The categories stand in the order of their places. -/
theorem sorted_all : all.Pairwise fun c d => c.place < d.place := by decide

end FactCategory

namespace Fact

/-- The category of a fact is that of another or stands before it. -/
def NotBehind (f g : Fact) : Prop := f.category.place ≤ g.category.place

instance : DecidableRel NotBehind := fun f g =>
  inferInstanceAs (Decidable (f.category.place ≤ g.category.place))

/-- A fact is sorted in behind those of earlier categories. -/
theorem orderedInsert_append {f : Fact} {before : List Fact}
    (h : ∀ g ∈ before, ¬f.NotBehind g) (after : List Fact) :
    (before ++ after).orderedInsert NotBehind f =
      before ++ after.orderedInsert NotBehind f := by
  have hpass : ∀ g ∈ before, decide (¬f.NotBehind g) = true := by simpa using h
  rw [List.orderedInsert_eq_take_drop, List.takeWhile_append_of_pos hpass,
    List.dropWhile_append_of_pos hpass, List.append_assoc, ← List.orderedInsert_eq_take_drop]

/-- A fact is sorted in before those of its category, as it came before them. -/
theorem orderedInsert_of_notBehind {f : Fact} : ∀ {facts : List Fact},
    (∀ g ∈ facts, f.NotBehind g) → facts.orderedInsert NotBehind f = f :: facts
  | [], _ => rfl
  | _ :: facts, h => List.orderedInsert_cons_of_le _ facts (h _ List.mem_cons_self)

theorem notBehind_of_mem_flatMap {f : Fact} {cs : List FactCategory}
    (h : ∀ c ∈ cs, f.category.place ≤ c.place) {facts : List Fact} :
    ∀ g ∈ cs.flatMap (fun c => facts.filter (·.category = c)), f.NotBehind g := by
  intro g hg
  obtain ⟨c, hc, hgc⟩ := List.mem_flatMap.mp hg
  have hcategory : g.category = c := by simpa using (List.mem_filter.mp hgc).2
  rw [NotBehind, hcategory]
  exact h c hc

/-- With one more fact in front of them, facts put together by categories have it sorted in. -/
theorem flatMap_filter_cons (f : Fact) (facts : List Fact) : ∀ {cs : List FactCategory},
    cs.Pairwise (fun c d => c.place < d.place) → f.category ∈ cs →
    (cs.flatMap fun c => (f :: facts).filter (·.category = c)) =
      (cs.flatMap fun c => facts.filter (·.category = c)).orderedInsert NotBehind f
  | [], _, hf => absurd hf List.not_mem_nil
  | c :: cs, hsorted, hf => by
    obtain ⟨hc, hcs⟩ := List.pairwise_cons.mp hsorted
    by_cases h : f.category = c
    · -- it comes before all others, and is of no later category
      subst h
      have hfirst : ∀ d ∈ f.category :: cs, f.category.place ≤ d.place :=
        List.forall_mem_cons.mpr ⟨Nat.le_refl _, fun d hd => Nat.le_of_lt (hc d hd)⟩
      have hrest : ∀ d ∈ cs, (f :: facts).filter (·.category = d) =
          facts.filter (·.category = d) := by
        intro d hd
        have hne : f.category ≠ d := by
          rintro rfl
          exact Nat.lt_irrefl _ (hc _ hd)
        exact List.filter_cons_of_neg (by simpa using hne)
      rw [orderedInsert_of_notBehind (notBehind_of_mem_flatMap hfirst), List.flatMap_cons,
        List.flatMap_cons, List.filter_cons_of_pos (by simp), List.flatMap_congr hrest,
        List.cons_append]
    · -- it passes by those of the category, and finds its place in what follows
      have hmem : f.category ∈ cs := (List.mem_cons.mp hf).resolve_left h
      have hpassed : ∀ g ∈ facts.filter (·.category = c), ¬f.NotBehind g := by
        intro g hg
        have hcategory : g.category = c := by simpa using (List.mem_filter.mp hg).2
        rw [NotBehind, hcategory]
        exact Nat.not_le.mpr (hc _ hmem)
      rw [List.flatMap_cons, List.flatMap_cons, orderedInsert_append hpassed,
        List.filter_cons_of_neg (by simpa using h), flatMap_filter_cons f facts hcs hmem]

/-- **Facts put together category by category** are the facts sorted by category. -/
theorem flatMap_filter_eq_insertionSort (facts : List Fact) :
    (FactCategory.all.flatMap fun c => facts.filter (·.category = c)) =
      facts.insertionSort NotBehind := by
  induction facts with
  | nil => rfl
  | cons f facts ih =>
    rw [flatMap_filter_cons f facts FactCategory.sorted_all f.category.mem_all, ih,
      List.insertionSort_cons]

end Fact

end CardText
