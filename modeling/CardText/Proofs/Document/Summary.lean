import CardText.Proofs.Card.Lines
import CardText.Proofs.Document.Agreement

/-!
# What a card compiles to depends on a summary of its lines

A card may have any number of lines, but what `compile` makes of it is fixed by little: on every
tier the first extracted fact of each kind (of cooldowns and prices the last one), whether a line is
not recognised, and whether no, one or more active facts are extracted.

Results:

* `compile_eq_document`: the shortcut for a card without lines is no exception to the general way.
* `agree_table`: the tables of two cards with the same summary agree.
* **`compile_determined_by_summary`**: such cards compile to the same document, and so do cards
  that differ by what leaves the summary as it is: the order of lines of different kinds, how
  texts are spread over lines, lines that say nothing, and lines that are overruled.
-/

namespace CardText

namespace FactTable

/-- The only kind of a card with a single effect can be read off which kinds are where and off the
number of active facts on each tier, be it no, one or more. -/
theorem soleActiveType_eq_some_of_present {t u : FactTable} (ht : t.Classified)
    (hu : u.Classified) (hp : ∀ type tier, t.presentOn type tier = u.presentOn type tier)
    (hn : ∀ tier, min 2 ((t.active.get tier).filter (·.extracted)).length =
      min 2 ((u.active.get tier).filter (·.extracted)).length)
    {type : FactType} (h : t.soleActiveType = some type) : u.soleActiveType = some type := by
  obtain ⟨⟨tier₀, f₀, hf₀⟩, hall⟩ := soleActiveType_eq_some_iff.mp h
  have hkind : ∀ tier, ∀ f ∈ u.extractedOn tier, f.type = type ∧ type.category = .active := by
    intro tier f hf
    have hpres : t.presentOn f.type tier = true := by
      rw [hp]
      exact presentOn_iff.mpr ⟨f, hf, rfl⟩
    obtain ⟨g, hg, hgf⟩ := presentOn_iff.mp hpres
    obtain ⟨hga, hgt⟩ := (hall tier).2 g hg
    exact ⟨hgf.symm.trans hgt, hgt ▸ ht .active tier g hga⟩
  have hact : ∀ tier c, ∀ f ∈ (u.category c).get tier, f.extracted = true → c = .active := by
    intro tier c f hf hx
    obtain ⟨hft, hcat⟩ := hkind tier f (mem_extractedOn.mpr ⟨⟨c, hf⟩, hx⟩)
    rw [← hu c tier f hf, hft, hcat]
  have hnil : ∀ tier c, c ≠ .active → ((u.category c).get tier).filter (·.extracted) = [] :=
    fun tier c hc => List.filter_eq_nil_iff.mpr fun f hf hx => hc (hact tier c f hf hx)
  refine soleActiveType_eq_some_iff.mpr ⟨?_, fun tier => ⟨?_, fun f hf =>
    ⟨?_, (hkind tier f hf).1⟩⟩⟩
  · have hpres : u.presentOn f₀.type tier₀ = true := by
      rw [← hp]
      exact presentOn_iff.mpr ⟨f₀, hf₀, rfl⟩
    obtain ⟨f, hf, -⟩ := presentOn_iff.mp hpres
    exact ⟨tier₀, f, hf⟩
  · have hnt : ∀ c, c ≠ .active → ((t.category c).get tier).filter (·.extracted) = [] :=
      fun c hc => only_active_of_length_le_one (hall tier).1
        (fun f hf => ((hall tier).2 f hf).1) hc
    have hlen := (hall tier).1
    have hmin := hn tier
    rw [extractedOn_of_only_active hnt] at hlen
    rw [extractedOn_of_only_active (hnil tier)]
    omega
  · obtain ⟨⟨c, hfc⟩, hx⟩ := mem_extractedOn.mp hf
    obtain rfl := hact tier c f hfc hx
    exact hfc

theorem soleActiveType_congr {t u : FactTable} (ht : t.Classified) (hu : u.Classified)
    (hp : ∀ type tier, t.presentOn type tier = u.presentOn type tier)
    (hn : ∀ tier, min 2 ((t.active.get tier).filter (·.extracted)).length =
      min 2 ((u.active.get tier).filter (·.extracted)).length) :
    t.soleActiveType = u.soleActiveType :=
  Option.ext fun _ =>
    ⟨soleActiveType_eq_some_of_present ht hu hp hn,
      soleActiveType_eq_some_of_present hu ht (fun type tier => (hp type tier).symm)
        fun tier => (hn tier).symm⟩

end FactTable

namespace Card

/-- The document of a card comes from its table, also when the card has no lines. -/
theorem compile_eq_document (card : Card) : card.compile = card.table.document := by
  unfold compile
  split
  · rename_i h
    rw [List.isEmpty_iff.mp h]
    rfl
  · rfl

/-- The two cards have the same summary, tier by tier. -/
structure SameSummary (x y : Card) : Prop where
  /-- the first fact of most kinds -/
  first : ∀ tier type, type ≠ .cooldown → type ≠ .price → type ≠ .unmatched →
    (x.ofKind tier type).head? = (y.ofKind tier type).head?
  /-- the last cooldown and the last price -/
  last : ∀ tier type, type = .cooldown ∨ type = .price →
    (x.ofKind tier type).getLast? = (y.ofKind tier type).getLast?
  /-- whether some line is not recognised -/
  unmatched : ∀ tier, x.ofKind tier .unmatched = [] ↔ y.ofKind tier .unmatched = []
  /-- whether no, one or more active facts are extracted -/
  active : ∀ tier, min 2 (x.activeCount tier) = min 2 (y.activeCount tier)

variable {x y : Card}

theorem SameSummary.ofKind_eq_nil_iff (h : SameSummary x y) (tier : Tier) (type : FactType) :
    x.ofKind tier type = [] ↔ y.ofKind tier type = [] := by
  by_cases hl : type = .cooldown ∨ type = .price
  · rw [← List.getLast?_eq_none_iff, ← List.getLast?_eq_none_iff, h.last tier type hl]
  · obtain ⟨hc, hp⟩ := not_or.mp hl
    by_cases hu : type = .unmatched
    · rw [hu]
      exact h.unmatched tier
    · rw [← List.head?_eq_none_iff, ← List.head?_eq_none_iff, h.first tier type hc hp hu]

/-- **Cards with the same summary have tables that agree.** -/
theorem agree_table (h : SameSummary x y) : FactTable.Agree x.table y.table := by
  have hp : ∀ type tier, x.table.presentOn type tier = y.table.presentOn type tier := by
    intro type tier
    rw [Bool.eq_iff_iff, presentOn_table_iff, presentOn_table_iff]
    exact not_congr (h.ofKind_eq_nil_iff tier type)
  refine ⟨hp, fun type tier hc hpr hu => ?_, fun type tier hl => ?_, ?_⟩
  · rw [firstOn_table, firstOn_table]
    exact h.first tier type hc hpr hu
  · rw [lastOn_table, lastOn_table]
    exact h.last tier type hl
  · refine FactTable.soleActiveType_congr (classified_table x) (classified_table y) hp
      fun tier => ?_
    rw [length_active_table, length_active_table]
    exact h.active tier

theorem compile_congr (h : SameSummary x y) : x.compile = y.compile := by
  rw [compile_eq_document, compile_eq_document, FactTable.document_congr (agree_table h)]

/-! ## What leaves the summary as it is -/

/-- The active facts of a tier are those of the three active kinds. -/
theorem activeCount_eq (card : Card) (tier : Tier) :
    card.activeCount tier = (card.ofKind tier .damage).length +
      (card.ofKind tier .shieldDamage).length + (card.ofKind tier .shieldBuff).length := by
  have hcat : ∀ f ∈ card.extractedOn tier, f.category = f.type.category := by
    intro f hf
    obtain ⟨text, -, rfl⟩ := List.mem_map.mp (List.mem_filter.mp hf).1
    exact category_classify text
  unfold activeCount ofKind
  generalize card.extractedOn tier = facts at hcat
  induction facts with
  | nil => rfl
  | cons f facts ih =>
    have hf := hcat f List.mem_cons_self
    have ih := ih fun g hg => hcat g (List.mem_cons_of_mem f hg)
    simp only [List.filter_cons, hf, decide_eq_true_eq]
    cases f.type <;> simp [FactType.category] <;> omega

/-- The same facts of each recognised kind in the same order make the same summary. -/
theorem sameSummary_of_ofKind_eq
    (h : ∀ tier type, type ≠ .unmatched → x.ofKind tier type = y.ofKind tier type)
    (hu : ∀ tier, x.ofKind tier .unmatched = [] ↔ y.ofKind tier .unmatched = []) :
    SameSummary x y where
  first tier type _ _ hne := by rw [h tier type hne]
  last tier type hl := by
    have hne : type ≠ .unmatched := by
      rintro rfl
      rcases hl with hl | hl <;> exact absurd hl (by decide)
    rw [h tier type hne]
  unmatched := hu
  active tier := by
    rw [activeCount_eq, activeCount_eq, h tier .damage (by decide),
      h tier .shieldDamage (by decide), h tier .shieldBuff (by decide)]

/-- The same for a block of lines in place of another. -/
theorem sameSummary_replace (a b : Card) {c d : Card}
    (h : ∀ tier type, type ≠ .unmatched → c.ofKind tier type = d.ofKind tier type)
    (hu : ∀ tier, c.ofKind tier .unmatched = [] ↔ d.ofKind tier .unmatched = []) :
    SameSummary (a ++ c ++ b) (a ++ d ++ b) := by
  refine sameSummary_of_ofKind_eq (fun tier type hne => ?_) fun tier => ?_
  · simp only [ofKind_append, h tier type hne]
  · simp only [ofKind_append, List.append_eq_nil_iff, hu tier]

theorem sameSummary_replace_of_textsOn_eq (a b : Card) {c d : Card}
    (h : ∀ tier, c.textsOn tier = d.textsOn tier) : SameSummary (a ++ c ++ b) (a ++ d ++ b) := by
  have hk : ∀ tier type, c.ofKind tier type = d.ofKind tier type := fun tier type => by
    unfold ofKind extractedOn
    rw [h tier]
  exact sameSummary_replace a b (fun tier type _ => hk tier type) fun tier => by rw [hk]

/-- No kind has extracted facts in both blocks on one tier. -/
def Unrelated (c d : Card) : Prop :=
  ∀ tier type, c.ofKind tier type = [] ∨ d.ofKind tier type = []

theorem sameSummary_swap (a b : Card) {c d : Card} (h : Unrelated c d) :
    SameSummary (a ++ (c ++ d) ++ b) (a ++ (d ++ c) ++ b) := by
  have hk : ∀ tier type, (c ++ d).ofKind tier type = (d ++ c).ofKind tier type := by
    intro tier type
    rw [ofKind_append, ofKind_append]
    rcases h tier type with h | h <;> simp [h]
  exact sameSummary_replace a b (fun tier type _ => hk tier type) fun tier => by rw [hk]

/-- The line has no extracted fact. -/
def Silent (line : Line) : Prop :=
  ∀ tier text, line.get? tier = some text → (classify text).extracted = false

theorem sameSummary_silent (a b : Card) {line : Line} (h : Silent line) :
    SameSummary (a ++ [line] ++ b) (a ++ [] ++ b) := by
  have hk : ∀ tier type, ofKind [line] tier type = ofKind [] tier type := by
    intro tier type
    refine List.eq_nil_iff_forall_not_mem.mpr fun f hf => ?_
    obtain ⟨text, htext, rfl, hx, -⟩ := mem_ofKind_singleton.mp hf
    rw [h tier text htext] at hx
    exact Bool.false_ne_true hx
  exact sameSummary_replace a b (fun tier type _ => hk tier type) fun tier => by rw [hk]

/-- The lines have the same texts but for some that are not recognised in either. -/
def Reworded (l l' : Line) : Prop :=
  ∀ tier, l.get? tier = l'.get? tier ∨
    ∃ s s', l.get? tier = some s ∧ l'.get? tier = some s' ∧
      (classify s).type = .unmatched ∧ (classify s').type = .unmatched

/-- A line that is not recognised is extracted. -/
theorem extracted_of_type_unmatched {text : String} (h : (classify text).type = .unmatched) :
    (classify text).extracted = true := by
  unfold classify at h ⊢
  split
  · rename_i e he
    rw [he] at h
    exact absurd h (type_ne_unmatched_of_mem_catalog e (List.mem_of_find?_eq_some he))
  · rfl

theorem Reworded.symm {l l' : Line} (h : Reworded l l') : Reworded l' l := fun tier => by
  rcases h tier with h | ⟨s, s', hs, hs', hu, hu'⟩
  · exact Or.inl h.symm
  · exact Or.inr ⟨s', s, hs', hs, hu', hu⟩

theorem Reworded.ofKind_eq_nil {l l' : Line} (h : Reworded l l') {tier : Tier}
    (hn : ofKind [l] tier .unmatched = []) : ofKind [l'] tier .unmatched = [] := by
  refine List.eq_nil_iff_forall_not_mem.mpr fun f hf => ?_
  obtain ⟨text, htext, rfl, hx, ht⟩ := mem_ofKind_singleton.mp hf
  rw [List.eq_nil_iff_forall_not_mem] at hn
  rcases h tier with h | ⟨s, s', hs, hs', hu, hu'⟩
  · exact hn _ (mem_ofKind_singleton.mpr ⟨text, h.trans htext, rfl, hx, ht⟩)
  · exact hn _ (mem_ofKind_singleton.mpr ⟨s, hs, rfl, extracted_of_type_unmatched hu, hu⟩)

theorem sameSummary_reworded (a b : Card) {l l' : Line} (h : Reworded l l') :
    SameSummary (a ++ [l] ++ b) (a ++ [l'] ++ b) := by
  refine sameSummary_replace a b (fun tier type hne => ?_) fun tier =>
    ⟨h.ofKind_eq_nil, h.symm.ofKind_eq_nil⟩
  have hnil : ∀ {k : Line} {s : String}, k.get? tier = some s → (classify s).type = .unmatched →
      ofKind [k] tier type = [] := by
    intro k s hs hu
    refine List.eq_nil_iff_forall_not_mem.mpr fun f hf => hne ?_
    obtain ⟨text, htext, rfl, -, ht⟩ := mem_ofKind_singleton.mp hf
    obtain rfl := Option.some.inj (hs.symm.trans htext)
    exact ht.symm.trans hu
  rcases h tier with h | ⟨s, s', hs, hs', hu, hu'⟩
  · unfold ofKind extractedOn
    rw [textsOn_singleton, textsOn_singleton, h]
  · rw [hnil hs hu, hnil hs' hu']

/-- Whatever the line says is overruled by the lines before it, and a cooldown or a price by the
lines behind it. -/
def Overruled (a b : Card) (line : Line) : Prop :=
  ∀ tier text, line.get? tier = some text → (classify text).extracted = true →
    if (classify text).type = .cooldown ∨ (classify text).type = .price then
      b.ofKind tier (classify text).type ≠ []
    else a.ofKind tier (classify text).type ≠ []

theorem sameSummary_overruled (a b : Card) {line : Line} (h : Overruled a b line)
    (hn : ∀ tier, min 2 (activeCount (a ++ [line] ++ b) tier) =
      min 2 (activeCount (a ++ b) tier)) :
    SameSummary (a ++ [line] ++ b) (a ++ b) := by
  -- of the kind of an extracted fact of the line, there is another one on the right side
  have hkind : ∀ tier type, ofKind [line] tier type = [] ∨
      if type = .cooldown ∨ type = .price then b.ofKind tier type ≠ []
      else a.ofKind tier type ≠ [] := by
    intro tier type
    by_cases hl : ofKind [line] tier type = []
    · exact Or.inl hl
    · obtain ⟨f, hf⟩ := List.exists_mem_of_ne_nil _ hl
      obtain ⟨text, htext, rfl, hx, rfl⟩ := mem_ofKind_singleton.mp hf
      exact Or.inr (h tier text htext hx)
  have hfirst : ∀ tier type, ¬(type = .cooldown ∨ type = .price) →
      ((a ++ [line] ++ b).ofKind tier type).head? = ((a ++ b).ofKind tier type).head? := by
    intro tier type hne
    simp only [ofKind_append]
    rcases hkind tier type with hl | ha
    · rw [hl, List.append_nil]
    · rw [if_neg hne] at ha
      obtain ⟨f, fs, ha⟩ := List.exists_cons_of_ne_nil ha
      rw [ha]
      rfl
  refine ⟨fun tier type hc hp _ => hfirst tier type (not_or.mpr ⟨hc, hp⟩), fun tier type hl => ?_,
    fun tier => ?_, hn⟩
  · simp only [ofKind_append]
    rcases hkind tier type with hnil | hb
    · rw [hnil, List.append_nil]
    · rw [if_pos hl] at hb
      rw [List.getLast?_append_of_ne_nil _ hb, List.getLast?_append_of_ne_nil _ hb]
  · rw [← List.head?_eq_none_iff, ← List.head?_eq_none_iff,
      hfirst tier .unmatched (by decide)]

/-! ## The document -/

/-- **The document of a card is determined by the summary of its lines.** So it is the same for
cards that differ in one of these ways: two blocks without a common kind on any tier change places;
a line is split by tiers, or two lines without a common tier are merged; a line that says nothing
is added; texts that are not recognised are reworded; a line that others overrule is added. -/
theorem compile_determined_by_summary :
    (∀ x y : Card, SameSummary x y → x.compile = y.compile) ∧
    (∀ a b c d : Card, Unrelated c d →
      (a ++ (c ++ d) ++ b).compile = (a ++ (d ++ c) ++ b).compile) ∧
    (∀ (a b : Card) (line : Line),
      (a ++ [line] ++ b).compile = (a ++ line.perTier ++ b).compile) ∧
    (∀ (a b : Card) (l l' : Line), (∀ tier, l.get? tier = none ∨ l'.get? tier = none) →
      (a ++ [l, l'] ++ b).compile = (a ++ [l.merge l'] ++ b).compile) ∧
    (∀ (a b : Card) (line : Line), Silent line →
      (a ++ [line] ++ b).compile = (a ++ b).compile) ∧
    (∀ (a b : Card) (l l' : Line), Reworded l l' →
      (a ++ [l] ++ b).compile = (a ++ [l'] ++ b).compile) ∧
    ∀ (a b : Card) (line : Line), Overruled a b line →
      (∀ tier, min 2 (activeCount (a ++ [line] ++ b) tier) = min 2 (activeCount (a ++ b) tier)) →
      (a ++ [line] ++ b).compile = (a ++ b).compile := by
  refine ⟨fun x y h => compile_congr h, fun a b c d h => compile_congr (sameSummary_swap a b h),
    fun a b line => ?_, fun a b l l' h => ?_, fun a b line h => ?_,
    fun a b l l' h => compile_congr (sameSummary_reworded a b h),
    fun a b line h hn => compile_congr (sameSummary_overruled a b h hn)⟩
  · exact compile_congr (sameSummary_replace_of_textsOn_eq a b fun tier =>
      (Line.textsOn_perTier line tier).symm)
  · exact compile_congr (sameSummary_replace_of_textsOn_eq a b fun tier =>
      (Line.textsOn_merge h tier).symm)
  · have := compile_congr (sameSummary_silent a b h)
    rwa [List.append_nil] at this

end Card

end CardText
