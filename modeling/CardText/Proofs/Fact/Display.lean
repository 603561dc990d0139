import CardText.Fact.Basic
import CardText.Proofs.OrderedMap
import CardText.Proofs.Text.Quoted
import Mathlib.Data.List.Nodup

/-!
# The display of a fact tells the fact

A `TooltipFact` is displayed as one row of its parts with marks between them. No part goes on past
its mark: names have none of the marks in them, the text is quoted, and a number ends where a comma
or a brace stands. So the parts are told by the display, all but whether the fact is extracted.

Results:

* `visible_display`: a display has no hidden character.
* `params_append_inj`: the parameters of a fact are told by how they stand in its display.
* **`display_tells`**: facts with the same display have the same category, kind, text and
  parameters.
-/

namespace CardText

open Text

/-! ## Names -/

/-- Nothing in a name is hidden, and no name has one of the marks that stand behind names. -/
def IsName (s : List Char) : Prop :=
  s ≠ [] ∧ ∀ c ∈ s, isHidden c = false ∧ c ∉ ['/', ',', ':', '}']

instance (s : List Char) : Decidable (IsName s) :=
  @instDecidableAnd _ _ _ (List.decidableBAll _ s)

theorem IsName.visible {s : List Char} (h : IsName s) : Visible s := fun c hc => (h.2 c hc).1

theorem IsName.not_mem {s : List Char} (h : IsName s) {mark : Char}
    (hmark : mark ∈ ['/', ',', ':', '}']) : mark ∉ s := fun hs => (h.2 mark hs).2 hmark

theorem FactCategory.isName : ∀ c : FactCategory, IsName c.name.toList
  | .active | .passive | .cooldown | .price => by decide

theorem FactType.isName (t : FactType) : IsName t.name.toList := by
  have hall : ∀ t ∈ FactType.all, IsName t.name.toList := by decide
  exact hall t t.mem_all

theorem FactParam.isName : ∀ p : FactParam, IsName p.name.toList
  | .amount | .targets | .buyPrice | .sellPrice => by decide

theorem FactCategory.name_injective : Function.Injective FactCategory.name := by
  intro c d h
  have hnodup : (FactCategory.all.map FactCategory.name).Nodup := by decide
  exact List.inj_on_of_nodup_map hnodup c.mem_all d.mem_all h

theorem FactType.name_injective : Function.Injective FactType.name := by
  intro t u h
  have hnodup : (FactType.all.map FactType.name).Nodup := by decide
  exact List.inj_on_of_nodup_map hnodup t.mem_all u.mem_all h

theorem FactParam.name_injective : Function.Injective FactParam.name := by
  intro p q h
  have hnodup : (FactParam.all.map FactParam.name).Nodup := by decide
  exact List.inj_on_of_nodup_map hnodup p.mem_all q.mem_all h

namespace Fact

/-! ## Parameters -/

/-- Parameters in a display, each behind a comma, up to the end of the display. -/
def paramsTail (es : List (FactParam × Int)) : List Char :=
  (es.map displayParam).flatMap (fun t => ", ".toList ++ t) ++ ['}', '>']

theorem endsNumber_paramsTail : ∀ es, EndsNumber (paramsTail es)
  | [] => endsNumber_cons (by decide) _
  | _ :: _ => endsNumber_cons (by decide) _

/-- **A parameter is told** by what stands in the display from its name on. -/
theorem displayParam_append_inj {e e' : FactParam × Int} {r r' : List Char}
    (h : displayParam e ++ r = displayParam e' ++ r') (hr : EndsNumber r) (hr' : EndsNumber r') :
    e = e' ∧ r = r' := by
  have hcut : e.1.name.toList ++ ':' :: (' ' :: (signedDecimal e.2 ++ r)) =
      e'.1.name.toList ++ ':' :: (' ' :: (signedDecimal e'.2 ++ r')) := by
    simpa [displayParam] using h
  obtain ⟨hname, hrest⟩ := append_mark_inj (e.1.isName.not_mem (by decide))
    (e'.1.isName.not_mem (by decide)) hcut
  obtain ⟨hvalue, rfl⟩ := signedDecimal_append_inj (List.cons.inj hrest).2 hr hr'
  exact ⟨Prod.ext (FactParam.name_injective (String.toList_injective hname)) hvalue, rfl⟩

theorem displayParam_append_paramsTail_inj {e e' : FactParam × Int}
    {es es' : List (FactParam × Int)}
    (h : displayParam e ++ paramsTail es = displayParam e' ++ paramsTail es') :
    e = e' ∧ paramsTail es = paramsTail es' :=
  displayParam_append_inj h (endsNumber_paramsTail es) (endsNumber_paramsTail es')

theorem paramsTail_cons (e : FactParam × Int) (es : List (FactParam × Int)) :
    paramsTail (e :: es) = ',' :: ' ' :: (displayParam e ++ paramsTail es) := by
  simp [paramsTail]

theorem paramsTail_injective : Function.Injective paramsTail := by
  intro es es' h
  induction es generalizing es' with
  | nil =>
    cases es' with
    | nil => rfl
    | cons e' es' =>
      rw [paramsTail_cons] at h
      exact absurd (List.cons.inj h).1 (by decide)
  | cons e es ih =>
    cases es' with
    | nil =>
      rw [paramsTail_cons] at h
      exact absurd (List.cons.inj h).1 (by decide)
    | cons e' es' =>
      rw [paramsTail_cons, paramsTail_cons] at h
      obtain ⟨rfl, hrest⟩ :=
        displayParam_append_paramsTail_inj (List.cons.inj (List.cons.inj h).2).2
      rw [ih hrest]

/-- No name starts with the brace that ends the parameters. -/
theorem displayParam_append_ne (e : FactParam × Int) (r r' : List Char) :
    displayParam e ++ r ≠ '}' :: r' := by
  have hbrace : '}' ∉ e.1.name.toList := e.1.isName.not_mem (by decide)
  obtain ⟨c, cs, hname⟩ := List.exists_cons_of_ne_nil e.1.isName.1
  intro h
  rw [displayParam, hname] at h
  have hc : c = '}' := (List.cons.inj h).1
  rw [hname, hc] at hbrace
  exact hbrace List.mem_cons_self

/-- **The parameters are told by how they stand in a display.** -/
theorem params_append_inj : ∀ {es es' : List (FactParam × Int)},
    separated (es.map displayParam) ++ ['}', '>'] =
      separated (es'.map displayParam) ++ ['}', '>'] → es = es'
  | [], [], _ => rfl
  | [], e' :: es', h => by
    rw [List.map_cons, separated, List.append_assoc] at h
    exact absurd h.symm (displayParam_append_ne e' _ _)
  | e :: es, [], h => by
    rw [List.map_cons, separated, List.append_assoc] at h
    exact absurd h (displayParam_append_ne e _ _)
  | e :: es, e' :: es', h => by
    rw [List.map_cons, List.map_cons, separated, separated, List.append_assoc,
      List.append_assoc] at h
    obtain ⟨rfl, hrest⟩ := displayParam_append_paramsTail_inj h
    rw [paramsTail_injective hrest]

/-! ## The whole display -/

/-- The display with every part before what follows it. -/
theorem display_eq (f : Fact) : f.display =
    "TooltipFact<".toList ++ (f.category.name.toList ++ '/' :: (f.type.name.toList ++
      ',' :: ' ' :: (quoted f.text.toList ++
        ',' :: ' ' :: '{' :: (separated (f.params.entries.map displayParam) ++ ['}', '>'])))) := by
  have hcomma : ", ".toList = [',', ' '] := by decide
  unfold display
  simp only [hcomma, List.append_assoc, List.cons_append, List.nil_append]

/-- **Facts with the same display** differ in nothing but whether they are extracted. -/
theorem display_tells {f g : Fact} (h : f.display = g.display) :
    f.category = g.category ∧ f.type = g.type ∧ f.text = g.text ∧ f.params = g.params := by
  rw [display_eq, display_eq] at h
  have hafter := List.append_cancel_left h
  obtain ⟨hcategory, hafter⟩ := append_mark_inj (f.category.isName.not_mem (by decide))
    (g.category.isName.not_mem (by decide)) hafter
  obtain ⟨htype, hafter⟩ := append_mark_inj (f.type.isName.not_mem (by decide))
    (g.type.isName.not_mem (by decide)) hafter
  simp only [List.cons.injEq, true_and] at hafter
  obtain ⟨htext, hafter⟩ := quoted_append_inj hafter
  simp only [List.cons.injEq, true_and] at hafter
  exact ⟨FactCategory.name_injective (String.toList_injective hcategory),
    FactType.name_injective (String.toList_injective htype), String.toList_injective htext,
    OrderedMap.ext_entries (params_append_inj hafter)⟩

/-! ## What is shown -/

theorem visible_displayParam (e : FactParam × Int) : Visible (displayParam e) := by
  have hcolon : Visible ": ".toList := by decide
  exact visible_append.mpr
    ⟨visible_append.mpr ⟨e.1.isName.visible, hcolon⟩, visible_signedDecimal e.2⟩

theorem visible_separated : ∀ {ss : List (List Char)}, (∀ s ∈ ss, Visible s) →
    Visible (separated ss)
  | [], _ => visible_nil
  | s :: ss, h => by
    have hcomma : Visible ", ".toList := by decide
    obtain ⟨hs, hss⟩ := List.forall_mem_cons.mp h
    exact visible_append.mpr
      ⟨hs, visible_flatMap fun t ht => visible_append.mpr ⟨hcomma, hss t ht⟩⟩

/-- **A display has no hidden character.** -/
theorem visible_display (f : Fact) : Visible f.display := by
  have hstart : Visible "TooltipFact<".toList := by decide
  have hmarks : Visible ['/', ',', ' ', '{', '}', '>'] := by decide
  have hparams : ∀ s ∈ f.params.entries.map displayParam, Visible s := by
    intro s hs
    obtain ⟨e, -, rfl⟩ := List.mem_map.mp hs
    exact visible_displayParam e
  simp only [visible_cons] at hmarks
  obtain ⟨hslash, hcomma, hblank, hbrace, hend⟩ := hmarks
  rw [display_eq]
  simp only [visible_append, visible_cons]
  exact ⟨hstart, f.category.isName.visible, hslash, f.type.isName.visible, hcomma, hblank,
    visible_quoted _, hcomma, hblank, hbrace, visible_separated hparams, hend⟩

end Fact

end CardText
