import CardText.Command.Log
import CardText.Proofs.Catalog.Kinds
import CardText.Proofs.Fact.Display

/-!
# The log of a card

Nothing that the log tells of a card leaves its line, whatever the texts of the card hold: a text
stands there between quotes, within the display of its fact, and has no hidden character. No two
texts are told alike. The lines are those of `classify_input` and `compile`.

Results:

* `LogLine.visible_render`: a line is shown whole if its target, message and values are.
* `Card.visible_render_of_mem_log`: so is every line of the log of a card.
* **`Fact.display_names_text`**: the display of a fact is one line, and tells the fact and its text.
-/

namespace CardText

open Text

theorem LogLevel.visible_name : ∀ l : LogLevel, Visible l.name.toList
  | .error | .warn | .info | .debug | .trace => by decide

theorem Tier.visible_name : ∀ t : Tier, Visible t.name.toList
  | .bronze | .silver | .gold | .diamond => by decide

namespace LogLine

/-- **A line is shown whole** if nothing is hidden in its parts. -/
theorem visible_render {l : LogLine} (htarget : Visible l.target.toList)
    (hmessage : Visible l.message.toList)
    (hvalues : ∀ v ∈ l.values, Visible v.1.toList ∧ Visible v.2) : Visible l.render.toList := by
  have hblank : Visible " ".toList := by decide
  have hcolon : Visible ": ".toList := by decide
  have hmarks : Visible [' ', '='] := by decide
  simp only [visible_cons, visible_nil, and_true] at hmarks
  simp only [render, String.toList_append, String.toList_ofList, visible_append]
  refine ⟨⟨⟨⟨⟨l.level.visible_name, hblank⟩, htarget⟩, hcolon⟩, hmessage⟩,
    visible_flatMap fun v hv => ?_⟩
  obtain ⟨hname, hvalue⟩ := hvalues v hv
  exact visible_append.mpr
    ⟨visible_cons.mpr ⟨hmarks.1, hname⟩, visible_cons.mpr ⟨hmarks.2, hvalue⟩⟩

theorem visible_truth : ∀ b, Visible (truth b)
  | true | false => by decide

theorem visible_classified (tier : Tier) (f : Fact) :
    Visible (classified tier f).render.toList := by
  have htarget : Visible "compiler::v2_0_0::classifier".toList := by decide
  have hmessage : Visible "classified tooltip line".toList := by decide
  refine visible_render htarget hmessage ?_
  simp only [classified, List.forall_mem_cons]
  exact ⟨⟨by decide, tier.visible_name⟩, ⟨by decide, f.visible_display⟩,
    ⟨by decide, visible_truth _⟩, fun v hv => absurd hv List.not_mem_nil⟩

theorem visible_compiled (card : Card) (d : Document) :
    Visible (compiled card d).render.toList := by
  have htarget : Visible "compiler::v2_0_0::document".toList := by decide
  have hmessage : Visible "compiled card".toList := by decide
  refine visible_render htarget hmessage ?_
  have htiers : ∀ s ∈ d.tiers.keys.map (fun t => t.name.toList), Visible s := by
    intro s hs
    obtain ⟨t, -, rfl⟩ := List.mem_map.mp hs
    exact t.visible_name
  have hbrackets : Visible ['[', ']'] := by decide
  simp only [visible_cons] at hbrackets
  simp only [compiled, List.forall_mem_cons]
  refine ⟨⟨by decide, visible_decimal _⟩, ⟨by decide, visible_decimal _⟩,
    ⟨by decide, visible_decimal _⟩, ⟨by decide, visible_decimal _⟩,
    ⟨by decide, visible_decimal _⟩, ⟨by decide, ?_⟩, fun v hv => absurd hv List.not_mem_nil⟩
  exact visible_append.mpr
    ⟨visible_cons.mpr ⟨hbrackets.1, Fact.visible_separated htiers⟩, visible_cons.mpr hbrackets.2⟩

end LogLine

/-- Every line of the log of a card is shown whole. -/
theorem Card.visible_render_of_mem_log {card : Card} : ∀ l ∈ card.log,
    Visible l.render.toList := by
  intro l hl
  unfold Card.log at hl
  split at hl
  · exact absurd hl List.not_mem_nil
  · rcases List.mem_append.mp hl with hl | hl
    · obtain ⟨e, -, rfl⟩ := List.mem_map.mp hl
      exact LogLine.visible_classified e.1 e.2
    · rw [List.mem_singleton.mp hl]
      exact LogLine.visible_compiled card card.compile

/-- **A logged fact is one line and names its text**: nothing controls the line in its display or in
the log around it, facts with the same display differ in nothing but whether they are extracted, and
lines whose facts are displayed alike are the same. -/
theorem Fact.display_names_text :
    (∀ f : Fact, ∀ c ∈ f.display, ¬ IsControl c) ∧
      (∀ card : Card, ∀ l ∈ card.log, ∀ c ∈ l.render.toList, ¬ IsControl c) ∧
      (∀ f g : Fact, f.display = g.display →
        f.category = g.category ∧ f.type = g.type ∧ f.text = g.text ∧ f.params = g.params) ∧
      ∀ a b, (classify a).display = (classify b).display → a = b := by
  refine ⟨fun f => f.visible_display.not_isControl,
    fun card l hl => (Card.visible_render_of_mem_log l hl).not_isControl,
    fun f g h => display_tells h, fun a b h => ?_⟩
  have htext := (display_tells h).2.2.1
  rwa [text_classify, text_classify] at htext

/-- A line feed is displayed as a backslash and a letter, and told from these two. -/
theorem Fact.display_names_text_lineFeed :
    ['\\', 'n'] <:+: (classify "Burn 3\n").display ∧ ¬ IsControl 'n' ∧
      (classify "Burn 3\n").display ≠ (classify "Burn 3\\n").display := by
  have hshown : ['\\', 'n'] <:+: (classify "Burn 3\n").display := by decide +kernel
  have hmem : 'n' ∈ (classify "Burn 3\n").display := hshown.subset (by decide)
  refine ⟨hshown, Fact.display_names_text.1 _ 'n' hmem, fun h => ?_⟩
  have hsame := Fact.display_names_text.2.2.2 _ _ h
  exact absurd hsame (by decide)

end CardText
