import CardText.Document.Json
import CardText.Proofs.Card.Reading
import CardText.Proofs.Document.Tooltips
import CardText.Proofs.Json.Parts

/-!
# Cards that are written read back

The text that is written for a card has the format of cards, compact or indented, and what it spells
is the card that `parse_input` reads. Strings are escaped in documents as they are in cards, so a
tooltip that shows a line of the card stands in the document's text as a string that reads back as
that line.

Results:

* `isObject_laidOut`, `isCard_laidOut`: what is written has the format.
* `shows_tooltip`: a document shows the text of every tooltip.
* **`read_render`**: reading what was written gives the card, and a line that a document shows
  reads back as the line.
-/

namespace CardText.Format

open Json Literal Reader

/-! ## What is written has the format -/

section Written

variable {l : Layout}

theorem blanks_of_spaces {w : List Char} (h : ∀ c ∈ w, c = ' ' ∨ c = '\n') : Blanks w := by
  intro c hc
  rcases h c hc with rfl | rfl <;> decide

theorem isMember_laidOut (hl : l.Blank) (depth : Nat) (m : Tier × String) :
    IsMember (stringText m.1.name ++ ':' :: l.gap ++ laidOut l depth (.str m.2)) m := by
  refine ⟨stringText m.1.name, [], l.gap, stringText m.2, quotes_stringText _, blanks_nil,
    blanks_of_spaces hl.gap, quotes_stringText _, ?_⟩
  rw [laidOut, List.append_nil]

theorem tail_laidOutFields (hl : l.Blank) (depth : Nat) {w : List Char} (hw : Blanks w) :
    ∀ ms : List (Tier × String),
      Tail IsMember (laidOutFields l depth (ms.map fun m => (m.1.name, .str m.2)) ++ w) ms
  | [] => by
    rw [List.map_nil, laidOutFields]
    exact .nil hw
  | m :: ms => by
    have h := Tail.cons blanks_nil (blanks_of_spaces (hl.line depth)) (isMember_laidOut hl depth m)
      (tail_laidOutFields hl depth hw ms)
    rw [List.map_cons, laidOutFields]
    simpa only [List.nil_append, List.cons_append, List.append_assoc] using h

theorem isObject_laidOut (hl : l.Blank) (depth : Nat) (line : Line) :
    IsObject (laidOut l depth (Card.lineToJson line)) line.entries := by
  unfold Card.lineToJson
  cases line.entries with
  | nil =>
    rw [List.map_nil, laidOut]
    exact .nil blanks_nil
  | cons m ms =>
    have h : Bracketed IsMember '{' '}' _ (m :: ms) :=
      .cons (blanks_of_spaces (hl.line (depth + 1))) (isMember_laidOut hl (depth + 1) m)
        (tail_laidOutFields hl (depth + 1) (blanks_of_spaces (hl.line depth)) ms)
    rw [List.map_cons, laidOut]
    simpa only [IsObject, List.cons_append, List.append_assoc] using h

theorem tail_laidOutItems (hl : l.Blank) (depth : Nat) {w : List Char} (hw : Blanks w) :
    ∀ card : Card,
      Tail IsObject (laidOutItems l depth (card.map Card.lineToJson) ++ w)
        (card.map (·.entries))
  | [] => by
    rw [List.map_nil, laidOutItems]
    exact .nil hw
  | line :: card => by
    have h := Tail.cons blanks_nil (blanks_of_spaces (hl.line depth))
      (isObject_laidOut hl depth line) (tail_laidOutItems hl depth hw card)
    rw [List.map_cons, List.map_cons, laidOutItems]
    simpa only [List.nil_append, List.cons_append, List.append_assoc] using h

/-- **The text that is written for a card has the format of cards.** -/
theorem isCard_laidOut (hl : l.Blank) (depth : Nat) (card : Card) :
    IsCard (laidOut l depth card.toJson) (card.map (·.entries)) := by
  refine ⟨[], _, [], blanks_nil, ?_, blanks_nil, (List.append_nil _).symm⟩
  unfold Card.toJson
  cases card with
  | nil =>
    rw [List.map_nil, laidOut]
    exact .nil blanks_nil
  | cons line card =>
    have h : Bracketed IsObject '[' ']' _ (line.entries :: card.map (·.entries)) :=
      .cons (blanks_of_spaces (hl.line (depth + 1))) (isObject_laidOut hl (depth + 1) line)
        (tail_laidOutItems hl (depth + 1) (blanks_of_spaces (hl.line depth)) card)
    rw [List.map_cons, List.map_cons, laidOut]
    simpa only [List.cons_append, List.append_assoc] using h

/-- The entries of a line make the line. -/
theorem lineOf_entries (line : Line) : lineOf line.entries = line :=
  OrderedMap.ext_entries (OrderedMap.entries_ofList line.sorted)

end Written

end CardText.Format

namespace CardText.Card

/-- **A card that is written is read back**, compact or indented. -/
theorem read_toJson_render (pretty : Bool) (card : Card) :
    read (card.toJson.render pretty) = .ok card := by
  have hformat := Format.isCard_laidOut (Json.Layout.blank_ofPretty pretty) 0 card
  have hlines : (card.map (·.entries)).map Format.lineOf = card := by
    rw [List.map_map]
    exact (List.map_congr_left fun line _ => Format.lineOf_entries line).trans (List.map_id card)
  rw [← Json.render_eq_laidOut] at hformat
  rw [read_of_format hformat, hlines]

/-! ## Lines that a document shows -/

/-- A tooltip that shows a line has the text of that line. -/
theorem exists_line_of_shows {card : Card} {e : Entry} {tip : Tooltip}
    (h : e.Shows card.facts tip) (hraw : e.tooltip = .rawText) :
    ∃ line ∈ card, ∃ tier, line.get? tier = some tip.text ∧ (classify tip.text).type = e.type := by
  obtain ⟨tier, f, hfirst, htext, -⟩ := h.rawText hraw
  have hfirst : card.table.firstOn e.type tier = some f := hfirst
  rw [firstOn_table] at hfirst
  obtain ⟨line, hline, text, hget, rfl, -, htype⟩ :=
    mem_ofKind_iff.mp (List.mem_of_mem_head? hfirst)
  rw [text_classify] at htext
  subst htext
  exact ⟨line, hline, tier, hget, htype⟩

end CardText.Card

namespace CardText.Document

/-- The text of the document has a string that is read as the text `s`. Its opening quote stands
outside of all strings before. -/
def Shows (d : Document) (pretty : Bool) (s : String) : Prop :=
  ∃ before literal after, (d.render pretty).toList = before ++ '"' :: literal ++ after ∧
    Json.Place.outside.after before = .outside ∧
    Literal.read (literal ++ after) = .ok (s.toList, after)

theorem within_toJson {d : Document} {tip : Tooltip} (h : tip ∈ d.localization.tooltips) :
    Json.Within (.str tip.text) d.toJson := by
  have htext : Json.Within (.str tip.text) (shownText tip.text) :=
    .field (.self _) List.mem_cons_self
  have htip : Json.Within (.str tip.text) tip.toJson := .field htext List.mem_cons_self
  have htips : Json.Within (.str tip.text) (.arr (d.localization.tooltips.map Tooltip.toJson)) :=
    .item htip (List.mem_map_of_mem h)
  have hlocalization : Json.Within (.str tip.text) d.localization.toJson :=
    .field htips (List.mem_cons_of_mem _ List.mem_cons_self)
  exact .field (k := "Localization") hlocalization (by simp)

/-- A document shows the text of every tooltip. -/
theorem shows_tooltip {d : Document} {tip : Tooltip} (h : tip ∈ d.localization.tooltips)
    (pretty : Bool) : d.Shows pretty tip.text := by
  obtain ⟨depth, before, after, htext, hbefore⟩ :=
    Json.exists_standsIn_of_within (Json.Layout.blank_ofPretty pretty) (within_toJson h) 0
  obtain ⟨literal, hliteral, hquotes⟩ := Json.quotes_stringText tip.text
  refine ⟨before, literal ++ ['"'], after, ?_, hbefore, ?_⟩
  · rw [render, Json.render_eq_laidOut, htext, Json.laidOut, hquotes]
    simp
  · rw [List.append_assoc]
    exact Literal.read_append hliteral after

end CardText.Document

namespace CardText.Card

/-- **What is written is read back**: a card that is written is read as the same card, and where a
document shows a line of its card, it shows a string that is read as that line. -/
theorem read_render (pretty : Bool) (card : Card) :
    read (card.toJson.render pretty) = .ok card ∧
      ∀ (i : Nat) (e : Entry), (tooltipEntries card.facts)[i]? = some e → e.tooltip = .rawText →
        ∃ tip, card.compile.localization.tooltips[i]? = some tip ∧
          (∃ line ∈ card, ∃ tier, line.get? tier = some tip.text ∧
            (classify tip.text).type = e.type) ∧
          card.compile.Shows pretty tip.text := by
  refine ⟨read_toJson_render pretty card, fun i e hi hraw => ?_⟩
  obtain ⟨tip, hget, hshows⟩ := FactTable.exists_tooltip_of_entry hi
  have hcompile : card.compile = (FactTable.empty.pushAll card.facts).document :=
    compile_eq_document card
  rw [← hcompile] at hget
  exact ⟨tip, hget, exists_line_of_shows hshows hraw,
    Document.shows_tooltip (List.mem_of_getElem? hget) pretty⟩

end CardText.Card
