import CardText.Proofs.Json.Squeeze

/-!
# Parts of values in the text

The text of a value holds the texts of all values that it is made of, and it holds them as parts:
where the text of a part begins, no string is open.

Results:

* `StandsIn.append_left`, `StandsIn.append_right`: a text that stands in another one stands in
  what that is a part of.
* **`exists_standsIn_of_within`**: the text of a part stands in the text of the whole.
-/

namespace CardText.Json

/-- A text stands in another one, and not in a string of it: what is before it ends outside of
strings. -/
def StandsIn (t s : List Char) : Prop :=
  ∃ before after, s = before ++ t ++ after ∧ Place.outside.after before = .outside

namespace StandsIn

variable {t s : List Char}

theorem refl (t : List Char) : StandsIn t t := ⟨[], [], by simp, rfl⟩

theorem append_left {before : List Char} (hbefore : Place.outside.after before = .outside)
    (h : StandsIn t s) : StandsIn t (before ++ s) := by
  obtain ⟨between, after, rfl, hbetween⟩ := h
  exact ⟨before ++ between, after, by simp only [List.append_assoc],
    Place.after_outside_append hbefore hbetween⟩

theorem append_right (h : StandsIn t s) (after : List Char) : StandsIn t (s ++ after) := by
  obtain ⟨before, between, rfl, hbefore⟩ := h
  exact ⟨before, between ++ after, by simp only [List.append_assoc], hbefore⟩

theorem trans {u : List Char} (h : StandsIn t s) (h' : StandsIn s u) : StandsIn t u := by
  obtain ⟨before, after, rfl, hbefore⟩ := h'
  exact (h.append_left hbefore).append_right after

end StandsIn

/-- A value is a part of another one: itself, or a part of one of its items or fields. -/
inductive Within : Json → Json → Prop
  | self (v : Json) : Within v v
  | item {w v : Json} {vs : List Json} (h : Within w v) (hv : v ∈ vs) : Within w (.arr vs)
  | field {w v : Json} {k : String} {fs : List (String × Json)} (h : Within w v)
      (hv : (k, v) ∈ fs) : Within w (.obj fs)

section Texts

variable {l : Layout} (hl : l.Blank)
include hl

theorem after_line {c : Char} (hc : c ≠ '"') (depth : Nat) :
    Place.outside.after (c :: l.line depth) = .outside := by
  refine after_outside_of_no_quote fun d hd => ?_
  rcases List.mem_cons.mp hd with rfl | hd
  · exact hc
  · rcases hl.line depth d hd with rfl | rfl <;> decide

theorem after_key (k : String) : Place.outside.after (stringText k ++ ':' :: l.gap) = .outside := by
  have h : Tightens [] [] := tightens_plain rfl
  simpa only [List.append_nil] using (tightens_field hl k h).ends

theorem standsIn_laidOutItems (depth : Nat) {v : Json} : ∀ {vs : List Json}, v ∈ vs →
    StandsIn (laidOut l depth v) (laidOutItems l depth vs)
  | w :: vs, h => by
    have hcomma := after_line hl (c := ',') (by decide) depth
    rw [laidOutItems]
    rcases List.mem_cons.mp h with rfl | h
    · exact ((StandsIn.refl _).append_left hcomma).append_right _
    · exact (standsIn_laidOutItems depth h).append_left
        (Place.after_outside_append hcomma (tightens_laidOut hl depth w).ends)

theorem standsIn_laidOutFields (depth : Nat) {k : String} {v : Json} :
    ∀ {fs : List (String × Json)}, (k, v) ∈ fs →
      StandsIn (laidOut l depth v) (laidOutFields l depth fs)
  | (k', w) :: fs, h => by
    have hkey := Place.after_outside_append (after_line hl (c := ',') (by decide) depth)
      (after_key hl k')
    rw [laidOutFields, List.append_assoc (',' :: l.line depth)]
    rcases List.mem_cons.mp h with heq | h
    · obtain ⟨rfl, rfl⟩ := Prod.mk.inj heq
      exact ((StandsIn.refl _).append_left hkey).append_right _
    · exact (standsIn_laidOutFields depth h).append_left
        (Place.after_outside_append hkey (tightens_laidOut hl depth w).ends)

theorem standsIn_laidOut_arr (depth : Nat) {v : Json} {vs : List Json} (h : v ∈ vs) :
    StandsIn (laidOut l (depth + 1) v) (laidOut l depth (.arr vs)) := by
  cases vs with
  | nil => exact absurd h List.not_mem_nil
  | cons w vs =>
    have hopen := after_line hl (c := '[') (by decide) (depth + 1)
    rw [laidOut]
    refine StandsIn.append_right (StandsIn.append_right ?_ _) _
    rcases List.mem_cons.mp h with rfl | h
    · exact ((StandsIn.refl _).append_left hopen).append_right _
    · exact (standsIn_laidOutItems hl (depth + 1) h).append_left
        (Place.after_outside_append hopen (tightens_laidOut hl (depth + 1) w).ends)

theorem standsIn_laidOut_obj (depth : Nat) {k : String} {v : Json} {fs : List (String × Json)}
    (h : (k, v) ∈ fs) : StandsIn (laidOut l (depth + 1) v) (laidOut l depth (.obj fs)) := by
  cases fs with
  | nil => exact absurd h List.not_mem_nil
  | cons f fs =>
    obtain ⟨k', w⟩ := f
    have hkey := Place.after_outside_append (after_line hl (c := '{') (by decide) (depth + 1))
      (after_key hl k')
    rw [laidOut, List.append_assoc ('{' :: l.line (depth + 1))]
    refine StandsIn.append_right (StandsIn.append_right ?_ _) _
    rcases List.mem_cons.mp h with heq | h
    · obtain ⟨rfl, rfl⟩ := Prod.mk.inj heq
      exact ((StandsIn.refl _).append_left hkey).append_right _
    · exact (standsIn_laidOutFields hl (depth + 1) h).append_left
        (Place.after_outside_append hkey (tightens_laidOut hl (depth + 1) w).ends)

/-- **The text of a part stands in the text of the whole**, at some depth of it. -/
theorem exists_standsIn_of_within {w v : Json} (h : Within w v) (depth : Nat) :
    ∃ depth', StandsIn (laidOut l depth' w) (laidOut l depth v) := by
  induction h generalizing depth with
  | self => exact ⟨depth, .refl _⟩
  | item _ hv ih =>
    obtain ⟨depth', h⟩ := ih (depth + 1)
    exact ⟨depth', h.trans (standsIn_laidOut_arr hl depth hv)⟩
  | field _ hv ih =>
    obtain ⟨depth', h⟩ := ih (depth + 1)
    exact ⟨depth', h.trans (standsIn_laidOut_obj hl depth hv)⟩

end Texts

end CardText.Json
