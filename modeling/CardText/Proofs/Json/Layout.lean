import CardText.Json

/-!
# Layouts of JSON texts

The compact and the indented text of a value differ only in what stands at the start of a line and
behind a colon. With these two as a layout there is one text for every layout, and what holds of it
holds of both texts.

Results:

* `laidOut_tight`, `laidOut_lines`: the compact and the indented text.
* **`render_eq_laidOut`**: what is written is the text for one of two layouts.
-/

namespace CardText.Json

/-- What stands at the start of a line of a depth, and what stands behind a colon. -/
structure Layout where
  line : Nat → List Char
  gap : List Char

namespace Layout

/-- Everything on one line and nothing behind a colon. -/
def tight : Layout := ⟨fun _ => [], []⟩

/-- A line for every item and field, and a space behind every colon. -/
def lines : Layout := ⟨newline, [' ']⟩

/-- The layout of a compact or of an indented text. -/
def ofPretty (pretty : Bool) : Layout := if pretty then lines else tight

/-- The characters of a layout are spaces and line feeds. -/
structure Blank (l : Layout) : Prop where
  line : ∀ depth, ∀ c ∈ l.line depth, c = ' ' ∨ c = '\n'
  gap : ∀ c ∈ l.gap, c = ' ' ∨ c = '\n'

theorem blank_tight : tight.Blank := ⟨fun _ _ h => absurd h List.not_mem_nil,
  fun _ h => absurd h List.not_mem_nil⟩

theorem blank_lines : lines.Blank where
  line depth c h := by
    rcases List.mem_cons.mp h with rfl | h
    · exact Or.inr rfl
    · exact Or.inl (List.mem_replicate.mp h).2
  gap c h := Or.inl (List.mem_singleton.mp h)

theorem blank_ofPretty (pretty : Bool) : (ofPretty pretty).Blank := by
  cases pretty
  · exact blank_tight
  · exact blank_lines

end Layout

mutual

/-- The text of a value whose first line is at a depth. -/
def laidOut (l : Layout) (depth : Nat) : Json → List Char
  | .null => "null".toList
  | .bool b => boolText b
  | .int n => Text.signedDecimal n
  | .str s => stringText s
  | .arr [] => ['[', ']']
  | .arr (v :: vs) =>
    '[' :: l.line (depth + 1) ++ laidOut l (depth + 1) v ++ laidOutItems l (depth + 1) vs ++
      l.line depth ++ [']']
  | .obj [] => ['{', '}']
  | .obj ((k, v) :: fs) =>
    '{' :: l.line (depth + 1) ++ stringText k ++ ':' :: l.gap ++ laidOut l (depth + 1) v ++
      laidOutFields l (depth + 1) fs ++ l.line depth ++ ['}']

/-- The further items of a list. -/
def laidOutItems (l : Layout) (depth : Nat) : List Json → List Char
  | [] => []
  | v :: vs => ',' :: l.line depth ++ laidOut l depth v ++ laidOutItems l depth vs

/-- The further fields of an object. -/
def laidOutFields (l : Layout) (depth : Nat) : List (String × Json) → List Char
  | [] => []
  | (k, v) :: fs =>
    ',' :: l.line depth ++ stringText k ++ ':' :: l.gap ++ laidOut l depth v ++
      laidOutFields l depth fs

end

mutual

theorem laidOut_tight : ∀ (depth : Nat) (v : Json), laidOut .tight depth v = compact v
  | _, .null => rfl
  | _, .bool _ => rfl
  | _, .int _ => by rw [laidOut, compact]
  | _, .str _ => by rw [laidOut, compact]
  | _, .arr [] => by rw [laidOut, compact]
  | depth, .arr (v :: vs) => by
    rw [laidOut, compact, laidOut_tight (depth + 1) v, laidOutItems_tight (depth + 1) vs]
    simp [Layout.tight]
  | _, .obj [] => by rw [laidOut, compact]
  | depth, .obj ((k, v) :: fs) => by
    rw [laidOut, compact, laidOut_tight (depth + 1) v, laidOutFields_tight (depth + 1) fs]
    simp [Layout.tight]

theorem laidOutItems_tight : ∀ (depth : Nat) (vs : List Json),
    laidOutItems .tight depth vs = compactItems vs
  | _, [] => by rw [laidOutItems, compactItems]
  | depth, v :: vs => by
    rw [laidOutItems, compactItems, laidOut_tight depth v, laidOutItems_tight depth vs]
    simp [Layout.tight]

theorem laidOutFields_tight : ∀ (depth : Nat) (fs : List (String × Json)),
    laidOutFields .tight depth fs = compactFields fs
  | _, [] => by rw [laidOutFields, compactFields]
  | depth, (k, v) :: fs => by
    rw [laidOutFields, compactFields, laidOut_tight depth v, laidOutFields_tight depth fs]
    simp [Layout.tight]

end

mutual

theorem laidOut_lines : ∀ (depth : Nat) (v : Json), laidOut .lines depth v = indented depth v
  | _, .null => by rw [laidOut, indented]
  | _, .bool _ => by rw [laidOut, indented]
  | _, .int _ => by rw [laidOut, indented]
  | _, .str _ => by rw [laidOut, indented]
  | _, .arr [] => by rw [laidOut, indented]
  | depth, .arr (v :: vs) => by
    rw [laidOut, indented, laidOut_lines (depth + 1) v, laidOutItems_lines (depth + 1) vs]
    rfl
  | _, .obj [] => by rw [laidOut, indented]
  | depth, .obj ((k, v) :: fs) => by
    rw [laidOut, indented, laidOut_lines (depth + 1) v, laidOutFields_lines (depth + 1) fs]
    simp [Layout.lines]

theorem laidOutItems_lines : ∀ (depth : Nat) (vs : List Json),
    laidOutItems .lines depth vs = indentedItems depth vs
  | _, [] => by rw [laidOutItems, indentedItems]
  | depth, v :: vs => by
    rw [laidOutItems, indentedItems, laidOut_lines depth v, laidOutItems_lines depth vs]
    rfl

theorem laidOutFields_lines : ∀ (depth : Nat) (fs : List (String × Json)),
    laidOutFields .lines depth fs = indentedFields depth fs
  | _, [] => by rw [laidOutFields, indentedFields]
  | depth, (k, v) :: fs => by
    rw [laidOutFields, indentedFields, laidOut_lines depth v, laidOutFields_lines depth fs]
    simp [Layout.lines]

end

/-- **What is written is the text for a layout.** -/
theorem render_eq_laidOut (pretty : Bool) (v : Json) :
    (v.render pretty).toList = laidOut (.ofPretty pretty) 0 v := by
  cases pretty
  · exact String.toList_ofList.trans (laidOut_tight 0 v).symm
  · exact String.toList_ofList.trans (laidOut_lines 0 v).symm

end CardText.Json
