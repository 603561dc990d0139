import CardText.Text.Position
import Mathlib.Data.List.DropRight

/-!
# The position behind a text

A position is reached byte by byte. Behind all bytes of a text, its line is told by the line feeds
of the text and its column by the bytes behind the last of them.

Results:

* `behind_concat`: one more character is passed as a whole.
* **`ofOffset_byteCount`**: the position behind all bytes of a text.
-/

namespace CardText.Text

theorem byteCount_append : ∀ xs ys : List Char, byteCount (xs ++ ys) = byteCount xs + byteCount ys
  | [], ys => (Nat.zero_add _).symm
  | c :: xs, ys => by
    show c.utf8Size + byteCount (xs ++ ys) = _
    rw [byteCount_append xs ys, ← Nat.add_assoc]
    rfl

namespace Position

/-- The position behind all of a text: one line more than its line feeds, and the bytes behind the
last of them. -/
def behind (text : List Char) : Position :=
  ⟨text.count '\n' + 1, byteCount (text.rtakeWhile (· ≠ '\n'))⟩

/-- One more character is passed as a whole. -/
theorem behind_concat (text : List Char) (c : Char) :
    behind (text ++ [c]) = (behind text).after c c.utf8Size := by
  unfold behind after
  rw [List.rtakeWhile_concat, List.count_append]
  by_cases hc : c = '\n'
  · simp [hc, byteCount]
  · simp [hc, byteCount_append, byteCount]

/-- Where a text goes on, so does the position behind it. -/
theorem advance_append_byteCount (xs ys : List Char) (n : Nat) (p : Position) :
    p.advance (xs ++ ys) (byteCount xs + n) = (p.advance xs (byteCount xs)).advance ys n := by
  induction xs generalizing p with
  | nil =>
    rw [byteCount, Nat.zero_add]
    rfl
  | cons c xs ih =>
    have hpos := c.utf8Size_pos
    rw [List.cons_append, byteCount, advance, advance, if_neg (by omega), if_neg (by omega),
      if_neg (by omega), if_neg (by omega), Nat.add_assoc, Nat.add_sub_cancel_left,
      Nat.add_sub_cancel_left, ih]

/-- **The position behind all bytes of a text.** -/
theorem ofOffset_byteCount (text : List Char) : ofOffset text (byteCount text) = behind text := by
  induction text using List.reverseRecOn with
  | nil => rfl
  | append_singleton text c ih =>
    have hpos := c.utf8Size_pos
    unfold ofOffset at ih ⊢
    rw [byteCount_append, advance_append_byteCount, ih, behind_concat]
    simp only [byteCount, Nat.add_zero, advance, Nat.ne_of_gt hpos, Nat.lt_irrefl, if_false]

end Position

end CardText.Text
