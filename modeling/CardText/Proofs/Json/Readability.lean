import CardText.Proofs.Json.Strings
import CardText.Proofs.Text.Decimal

/-!
# A JSON text tells its value

The compact text of a value says what the value is: no two values have the same text, and a text
that starts with that of one value starts with no other value's. Only numbers need something behind
them that ends them; lists, objects and strings end by themselves.

Results:

* `exists_kind_of_compact`: the first character tells the kind of the value.
* **`compact_append_inj`**: a text starts with one value only.
* **`compact_injective`**: values with the same compact text are equal.
-/

namespace CardText.Json

open Text

/-! ## Kinds of values -/

/-- The kinds of values. -/
inductive Kind
  | null
  | bool
  | int
  | str
  | arr
  | obj
  deriving DecidableEq

/-- The kind of a value. -/
def kind : Json → Kind
  | .null => .null
  | .bool _ => .bool
  | .int _ => .int
  | .str _ => .str
  | .arr _ => .arr
  | .obj _ => .obj

/-- The kind of the values that are written with this character first. -/
def kindOf? (c : Char) : Option Kind :=
  if c = 'n' then some .null
  else if c = 't' ∨ c = 'f' then some .bool
  else if c = '"' then some .str
  else if c = '[' then some .arr
  else if c = '{' then some .obj
  else if c = '-' ∨ (digitValue? c).isSome then some .int
  else none

/-- **The first character tells the kind.** -/
theorem exists_kind_of_compact (v : Json) :
    ∃ c rest, compact v = c :: rest ∧ kindOf? c = some v.kind := by
  cases v with
  | null => exact ⟨'n', _, rfl, rfl⟩
  | bool b =>
    cases b
    · exact ⟨'f', _, rfl, rfl⟩
    · exact ⟨'t', _, rfl, rfl⟩
  | int n =>
    rw [compact]
    cases n with
    | ofNat n =>
      have hall : ∀ d < 10, kindOf? (Nat.digitChar d) = some .int := by decide
      obtain ⟨c, rest, hn, -⟩ := exists_numeral_of_decimal n
      obtain ⟨d, hd, rfl⟩ := exists_digitChar_of_mem_decimal (hn ▸ List.mem_cons_self)
      exact ⟨_, rest, hn, hall d hd⟩
    | negSucc n => exact ⟨'-', _, rfl, rfl⟩
  | str s =>
    rw [compact]
    exact ⟨'"', _, rfl, rfl⟩
  | arr vs =>
    cases vs
    · exact ⟨'[', _, by rw [compact], rfl⟩
    · exact ⟨'[', _, by rw [compact]; rfl, rfl⟩
  | obj fs =>
    cases fs
    · exact ⟨'{', _, by rw [compact], rfl⟩
    · exact ⟨'{', _, by rw [compact]; rfl, rfl⟩

theorem kind_eq_of_append {v w : Json} {r r' : List Char} (h : compact v ++ r = compact w ++ r') :
    v.kind = w.kind := by
  obtain ⟨c, rest, hv, hc⟩ := exists_kind_of_compact v
  obtain ⟨d, rest', hw, hd⟩ := exists_kind_of_compact w
  rw [hv, hw] at h
  obtain rfl := (List.cons.inj h).1
  exact Option.some.inj (hc.symm.trans hd)

/-- No value starts with the end of a list. -/
theorem compact_append_ne_bracket (v : Json) {r s : List Char} : compact v ++ r ≠ ']' :: s := by
  obtain ⟨c, rest, hv, hc⟩ := exists_kind_of_compact v
  intro h
  rw [hv] at h
  obtain rfl := (List.cons.inj h).1
  exact absurd hc (by rw [show kindOf? ']' = none from rfl]; simp)

/-! ## Values from their texts -/

theorem endsNumber_compactItems (vs : List Json) (r : List Char) :
    EndsNumber (compactItems vs ++ ']' :: r) := by
  cases vs with
  | nil =>
    rw [compactItems]
    exact endsNumber_cons rfl r
  | cons v vs =>
    rw [compactItems]
    exact endsNumber_cons rfl _

theorem endsNumber_compactFields (fs : List (String × Json)) (r : List Char) :
    EndsNumber (compactFields fs ++ '}' :: r) := by
  cases fs with
  | nil =>
    rw [compactFields]
    exact endsNumber_cons rfl r
  | cons f fs =>
    obtain ⟨k, v⟩ := f
    rw [compactFields]
    exact endsNumber_cons rfl _

mutual

/-- **A text starts with one value only**, where a number ends at what is behind it. -/
theorem compact_append_inj : ∀ (v w : Json) {r r' : List Char},
    compact v ++ r = compact w ++ r' → EndsNumber r → EndsNumber r' → v = w ∧ r = r'
  | .null, w, r, r', h, _, _ => by
    have hkind := kind_eq_of_append h
    cases w with
    | null => exact ⟨rfl, List.append_cancel_left h⟩
    | _ => cases hkind
  | .bool b, w, r, r', h, _, _ => by
    have hkind := kind_eq_of_append h
    cases w with
    | bool b' =>
      rw [compact, compact] at h
      cases b <;> cases b' <;> simp_all [boolText]
    | _ => cases hkind
  | .int n, w, r, r', h, hr, hr' => by
    have hkind := kind_eq_of_append h
    cases w with
    | int n' =>
      rw [compact, compact] at h
      obtain ⟨rfl, hrest⟩ := signedDecimal_append_inj h hr hr'
      exact ⟨rfl, hrest⟩
    | _ => cases hkind
  | .str s, w, r, r', h, _, _ => by
    have hkind := kind_eq_of_append h
    cases w with
    | str s' =>
      rw [compact, compact] at h
      obtain ⟨rfl, hrest⟩ := stringText_append_inj h
      exact ⟨rfl, hrest⟩
    | _ => cases hkind
  | .arr [], w, r, r', h, _, _ => by
    have hkind := kind_eq_of_append h
    cases w with
    | arr ws =>
      cases ws with
      | nil => exact ⟨rfl, List.append_cancel_left h⟩
      | cons w ws =>
        simp only [compact, List.cons_append, List.append_assoc] at h
        exact absurd (List.cons.inj h).2.symm (compact_append_ne_bracket w)
    | _ => cases hkind
  | .arr (v :: vs), w, r, r', h, _, _ => by
    have hkind := kind_eq_of_append h
    cases w with
    | arr ws =>
      cases ws with
      | nil =>
        simp only [compact, List.cons_append, List.append_assoc] at h
        exact absurd (List.cons.inj h).2 (compact_append_ne_bracket v)
      | cons w ws =>
        simp only [compact, List.cons_append, List.append_assoc, List.nil_append] at h
        obtain ⟨rfl, hitems⟩ := compact_append_inj v w (List.cons.inj h).2
          (endsNumber_compactItems vs r) (endsNumber_compactItems ws r')
        obtain ⟨rfl, hrest⟩ := compactItems_append_inj vs ws hitems
        exact ⟨rfl, hrest⟩
    | _ => cases hkind
  | .obj [], w, r, r', h, _, _ => by
    have hkind := kind_eq_of_append h
    cases w with
    | obj gs =>
      cases gs with
      | nil => exact ⟨rfl, List.append_cancel_left h⟩
      | cons g gs => simp [compact, stringText] at h
    | _ => cases hkind
  | .obj ((k, v) :: fs), w, r, r', h, _, _ => by
    have hkind := kind_eq_of_append h
    cases w with
    | obj gs =>
      cases gs with
      | nil => simp [compact, stringText] at h
      | cons g gs =>
        obtain ⟨k', w⟩ := g
        simp only [compact, List.cons_append, List.append_assoc, List.nil_append] at h
        obtain ⟨rfl, hfield⟩ := stringText_append_inj (List.cons.inj h).2
        obtain ⟨rfl, hfields⟩ := compact_append_inj v w (List.cons.inj hfield).2
          (endsNumber_compactFields fs r) (endsNumber_compactFields gs r')
        obtain ⟨rfl, hrest⟩ := compactFields_append_inj fs gs hfields
        exact ⟨rfl, hrest⟩
    | _ => cases hkind

theorem compactItems_append_inj : ∀ (vs ws : List Json) {r r' : List Char},
    compactItems vs ++ ']' :: r = compactItems ws ++ ']' :: r' → vs = ws ∧ r = r'
  | [], [], _, _, h => ⟨rfl, (List.cons.inj h).2⟩
  | [], w :: ws, _, _, h => by simp [compactItems] at h
  | v :: vs, [], _, _, h => by simp [compactItems] at h
  | v :: vs, w :: ws, r, r', h => by
    simp only [compactItems, List.cons_append, List.append_assoc] at h
    obtain ⟨rfl, hitems⟩ := compact_append_inj v w (List.cons.inj h).2
      (endsNumber_compactItems vs r) (endsNumber_compactItems ws r')
    obtain ⟨rfl, hrest⟩ := compactItems_append_inj vs ws hitems
    exact ⟨rfl, hrest⟩

theorem compactFields_append_inj : ∀ (fs gs : List (String × Json)) {r r' : List Char},
    compactFields fs ++ '}' :: r = compactFields gs ++ '}' :: r' → fs = gs ∧ r = r'
  | [], [], _, _, h => ⟨rfl, (List.cons.inj h).2⟩
  | [], (k, w) :: gs, _, _, h => by simp [compactFields] at h
  | (k, v) :: fs, [], _, _, h => by simp [compactFields] at h
  | (k, v) :: fs, (k', w) :: gs, r, r', h => by
    simp only [compactFields, List.cons_append, List.append_assoc] at h
    obtain ⟨rfl, hfield⟩ := stringText_append_inj (List.cons.inj h).2
    obtain ⟨rfl, hfields⟩ := compact_append_inj v w (List.cons.inj hfield).2
      (endsNumber_compactFields fs r) (endsNumber_compactFields gs r')
    obtain ⟨rfl, hrest⟩ := compactFields_append_inj fs gs hfields
    exact ⟨rfl, hrest⟩

end

/-- **Values with the same compact text are equal.** -/
theorem compact_injective : Function.Injective compact := by
  intro v w h
  have htext : compact v ++ [] = compact w ++ [] := by rw [h]
  exact (compact_append_inj v w htext endsNumber_nil endsNumber_nil).1

end CardText.Json
