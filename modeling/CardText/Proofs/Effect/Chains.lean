import CardText.Proofs.Document.Json

/-!
# Chains of conditions

A chain of conditions is put together from the left (`bitand` of `CardCondition`). What comes of it
is one list: the conditions that the first one starts with, and behind them every further condition
as it is, even one that is a list of its own. So the brackets of a chain are not lost: the same
conditions in the same order, but with other brackets, are another condition, and it has another
text.

Results:

* `and_eq_every`, `foldl_and`: what one more condition and any number of them make of a chain.
* `Grouping.spine_length_lt`: a condition that is put together is longer than the one it starts
  with.
* `Grouping.eq_of_spine_eq`: the brackets are told by the list that comes of them.
* **`chains_in_order`**: what a chain is, and that its text tells its brackets.
-/

namespace CardText.Condition

/-- The conditions that a chain is made of, and any other condition alone. -/
def spine : Condition → List Condition
  | every cs => cs
  | c => [c]

@[simp] theorem spine_every (cs : List Condition) : (every cs).spine = cs := rfl

/-- **One more condition** stands behind those that are there, whatever it is itself. -/
theorem and_eq_every (c d : Condition) : (c &&& d) = every (c.spine ++ [d]) := by
  cases c <;> rfl

/-- **A chain** is the conditions of its first one and then the others, in their order. -/
theorem foldl_and (c d : Condition) (ds : List Condition) :
    (d :: ds).foldl (· &&& ·) c = every (c.spine ++ d :: ds) := by
  induction ds generalizing c d with
  | nil => exact and_eq_every c d
  | cons e ds ih =>
    show (e :: ds).foldl (· &&& ·) (c &&& d) = _
    rw [ih, and_eq_every, spine_every, List.append_assoc, List.singleton_append]

/-! ## Brackets -/

/-- Conditions with brackets around them. -/
inductive Grouping
  | one (c : Condition)
  | both (left right : Grouping)

namespace Grouping

/-- The conditions, in their order and without the brackets. -/
def operands : Grouping → List Condition
  | one c => [c]
  | both l r => l.operands ++ r.operands

/-- What comes of the conditions. -/
def value : Grouping → Condition
  | one c => c
  | both l r => l.value &&& r.value

/-- The condition that comes first. -/
def first : Grouping → Condition
  | one c => c
  | both l _ => l.first

theorem head?_operands_append (cs : List Condition) : ∀ g : Grouping,
    (g.operands ++ cs).head? = some g.first
  | one _ => rfl
  | both l r => by rw [operands, List.append_assoc, head?_operands_append _ l, first]

theorem first_eq_of_operands_eq {g h : Grouping} {cs ds : List Condition}
    (heq : g.operands ++ cs = h.operands ++ ds) : g.first = h.first := by
  have hhead := congrArg List.head? heq
  rw [head?_operands_append, head?_operands_append] at hhead
  exact Option.some.inj hhead

theorem spine_both (l r : Grouping) : (both l r).value.spine = l.value.spine ++ [r.value] := by
  rw [value, and_eq_every, spine_every]

/-- **What is put together is longer** than what it starts with. -/
theorem spine_length_lt (r : Grouping) : ∀ l : Grouping,
    (both l r).first.spine.length < (both l r).value.spine.length
  | one c => by
    rw [spine_both, List.length_append]
    exact Nat.lt_succ_self _
  | both l' r' => by
    rw [spine_both, List.length_append]
    exact (spine_length_lt r' l').trans (Nat.lt_succ_self _)

theorem spine_both_ne {l r : Grouping} {c : Condition} (h : (both l r).first = c) :
    (both l r).value.spine ≠ c.spine := by
  intro heq
  have hlt := spine_length_lt r l
  rw [h, heq] at hlt
  exact Nat.lt_irrefl _ hlt

/-- **The brackets are told** by the list that comes of the conditions. The conditions may go on
behind those in the brackets, for how many of them stand on the left side of the outermost brackets
is known only in the end. -/
theorem eq_of_spine_eq : ∀ {g h : Grouping} {cs ds : List Condition},
    g.operands ++ cs = h.operands ++ ds → g.value.spine = h.value.spine → g = h
  | one c, one d, _, _, hops, _ => congrArg one (List.cons.inj hops).1
  | one _, both _ _, _, _, hops, hspine =>
    absurd hspine.symm (spine_both_ne (first_eq_of_operands_eq hops).symm)
  | both _ _, one _, _, _, hops, hspine =>
    absurd hspine (spine_both_ne (first_eq_of_operands_eq hops))
  | both l r, both l' r', cs, ds, hops, hspine => by
    rw [spine_both, spine_both] at hspine
    obtain ⟨hleft, hright⟩ := List.append_singleton_inj.mp hspine
    rw [operands, operands, List.append_assoc, List.append_assoc] at hops
    obtain rfl := eq_of_spine_eq hops hleft
    obtain rfl := eq_of_spine_eq (List.append_cancel_left hops) (congrArg spine hright)
    rfl

theorem eq_of_value_eq {g h : Grouping} (hops : g.operands = h.operands)
    (hvalue : g.value = h.value) : g = h :=
  eq_of_spine_eq (congrArg (· ++ []) hops) (congrArg spine hvalue)

/-- **The brackets are told by the text**, compact or indented. -/
theorem eq_iff_render (pretty : Bool) (g h : Grouping) :
    g = h ↔ g.operands = h.operands ∧
      g.value.toJson.render pretty = h.value.toJson.render pretty := by
  constructor
  · rintro rfl
    exact ⟨rfl, rfl⟩
  · rintro ⟨hops, htext⟩
    exact eq_of_value_eq hops (Condition.toJson_injective (Json.render_injective pretty htext))

end Grouping

/-- The brackets of three conditions are never without effect. -/
theorem and_and_ne (a b c : Condition) : (a &&& b) &&& c ≠ a &&& (b &&& c) := by
  intro heq
  have hne : Grouping.both (.both (.one a) (.one b)) (.one c) ≠
      .both (.one a) (.both (.one b) (.one c)) := by simp
  exact hne (Grouping.eq_of_value_eq rfl heq)

/-- **Chains keep their conditions and show their brackets.** A chain of two or more conditions is
the list of what its first one is made of and of the others as they are, in their order. It is
never the same condition with other brackets, and of all brackets around the same conditions no two
have the same text. -/
theorem chains_in_order :
    (∀ c d ds, (d :: ds).foldl (· &&& ·) c = every (c.spine ++ d :: ds)) ∧
      (∀ a b c : Condition, (a &&& b) &&& c ≠ a &&& (b &&& c)) ∧
      ∀ (pretty : Bool) (g h : Grouping), g = h ↔ g.operands = h.operands ∧
        g.value.toJson.render pretty = h.value.toJson.render pretty :=
  ⟨foldl_and, and_and_ne, Grouping.eq_iff_render⟩

/-- A chain on the right stays one condition. -/
example : (tag .weapon &&& size .large &&& hasCooldown) =
      every [tag .weapon, size .large, hasCooldown] ∧
    (tag .weapon &&& (size .large &&& hasCooldown)) =
      every [tag .weapon, every [size .large, hasCooldown]] := ⟨rfl, rfl⟩

end CardText.Condition
