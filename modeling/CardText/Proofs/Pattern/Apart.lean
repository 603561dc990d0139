import CardText.Proofs.Pattern.Search

/-!
# Where a pattern cannot match

A text is often known by its wording only: a row of pieces, with some number in each place for one
and maybe in either case. Whether a pattern can match at some place of such a text is seen from the
two rows of pieces alone, as soon as they call for different characters.

Results:

* `append_ne_of_apart`: no text starts as both rows of pieces say.
* `append_ne_of_avoids`: no place inside of a text starts as a pattern says.
* **`Split.before_or_behind`**: so its splits begin before such a text or behind it.
* `isMatch_eq_false`: and where nothing else stands, it has none.
* `isMatch_of_infix`: a pattern matches in a text whose words have its own among them.
* `exists_isFirst_of_wording`: in a text that is worded around a pattern it finds its place.
-/

namespace CardText.Pattern

open Text (isDigit fold)

variable {a b : Bool} {ps ts tail : List Piece} {t cs rest rest' : List Char}
  {runs runs' : List (List Char)}

/-- Some character can stand for both. The first may stand in either case if `a` says so, and the
second if `b` does. -/
def meets (a b : Bool) (c d : Char) : Bool := if a || b then Text.sameFolded c d else c = d

theorem meets_of_accepts {c d x : Char} (hc : accepts a c x = true) (hd : accepts b d x = true) :
    meets a b c d = true := by
  -- in the printed case a character stands for itself, in either case for its folded one
  have hfold : ∀ {b : Bool} {c : Char}, accepts b c x = true → fold c = fold x := by
    intro b c h
    cases b with
    | false => exact congrArg fold (of_decide_eq_true h)
    | true => exact of_decide_eq_true h
  unfold meets
  split
  · exact decide_eq_true ((hfold hc).trans (hfold hd).symm)
  · rename_i hab
    obtain ⟨rfl, rfl⟩ := Bool.or_eq_false_iff.mp (Bool.not_eq_true _ ▸ hab)
    exact decide_eq_true ((of_decide_eq_true hc).trans (of_decide_eq_true hd).symm)

/-- Two rows of pieces call for different characters at some place that both have. -/
def apart (a b : Bool) : List Piece → List Piece → Bool
  | .char c :: ps, .char d :: ts => !meets a b c d || apart a b ps ts
  | .char c :: _, .digits _ :: _ => startsOff isDigit [.char c]
  | .digits _ :: _, .char d :: _ => startsOff isDigit [.char d]
  | .digits _ :: ps, .digits _ :: ts =>
    startsOff isDigit ps && startsOff isDigit ts && apart a b ps ts
  | _, _ => false

/-- A run of digits does not start as a character does that stands off digits. -/
theorem Spelled.head_not_digit {c : Char} (h : Spelled a (.char c :: ps) cs runs)
    (hs : startsOff isDigit [.char c] = true) : ∃ x cs', cs = x :: cs' ∧ isDigit x = false :=
  h.exists_cons_of_startsOff (fun _ => fold_of_isDigit) hs

/-- Runs of digits in the same place are the same, if something else follows them. -/
theorem run_eq_of_append_eq {run run' : List Char} (hrun : ∀ c ∈ run, isDigit c = true)
    (hrun' : ∀ c ∈ run', isDigit c = true) (hrest : ∃ x s, rest = x :: s ∧ isDigit x = false)
    (hrest' : ∃ x s, rest' = x :: s ∧ isDigit x = false) (h : run ++ rest = run' ++ rest') :
    run = run' ∧ rest = rest' := by
  have hstop : ∀ {s : List Char}, (∃ x s', s = x :: s' ∧ isDigit x = false) →
      ∀ c ∈ s.head?, isDigit c = false := by
    rintro _ ⟨x, s', rfl, hx⟩ c hc
    obtain rfl : x = c := by simpa using hc
    exact hx
  obtain ⟨htake, hdrop⟩ := takeWhile_run_append hrun (hstop hrest)
  obtain ⟨htake', hdrop'⟩ := takeWhile_run_append hrun' (hstop hrest')
  rw [h] at htake hdrop
  exact ⟨htake.symm.trans htake', hdrop.symm.trans hdrop'⟩

/-- **No text starts as both rows of pieces say.** -/
theorem append_ne_of_apart (h : apart a b ps ts = true) (ht : Spelled b ts t runs)
    (hc : Spelled a ps cs runs') : t ++ rest ≠ cs ++ rest' := by
  intro heq
  fun_induction apart a b ps ts generalizing t cs runs runs' with
  | case1 c ps d ts ih =>
    cases ht with
    | char hd ht =>
      cases hc with
      | char hc hcs =>
        obtain ⟨rfl, hrest⟩ := List.cons.inj heq
        rw [meets_of_accepts hc hd, Bool.not_true, Bool.false_or] at h
        exact ih h ht hcs hrest
  | case2 c ps captured ts =>
    cases ht with
    | digits hne hrun _ =>
      obtain ⟨x, cs', rfl, hx⟩ := hc.head_not_digit h
      obtain ⟨d, ds, rfl⟩ := List.exists_cons_of_ne_nil hne
      obtain ⟨rfl, -⟩ := List.cons.inj heq
      exact Bool.false_ne_true (hx.symm.trans (hrun d List.mem_cons_self))
  | case3 captured ps d ts =>
    cases hc with
    | digits hne hrun _ =>
      obtain ⟨x, t', rfl, hx⟩ := ht.head_not_digit h
      obtain ⟨d, ds, rfl⟩ := List.exists_cons_of_ne_nil hne
      obtain ⟨rfl, -⟩ := List.cons.inj heq
      exact Bool.false_ne_true (hx.symm.trans (hrun x List.mem_cons_self))
  | case4 captured ps captured' ts ih =>
    rw [Bool.and_eq_true, Bool.and_eq_true] at h
    obtain ⟨⟨hps, hts⟩, h⟩ := h
    cases ht with
    | digits _ hrun ht =>
      cases hc with
      | digits _ hrun' hcs =>
        rw [List.append_assoc, List.append_assoc] at heq
        obtain ⟨x, t', rfl, hx⟩ := ht.exists_cons_of_startsOff (fun _ => fold_of_isDigit) hts
        obtain ⟨y, cs', rfl, hy⟩ := hcs.exists_cons_of_startsOff (fun _ => fold_of_isDigit) hps
        obtain ⟨-, hrest⟩ :=
          run_eq_of_append_eq hrun hrun' ⟨x, _, rfl, hx⟩ ⟨y, _, rfl, hy⟩ heq
        exact ih h ht hcs hrest
  | case5 => exact absurd h (by simp)

/-- The pattern's pieces are apart from all that a row of pieces says from some place of it on, when
another row follows it. -/
def avoids (a b : Bool) (ps tail : List Piece) : List Piece → Bool
  | [] => true
  | t :: ts => apart a b ps (t :: ts ++ tail) && avoids a b ps tail ts

/-- **No place inside of a text starts as a pattern says.** -/
theorem append_ne_of_avoids {u v w : List Char} {runs₁ runs₂ : List (List Char)}
    (h : avoids a b ps tail ts = true) (ht : Spelled b ts (u ++ v) runs₁) (hv : v ≠ [])
    (htail : Spelled b tail w runs₂) (hc : Spelled a ps cs runs) :
    v ++ (w ++ rest) ≠ cs ++ rest' := by
  -- the place lies at the start of the text, in the characters of its first piece, or behind these
  generalize huv : u ++ v = t at ht
  induction ht generalizing u with
  | nil => exact absurd (List.append_eq_nil_iff.mp huv).2 hv
  | @char c x ts t _ hx ht ih =>
    rw [avoids, Bool.and_eq_true] at h
    cases u with
    | nil =>
      obtain rfl : v = x :: t := huv
      rw [← List.append_assoc]
      exact append_ne_of_apart h.1 (Spelled.append (.char hx ht) htail) hc
    | cons y u => exact ih h.2 (List.cons.inj huv).2
  | @apostrophe x ts t _ hx ht ih =>
    rw [avoids, Bool.and_eq_true] at h
    cases u with
    | nil =>
      obtain rfl : v = x :: t := huv
      rw [← List.append_assoc]
      exact append_ne_of_apart h.1 (Spelled.append (.apostrophe hx ht) htail) hc
    | cons y u => exact ih h.2 (List.cons.inj huv).2
  | noApostrophe ht ih =>
    rw [avoids, Bool.and_eq_true] at h
    exact ih h.2 huv
  | @digits captured run ts t _ hne hrun ht ih =>
    rw [avoids, Bool.and_eq_true] at h
    rcases List.append_eq_append_iff.mp huv with ⟨run', rfl, rfl⟩ | ⟨u', rfl, rfl⟩
    · -- what is left of the run is a run too, if anything is left of it
      by_cases hrun' : run' = []
      · subst hrun'
        exact ih h.2 (u := []) rfl
      · have hv' : Spelled b (.digits captured :: ts) (run' ++ t) _ :=
          .digits hrun' (fun c hc => hrun c (List.mem_append_right u hc)) ht
        rw [← List.append_assoc]
        exact append_ne_of_apart h.1 (hv'.append htail) hc
    · exact ih h.2 rfl

/-! ## Splits -/

/-- **A pattern's splits begin before a text that it avoids, or behind it.** -/
theorem Split.before_or_behind {p : Pattern} {s u w : List Char} {runs₁ runs₂ : List (List Char)}
    (y : Split p s) (hs : s = u ++ (t ++ (w ++ rest)))
    (h : avoids p.anyCase b p.pieces tail ts = true) (ht : Spelled b ts t runs₁)
    (htail : Spelled b tail w runs₂) :
    y.before.length < u.length ∨ u.length + t.length ≤ y.before.length := by
  by_contra hno
  obtain ⟨hlow, hhigh⟩ := not_or.mp hno
  have htext : u ++ (t ++ (w ++ rest)) = y.before ++ (y.taken ++ y.behind) :=
    hs.symm.trans y.text_eq
  -- so it begins where `t` splits into `t₁` and a rest that is not empty
  obtain ⟨t₁, hbefore, hrest⟩ : ∃ t₁, y.before = u ++ t₁ ∧
      t ++ (w ++ rest) = t₁ ++ (y.taken ++ y.behind) := by
    rcases List.append_eq_append_iff.mp htext with ⟨t₁, h₁, h₂⟩ | ⟨u', h₁, h₂⟩
    · exact ⟨t₁, h₁, h₂⟩
    · have hlen := congrArg List.length h₁
      rw [List.length_append] at hlen
      obtain rfl : u' = [] := List.eq_nil_of_length_eq_zero (by omega)
      exact ⟨[], by simpa using h₁.symm, by simpa using h₂.symm⟩
  rw [hbefore, List.length_append] at hhigh
  rcases List.append_eq_append_iff.mp hrest with ⟨t₂, rfl, h₂⟩ | ⟨t₂, rfl, h₂⟩
  · rw [List.length_append] at hhigh
    omega
  · refine append_ne_of_avoids h ht ?_ htail y.spelled h₂.symm
    rintro rfl
    simp at hhigh

/-- **In a text that is worded around a pattern** the pattern finds its place, and its numbers are
those of the text. -/
theorem exists_isFirst_of_wording {p : Pattern} {lead post : List Char}
    (hp : sharp p.pieces = true) (hcase : p.anyCase = false)
    (hanchored : p.anchored = true → lead = [])
    (hlead : avoids false false p.pieces p.pieces (lead.map .char) = true)
    (hpost : endsInRun p.pieces = true → startsOff isDigit (post.map .char) = true)
    (h : Spelled false (lead.map .char ++ (p.pieces ++ post.map .char)) s runs) :
    ∃ x : Split p s, x.IsFirst ∧ x.runs = runs := by
  obtain ⟨u, v, runs₁, runs₂, rfl, rfl, hu, hv⟩ := h.exists_append
  obtain ⟨t, w, runs₃, runs₄, rfl, rfl, ht, hw⟩ := hv.exists_append
  obtain ⟨hlen, rfl⟩ := hu.of_phrase
  obtain ⟨-, rfl⟩ := hw.of_phrase
  refine ⟨⟨u, t, w, runs₃, rfl, hcase ▸ ht, fun ha => ?_⟩, ?_, by simp⟩
  · rw [hanchored ha] at hlen
    exact List.eq_nil_of_length_eq_zero hlen
  · refine Split.isFirst_of_ends hp (fun hend c hc => ?_) fun y => ?_
    · obtain ⟨a, w', rfl, ha⟩ := hw.exists_cons_of_startsOff (fun _ => fold_of_isDigit) (hpost hend)
      obtain rfl : a = c := by simpa using hc
      exact ha
    · -- no place in the lead is one for the pattern
      rcases y.before_or_behind (u := []) rfl (hcase ▸ hlead) hu ht with hlt | hle
      · exact absurd hlt (Nat.not_lt_zero _)
      · rwa [List.length_nil, Nat.zero_add] at hle

/-- A pattern matches in a text whose words have its own among them. -/
theorem isMatch_of_infix {p : Pattern} {text : String} {runs : List (List Char)}
    (hp : sharp p.pieces = true) (hts : p.pieces.map Piece.asked <:+: ts.map Piece.asked)
    (hanchored : p.anchored = true → p.pieces.map Piece.asked <+: ts.map Piece.asked)
    (h : Spelled false ts text.toList runs) : p.isMatch text = true := by
  have hcase : ∀ {cs runs}, Spelled false (p.pieces.map Piece.asked) cs runs →
      Spelled p.anyCase p.pieces cs runs := by
    intro cs runs hs
    have hs := spelled_asked_iff.mp hs
    cases hany : p.anyCase with
    | false => exact hs
    | true => exact hs.inEitherCase
  rw [isMatch_iff hp]
  have h := spelled_asked_iff.mpr h
  by_cases ha : p.anchored = true
  · obtain ⟨post, hpost⟩ := hanchored ha
    rw [← hpost] at h
    obtain ⟨t, w, runs₁, -, htext, -, ht, -⟩ := h.exists_append
    exact ⟨⟨[], t, w, runs₁, htext, hcase ht, fun _ => rfl⟩⟩
  · obtain ⟨lead, post, hpost⟩ := hts
    rw [← hpost] at h
    obtain ⟨v, w, runs₁, -, htext, -, hv, -⟩ := h.exists_append
    obtain ⟨u, t, -, runs₂, rfl, -, -, ht⟩ := hv.exists_append
    exact ⟨⟨u, t, w, runs₂, by rw [htext, List.append_assoc], hcase ht, fun h => absurd h ha⟩⟩

/-- A pattern that starts with a character and avoids all of a text does not match in it. -/
theorem isMatch_eq_false {p : Pattern} {text : String} {runs : List (List Char)}
    (hp : sharp p.pieces = true) (hstart : startsOff (fun _ => false) p.pieces = true)
    (h : avoids p.anyCase b p.pieces [] ts = true) (ht : Spelled b ts text.toList runs) :
    p.isMatch text = false := by
  rw [← Bool.not_eq_true, isMatch_iff hp]
  rintro ⟨y⟩
  obtain ⟨x, cs, htaken, -⟩ := y.spelled.exists_cons_of_startsOff (fun _ h => by cases h) hstart
  have hlen := congrArg List.length y.text_eq
  rw [htaken, List.length_append, List.length_append, List.length_cons] at hlen
  have htext : text.toList = [] ++ (text.toList ++ ([] ++ [])) := by simp
  rcases y.before_or_behind htext h ht .nil with hlt | hle
  · exact absurd hlt (Nat.not_lt_zero _)
  · rw [List.length_nil] at hle
    omega

end CardText.Pattern
