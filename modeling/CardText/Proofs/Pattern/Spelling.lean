import CardText.Pattern.Basic
import Mathlib.Data.List.Forall2

/-!
# How a text is spelled by a pattern

A text is spelled by a pattern's pieces if it has their characters, with some run of digits in each
place for one, however long. The matcher has no such choice: it takes every digit that there is. No
spelling is lost by that as long as no digit can stand behind a run, and no apostrophe behind the
place for one.

Results:

* `accepts_iff`: which character of a text may stand for one of a pattern.
* `spelled_of_matchPieces`: what the matcher takes is spelled by the pieces.
* `matchPieces_of_spelled`: where no digit follows, the matcher takes a text that is spelled by the
  pieces, and all of it.
* **`exists_matchPieces_of_spelled`**: wherever there is a spelling, the matcher takes one whose
  runs are at least as long.
-/

namespace CardText

open Piece (isApostrophe)
open Text (isDigit fold)

namespace Piece

/-- The piece with its number asked for. -/
def asked : Piece → Piece
  | digits _ => digits true
  | p => p

end Piece

namespace Pattern

variable {anyCase : Bool} {ps : List Piece} {cs cs' rest : List Char}
  {runs runs' : List (List Char)}

/-- The text is spelled by the pieces, with these runs of digits from left to right. -/
inductive Spelled (anyCase : Bool) : List Piece → List Char → List (List Char) → Prop
  | nil : Spelled anyCase [] [] []
  | char {c a : Char} {ps : List Piece} {cs : List Char} {runs : List (List Char)}
      (ha : accepts anyCase c a = true) (h : Spelled anyCase ps cs runs) :
      Spelled anyCase (.char c :: ps) (a :: cs) runs
  | apostrophe {a : Char} {ps : List Piece} {cs : List Char} {runs : List (List Char)}
      (ha : isApostrophe a = true) (h : Spelled anyCase ps cs runs) :
      Spelled anyCase (.apostrophe :: ps) (a :: cs) runs
  | noApostrophe {ps : List Piece} {cs : List Char} {runs : List (List Char)}
      (h : Spelled anyCase ps cs runs) : Spelled anyCase (.apostrophe :: ps) cs runs
  | digits {captured : Bool} {run : List Char} {ps : List Piece} {cs : List Char}
      {runs : List (List Char)} (hne : run ≠ []) (hrun : ∀ c ∈ run, isDigit c = true)
      (h : Spelled anyCase ps cs runs) :
      Spelled anyCase (.digits captured :: ps) (run ++ cs) (run :: runs)

/-- Of the runs of digits those that the pieces ask for. -/
def captured : List Piece → List (List Char) → List (List Char)
  | .digits true :: ps, run :: runs => run :: captured ps runs
  | .digits false :: ps, _ :: runs => captured ps runs
  | .char _ :: ps, runs => captured ps runs
  | .apostrophe :: ps, runs => captured ps runs
  | _, _ => []

/-- **Which character may stand for one of a pattern**: this character or, where either case is
taken, any that is the same letter. -/
theorem accepts_iff {c a : Char} : accepts anyCase c a = true ↔
    c = a ∨ anyCase = true ∧ (c.toLower = a.toLower ∨
      (c ∈ Text.likeS ∧ a ∈ Text.likeS) ∨ (c ∈ Text.likeK ∧ a ∈ Text.likeK)) := by
  unfold accepts
  cases anyCase with
  | false => simp
  | true =>
    rw [if_pos rfl, Text.sameFolded_iff, and_iff_right rfl]
    exact (or_iff_right_of_imp fun h => Or.inl (congrArg Char.toLower h)).symm

/-! ## Spellings of longer texts -/

theorem Spelled.append {qs : List Piece} (h : Spelled anyCase ps cs runs)
    (h' : Spelled anyCase qs cs' runs') :
    Spelled anyCase (ps ++ qs) (cs ++ cs') (runs ++ runs') := by
  induction h with
  | nil => exact h'
  | char ha _ ih => exact .char ha ih
  | apostrophe ha _ ih => exact .apostrophe ha ih
  | noApostrophe _ ih => exact .noApostrophe ih
  | digits hne hrun _ ih =>
    rw [List.append_assoc]
    exact .digits hne hrun ih

/-- What is spelled by two rows of pieces is a text spelled by the one and then one by the other. -/
theorem Spelled.exists_append {qs : List Piece} : ∀ {ps : List Piece} {cs runs},
    Spelled anyCase (ps ++ qs) cs runs → ∃ cs₁ cs₂ runs₁ runs₂, cs = cs₁ ++ cs₂ ∧
      runs = runs₁ ++ runs₂ ∧ Spelled anyCase ps cs₁ runs₁ ∧ Spelled anyCase qs cs₂ runs₂
  | [], cs, runs, h => ⟨[], cs, [], runs, rfl, rfl, .nil, h⟩
  | p :: ps, cs, runs, h => by
    -- the first piece spells the start of the text, and the others the rest of it
    cases h with
    | char ha h =>
      obtain ⟨cs₁, cs₂, runs₁, runs₂, rfl, rfl, h₁, h₂⟩ := Spelled.exists_append h
      exact ⟨_ :: cs₁, cs₂, runs₁, runs₂, rfl, rfl, .char ha h₁, h₂⟩
    | apostrophe ha h =>
      obtain ⟨cs₁, cs₂, runs₁, runs₂, rfl, rfl, h₁, h₂⟩ := Spelled.exists_append h
      exact ⟨_ :: cs₁, cs₂, runs₁, runs₂, rfl, rfl, .apostrophe ha h₁, h₂⟩
    | noApostrophe h =>
      obtain ⟨cs₁, cs₂, runs₁, runs₂, rfl, rfl, h₁, h₂⟩ := Spelled.exists_append h
      exact ⟨cs₁, cs₂, runs₁, runs₂, rfl, rfl, .noApostrophe h₁, h₂⟩
    | digits hne hrun h =>
      obtain ⟨cs₁, cs₂, runs₁, runs₂, rfl, rfl, h₁, h₂⟩ := Spelled.exists_append h
      exact ⟨_ ++ cs₁, cs₂, _ :: runs₁, runs₂, (List.append_assoc _ _ _).symm, rfl,
        .digits hne hrun h₁, h₂⟩

/-- A phrase is spelled by as many characters, and none of them is read as a number. -/
theorem Spelled.of_phrase : ∀ {lead : List Char} {cs runs},
    Spelled anyCase (lead.map .char) cs runs → cs.length = lead.length ∧ runs = []
  | [], _, _, .nil => ⟨rfl, rfl⟩
  | _ :: _, _, _, .char _ h => by
    obtain ⟨hlen, hruns⟩ := Spelled.of_phrase h
    exact ⟨congrArg (· + 1) hlen, hruns⟩

/-- What is spelled in one case is spelled in either case. -/
theorem Spelled.inEitherCase (h : Spelled false ps cs runs) : Spelled true ps cs runs := by
  induction h with
  | nil => exact .nil
  | char ha _ ih =>
    obtain rfl := of_decide_eq_true ha
    exact .char (Text.sameFolded_self _) ih
  | apostrophe ha _ ih => exact .apostrophe ha ih
  | noApostrophe _ ih => exact .noApostrophe ih
  | digits hne hrun _ ih => exact .digits hne hrun ih

/-- Which numbers are asked for does not matter to what is spelled. -/
theorem spelled_asked_iff :
    ∀ {ps : List Piece} {cs runs}, Spelled anyCase (ps.map .asked) cs runs ↔
      Spelled anyCase ps cs runs
  | [], _, _ => Iff.rfl
  | .char _ :: _, _, _ => by
    constructor
    · rintro (_ | ⟨ha, h⟩)
      exact .char ha (spelled_asked_iff.mp h)
    · rintro (_ | ⟨ha, h⟩)
      exact .char ha (spelled_asked_iff.mpr h)
  | .apostrophe :: _, _, _ => by
    constructor
    · rintro (_ | _ | ⟨ha, h⟩ | h)
      · exact .apostrophe ha (spelled_asked_iff.mp h)
      · exact .noApostrophe (spelled_asked_iff.mp h)
    · rintro (_ | _ | ⟨ha, h⟩ | h)
      · exact .apostrophe ha (spelled_asked_iff.mpr h)
      · exact .noApostrophe (spelled_asked_iff.mpr h)
  | .digits _ :: _, _, _ => by
    constructor
    · rintro (_ | _ | _ | _ | ⟨hne, hrun, h⟩)
      exact .digits hne hrun (spelled_asked_iff.mp h)
    · rintro (_ | _ | _ | _ | ⟨hne, hrun, h⟩)
      exact .digits hne hrun (spelled_asked_iff.mpr h)

/-- Where all numbers are asked for, all runs of digits are. -/
theorem Spelled.captured_asked (h : Spelled anyCase ps cs runs) :
    captured (ps.map .asked) runs = runs := by
  induction h with
  | nil => rfl
  | char _ _ ih => exact ih
  | apostrophe _ _ ih => exact ih
  | noApostrophe _ ih => exact ih
  | digits _ _ _ ih => exact congrArg _ ih

/-! ## Patterns that leave no choice -/

/-- The pieces start with a character that none of a class can be taken for, in either case. -/
def startsOff (P : Char → Bool) : List Piece → Bool
  | .char c :: _ => !P c && !P (fold c)
  | _ => false

/-- Behind a run of digits nothing stands that can be taken for a digit, and behind the place for an
apostrophe nothing that can be taken for one. -/
def sharp : List Piece → Bool
  | [] => true
  | .char _ :: ps => sharp ps
  | .apostrophe :: ps => startsOff isApostrophe ps && sharp ps
  | .digits _ :: ps => (ps.isEmpty || startsOff isDigit ps) && sharp ps

/-- The last piece is a run of digits. -/
def endsInRun : List Piece → Bool
  | [] => false
  | .char _ :: ps => endsInRun ps
  | .apostrophe :: ps => endsInRun ps
  | .digits _ :: ps => ps.isEmpty || endsInRun ps

/-- No script has its digits among the capitals. -/
theorem digitZeros_apart : ∀ z ∈ Text.digitZeros, z + 10 ≤ 'A'.toNat ∨ 'Z'.toNat < z := by decide

theorem fold_of_isDigit {a : Char} (h : isDigit a = true) : fold a = a := by
  refine Text.fold_of_not_capital (fun ⟨hA, hZ⟩ => ?_) ?_ ?_
  · obtain ⟨z, hz, hrange⟩ := List.any_eq_true.mp h
    rw [Bool.and_eq_true, decide_eq_true_eq, decide_eq_true_eq] at hrange
    have hA : 'A'.toNat ≤ a.toNat := hA
    have hZ : a.toNat ≤ 'Z'.toNat := hZ
    rcases digitZeros_apart z hz with hlow | hhigh
    · omega
    · omega
  · rintro rfl
    exact absurd h (by decide)
  · rintro rfl
    exact absurd h (by decide)

theorem fold_of_isApostrophe {a : Char} (h : isApostrophe a = true) : fold a = a := by
  rcases Bool.or_eq_true_iff.mp h with h | h
  · obtain rfl := of_decide_eq_true h
    decide
  · obtain rfl := of_decide_eq_true h
    decide

/-- What is spelled by pieces that start off a class starts with no character of it. -/
theorem Spelled.exists_cons_of_startsOff {P : Char → Bool} (hP : ∀ a, P a = true → fold a = a)
    (h : Spelled anyCase ps cs runs) (hs : startsOff P ps = true) :
    ∃ a cs', cs = a :: cs' ∧ P a = false := by
  cases h with
  | @char c a _ cs _ ha _ =>
    refine ⟨a, cs, rfl, ?_⟩
    rw [startsOff, Bool.and_eq_true, Bool.not_eq_true', Bool.not_eq_true'] at hs
    by_contra hPa
    rw [Bool.not_eq_false] at hPa
    cases anyCase with
    | false =>
      obtain rfl : c = a := of_decide_eq_true ha
      exact Bool.false_ne_true (hs.1.symm.trans hPa)
    | true =>
      have hfold : fold c = fold a := of_decide_eq_true ha
      rw [hfold, hP a hPa] at hs
      exact Bool.false_ne_true (hs.2.symm.trans hPa)
  | _ => exact absurd hs (by simp [startsOff])

/-! ## What the matcher takes -/

/-- Which numbers are asked for does not matter to where the pieces match. -/
theorem matchPieces_eq_map_asked (anyCase : Bool) (ps : List Piece) (s : List Char) :
    matchPieces anyCase ps s = (matchPieces anyCase (ps.map .asked) s).map fun m =>
      { m with groups := captured ps m.groups } := by
  fun_induction matchPieces anyCase ps s with
  | case1 => rfl
  | case2 => rfl
  | case3 c ps a s ha ih =>
    simp only [List.map_cons, Piece.asked, matchPieces, ha, if_true, ih, Option.map_map]
    rfl
  | case4 c ps a s ha => simp [Piece.asked, matchPieces, ha]
  | case5 ps ih =>
    simp only [List.map_cons, Piece.asked, matchPieces, ih]
    rfl
  | case6 ps a s ha ih =>
    simp only [List.map_cons, Piece.asked, matchPieces, ha, if_true, ih, Option.map_map]
    rfl
  | case7 ps a s ha ih =>
    simp only [List.map_cons, Piece.asked, matchPieces, ha, ih]
    rfl
  | case8 captured ps s hrun => simp [Piece.asked, matchPieces, hrun]
  | case9 captured ps s d ds hrun ih =>
    simp only [List.map_cons, Piece.asked, matchPieces, hrun, ih, Option.map_map]
    cases captured <;> rfl

/-- **What the matcher takes is spelled by the pieces**, and its groups are the runs. -/
theorem spelled_of_matchPieces : ∀ {ps : List Piece} {s : List Char} {m : Match},
    matchPieces anyCase (ps.map .asked) s = some m →
      Spelled anyCase ps m.taken m.groups ∧ s = m.taken ++ m.rest
  | [], s, m, h => by
    obtain rfl := Option.some.inj h
    exact ⟨.nil, rfl⟩
  | .char c :: ps, [], m, h => absurd h (by simp [matchPieces, Piece.asked])
  | .char c :: ps, a :: s, m, h => by
    obtain ⟨ha, h⟩ := Option.ite_none_right_eq_some.mp h
    obtain ⟨m, hm, rfl⟩ := Option.map_eq_some_iff.mp h
    obtain ⟨hspelled, rfl⟩ := spelled_of_matchPieces hm
    exact ⟨.char ha hspelled, rfl⟩
  | .apostrophe :: ps, [], m, h => by
    have h : matchPieces anyCase (ps.map .asked) [] = some m := h
    obtain ⟨hspelled, heq⟩ := spelled_of_matchPieces h
    exact ⟨.noApostrophe hspelled, heq⟩
  | .apostrophe :: ps, a :: s, m, h => by
    simp only [List.map_cons, Piece.asked, matchPieces] at h
    split at h
    · rename_i ha
      obtain ⟨m, hm, rfl⟩ := Option.map_eq_some_iff.mp h
      obtain ⟨hspelled, rfl⟩ := spelled_of_matchPieces hm
      exact ⟨.apostrophe ha hspelled, rfl⟩
    · obtain ⟨hspelled, heq⟩ := spelled_of_matchPieces h
      exact ⟨.noApostrophe hspelled, heq⟩
  | .digits _ :: ps, s, m, h => by
    rw [List.map_cons, Piece.asked, matchPieces] at h
    split at h
    · exact absurd h (by simp)
    · rename_i d ds hrun
      obtain ⟨m, hm, rfl⟩ := Option.map_eq_some_iff.mp h
      obtain ⟨hspelled, heq⟩ := spelled_of_matchPieces hm
      have hdigits : ∀ c ∈ d :: ds, isDigit c = true :=
        hrun ▸ List.all_eq_true.mp List.all_takeWhile
      refine ⟨.digits (List.cons_ne_nil d ds) hdigits hspelled, ?_⟩
      show s = (d :: ds) ++ m.taken ++ m.rest
      rw [List.append_assoc, ← heq, ← hrun, List.takeWhile_append_dropWhile]

/-- A run of digits ends where something else follows. -/
theorem takeWhile_run_append {run rest : List Char} (hrun : ∀ c ∈ run, isDigit c = true)
    (hrest : ∀ c ∈ rest.head?, isDigit c = false) :
    (run ++ rest).takeWhile isDigit = run ∧ (run ++ rest).dropWhile isDigit = rest := by
  rw [List.takeWhile_append_of_pos hrun, List.dropWhile_append_of_pos hrun]
  cases rest with
  | nil => simp
  | cons c rest => simp [hrest c rfl]

/-- **Where no digit follows, the matcher takes all of a text that the pieces spell.** -/
theorem matchPieces_of_spelled (h : Spelled anyCase ps cs runs) (hs : sharp ps = true)
    (hrest : endsInRun ps = true → ∀ c ∈ rest.head?, isDigit c = false) :
    matchPieces anyCase (ps.map .asked) (cs ++ rest) = some ⟨cs, runs, rest⟩ := by
  induction h with
  | nil => rfl
  | char ha _ ih =>
    simp only [List.map_cons, Piece.asked, List.cons_append, matchPieces, ha, if_true, ih hs hrest]
    rfl
  | apostrophe ha _ ih =>
    rw [sharp, Bool.and_eq_true] at hs
    simp only [List.map_cons, Piece.asked, List.cons_append, matchPieces, ha, if_true,
      ih hs.2 hrest]
    rfl
  | noApostrophe h ih =>
    rw [sharp, Bool.and_eq_true] at hs
    -- what stands in the place of the apostrophe is none
    obtain ⟨a, cs', rfl, ha⟩ := h.exists_cons_of_startsOff (fun _ => fold_of_isApostrophe) hs.1
    simp only [List.map_cons, Piece.asked, List.cons_append, matchPieces, ha]
    exact ih hs.2 hrest
  | @digits _ run ps cs _ hne hrun h ih =>
    rw [sharp, Bool.and_eq_true] at hs
    have hstop : ∀ c ∈ (cs ++ rest).head?, isDigit c = false := by
      rcases Bool.or_eq_true_iff.mp hs.1 with hnil | hoff
      · obtain rfl := List.isEmpty_iff.mp hnil
        cases h
        exact hrest rfl
      · obtain ⟨a, cs', rfl, ha⟩ := h.exists_cons_of_startsOff (fun _ => fold_of_isDigit) hoff
        intro c hc
        obtain rfl : a = c := by simpa using hc
        exact ha
    obtain ⟨htake, hdrop⟩ := takeWhile_run_append hrun hstop
    have hm := ih hs.2 fun hend => hrest (by rw [endsInRun, hend, Bool.or_true])
    obtain ⟨d, ds, rfl⟩ := List.exists_cons_of_ne_nil hne
    rw [List.map_cons, Piece.asked, List.append_assoc, matchPieces, htake, hdrop, hm]
    rfl

/-- Pieces that do not end in a run of digits spell one start of a text at most. -/
theorem Spelled.eq_of_append_eq {rest' : List Char} (h : Spelled anyCase ps cs runs)
    (h' : Spelled anyCase ps cs' runs') (hs : sharp ps = true) (hend : endsInRun ps = false)
    (heq : cs ++ rest = cs' ++ rest') : cs = cs' ∧ runs = runs' := by
  have hend : endsInRun ps = true → False := fun h => Bool.false_ne_true (hend.symm.trans h)
  have hm : matchPieces anyCase (ps.map .asked) (cs ++ rest) = some ⟨cs, runs, rest⟩ :=
    matchPieces_of_spelled h hs fun h => (hend h).elim
  rw [heq, matchPieces_of_spelled h' hs fun h => (hend h).elim] at hm
  injection hm with hm
  injection hm with hcs hruns
  exact ⟨hcs.symm, hruns.symm⟩

/-- A text that ends in a run of digits may go on with further digits. -/
theorem Spelled.exists_longer (h : Spelled anyCase ps cs runs) (hend : endsInRun ps = true)
    {ds : List Char} (hds : ∀ c ∈ ds, isDigit c = true) :
    ∃ runs', Spelled anyCase ps (cs ++ ds) runs' ∧ List.Forall₂ (· <+: ·) runs runs' := by
  induction h with
  | nil => exact absurd hend (by simp [endsInRun])
  | char ha _ ih =>
    obtain ⟨runs', h', hruns⟩ := ih hend
    exact ⟨runs', .char ha h', hruns⟩
  | apostrophe ha _ ih =>
    obtain ⟨runs', h', hruns⟩ := ih hend
    exact ⟨runs', .apostrophe ha h', hruns⟩
  | noApostrophe _ ih =>
    obtain ⟨runs', h', hruns⟩ := ih hend
    exact ⟨runs', .noApostrophe h', hruns⟩
  | @digits captured run ps cs _ hne hrun h ih =>
    rcases Bool.or_eq_true_iff.mp hend with hnil | hend
    · obtain rfl := List.isEmpty_iff.mp hnil
      cases h
      refine ⟨[run ++ ds], ?_, .cons (List.prefix_append run ds) .nil⟩
      have hall : ∀ c ∈ run ++ ds, isDigit c = true :=
        fun c hc => (List.mem_append.mp hc).elim (hrun c) (hds c)
      have hlonger : Spelled anyCase [.digits captured] (run ++ ds ++ []) [run ++ ds] :=
        .digits (by simp [hne]) hall .nil
      simpa using hlonger
    · obtain ⟨runs', h', hruns⟩ := ih hend
      rw [List.append_assoc]
      exact ⟨run :: runs', .digits hne hrun h', .cons (List.prefix_refl run) hruns⟩

/-- **Wherever there is a spelling, the matcher takes one with runs at least as long.** -/
theorem exists_matchPieces_of_spelled (h : Spelled anyCase ps cs runs) (hs : sharp ps = true)
    (rest : List Char) : ∃ m, matchPieces anyCase (ps.map .asked) (cs ++ rest) = some m ∧
      cs <+: m.taken ∧ List.Forall₂ (· <+: ·) runs m.groups := by
  by_cases hend : endsInRun ps = true
  · -- the last run goes on as long as there are digits
    obtain ⟨runs', h', hruns⟩ := h.exists_longer hend
      (List.all_eq_true.mp (List.all_takeWhile (p := isDigit) (l := rest)))
    refine ⟨⟨cs ++ rest.takeWhile isDigit, runs', rest.dropWhile isDigit⟩, ?_,
      List.prefix_append cs _, hruns⟩
    have hrest : ∀ c ∈ (rest.dropWhile isDigit).head?, isDigit c = false := by
      intro c hc
      have hnot := List.head?_dropWhile_not isDigit rest
      rw [Option.mem_def.mp hc] at hnot
      simpa using hnot
    have hm := matchPieces_of_spelled h' hs fun _ => hrest
    rwa [List.append_assoc, List.takeWhile_append_dropWhile] at hm
  · exact ⟨_, matchPieces_of_spelled h hs fun hend' => absurd hend' hend, List.prefix_refl cs,
      List.forall₂_same.mpr fun run _ => List.prefix_refl run⟩

end Pattern

end CardText
