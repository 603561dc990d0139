import CardText.Document.Json
import CardText.Proofs.Json.Layout
import CardText.Proofs.Json.Strings
import CardText.Proofs.Text.Decimal
import CardText.Text.Character

/-!
# White space between the parts of a JSON text

A scan of a JSON text tells at every character whether it stands inside a string: a quote opens and
closes one, but inside a string the character behind a backslash does neither. Deleting the spaces
and line feeds that the scan finds outside of strings makes the compact text of every text, and the
compact text has no white space there at all.

Results:

* `tightens_stringText`: the scan of a written string ends behind its last quote and not before.
* **`tightens_laidOut`**: whatever the layout, what is left is the compact text.
* **`squeeze_render`**: so it is for the two texts of every document.
-/

namespace CardText.Json

/-! ## The scan -/

/-- Where a character of a JSON text stands. -/
inductive Place
  | outside
  | inside
  /-- inside a string and behind a backslash that escapes it -/
  | escaped
  deriving DecidableEq

namespace Place

/-- Where the next character stands. -/
def next : Place → Char → Place
  | outside, c => if c = '"' then inside else outside
  | inside, c => if c = '"' then outside else if c = '\\' then escaped else inside
  | escaped, _ => inside

/-- Where the character behind a text stands. -/
def after (p : Place) (s : List Char) : Place := s.foldl next p

/-- Every character of a text with its place. -/
def mark : Place → List Char → List (Place × Char)
  | _, [] => []
  | p, c :: s => (p, c) :: mark (p.next c) s

theorem after_append (p : Place) (s t : List Char) : p.after (s ++ t) = (p.after s).after t :=
  List.foldl_append

/-- Texts that end outside of strings do so together. -/
theorem after_outside_append {s t : List Char} (hs : outside.after s = outside)
    (ht : outside.after t = outside) : outside.after (s ++ t) = outside := by
  rw [after_append, hs, ht]

theorem mark_append : ∀ (p : Place) (s t : List Char),
    p.mark (s ++ t) = p.mark s ++ (p.after s).mark t
  | _, [], _ => rfl
  | p, c :: s, t => congrArg ((p, c) :: ·) (mark_append (p.next c) s t)

/-- Nothing is lost. -/
theorem map_snd_mark : ∀ (p : Place) (s : List Char), (p.mark s).map (·.2) = s
  | _, [] => rfl
  | p, c :: s => congrArg (c :: ·) (map_snd_mark (p.next c) s)

end Place

/-- Whether it is a space or a line feed outside of the strings. -/
def isFiller (e : Place × Char) : Bool := e.1 = .outside ∧ (e.2 = ' ' ∨ e.2 = '\n')

/-- The text without the spaces and line feeds outside of its strings. -/
def squeeze (s : List Char) : List Char :=
  ((Place.outside.mark s).filter fun e => !isFiller e).map (·.2)

/-- The characters of a text outside of its strings, the opening quotes among them. -/
def outsideStrings (s : List Char) : List Char :=
  ((Place.outside.mark s).filter fun e => e.1 = .outside).map (·.2)

theorem mem_outsideStrings_iff {s : List Char} {c : Char} :
    c ∈ outsideStrings s ↔ (Place.outside, c) ∈ Place.outside.mark s := by
  simp [outsideStrings]

/-- Without its white space outside of strings, which the second text has none of, the first text
is the second. Both end outside of strings. -/
structure Tightens (s t : List Char) : Prop where
  ends : Place.outside.after s = .outside
  ends' : Place.outside.after t = .outside
  squeezed : squeeze s = t
  tight : ∀ c ∈ outsideStrings t, Text.isBlank c = false

theorem squeeze_append {s : List Char} (h : Place.outside.after s = .outside) (t : List Char) :
    squeeze (s ++ t) = squeeze s ++ squeeze t := by
  simp only [squeeze, Place.mark_append, h, List.filter_append, List.map_append]

theorem outsideStrings_append {s : List Char} (h : Place.outside.after s = .outside)
    (t : List Char) : outsideStrings (s ++ t) = outsideStrings s ++ outsideStrings t := by
  simp only [outsideStrings, Place.mark_append, h, List.filter_append, List.map_append]

namespace Tightens

/-- Texts that end outside of strings may be put together. -/
theorem append {s s' t t' : List Char} (h : Tightens s t) (h' : Tightens s' t') :
    Tightens (s ++ s') (t ++ t') where
  ends := Place.after_outside_append h.ends h'.ends
  ends' := Place.after_outside_append h.ends' h'.ends'
  squeezed := by rw [squeeze_append h.ends, h.squeezed, h'.squeezed]
  tight := by
    rw [outsideStrings_append h.ends']
    exact fun c hc => (List.mem_append.mp hc).elim (h.tight c) (h'.tight c)

/-- A text without white space outside of strings stays as it is. -/
theorem self {s : List Char} (ends : Place.outside.after s = .outside)
    (tight : ∀ c ∈ outsideStrings s, Text.isBlank c = false) : Tightens s s where
  ends := ends
  ends' := ends
  tight := tight
  squeezed := by
    have hall : ∀ e ∈ Place.outside.mark s, (!isFiller e) = true := by
      rintro ⟨p, c⟩ he
      rw [Bool.not_eq_true', ← Bool.not_eq_true, isFiller, decide_eq_true_eq]
      rintro ⟨rfl, hc⟩
      have hblank := tight c (mem_outsideStrings_iff.mpr he)
      rcases hc with rfl | rfl <;> exact absurd hblank (by decide)
    rw [squeeze, List.filter_eq_self.mpr hall, Place.map_snd_mark]

end Tightens

/-! ## What texts are made of -/

theorem after_outside_of_no_quote : ∀ {s : List Char}, (∀ c ∈ s, c ≠ '"') →
    Place.outside.after s = .outside
  | [], _ => rfl
  | c :: s, h => by
    obtain ⟨hc, hs⟩ := List.forall_mem_cons.mp h
    show (Place.outside.next c).after s = _
    rw [Place.next, if_neg hc, after_outside_of_no_quote hs]

theorem mark_outside_of_no_quote : ∀ {s : List Char}, (∀ c ∈ s, c ≠ '"') →
    Place.outside.mark s = s.map fun c => (.outside, c)
  | [], _ => rfl
  | c :: s, h => by
    obtain ⟨hc, hs⟩ := List.forall_mem_cons.mp h
    rw [Place.mark, Place.next, if_neg hc, mark_outside_of_no_quote hs, List.map_cons]

/-- White space between the parts goes. -/
theorem tightens_blank {w : List Char} (h : ∀ c ∈ w, c = ' ' ∨ c = '\n') : Tightens w [] := by
  have hquote : ∀ c ∈ w, c ≠ '"' := by
    rintro c hc rfl
    exact absurd (h '"' hc) (by decide)
  refine ⟨after_outside_of_no_quote hquote, rfl, ?_, fun _ hc => absurd hc List.not_mem_nil⟩
  rw [squeeze, mark_outside_of_no_quote hquote, List.map_eq_nil_iff, List.filter_eq_nil_iff]
  intro e he
  obtain ⟨c, hc, rfl⟩ := List.mem_map.mp he
  have hfiller : isFiller (.outside, c) = true := decide_eq_true ⟨rfl, h c hc⟩
  rw [hfiller]
  decide

/-- Whether it is neither a quote nor white space. -/
def isPlain (c : Char) : Bool := c ≠ '"' && !Text.isBlank c

theorem isPlain_iff {c : Char} : isPlain c = true ↔ c ≠ '"' ∧ Text.isBlank c = false := by
  rw [isPlain, Bool.and_eq_true, decide_eq_true_eq, Bool.not_eq_true']

/-- Marks, words and numbers stay. -/
theorem tightens_plain {s : List Char} (h : s.all isPlain = true) : Tightens s s := by
  have hplain : ∀ c ∈ s, c ≠ '"' ∧ Text.isBlank c = false := fun c hc =>
    isPlain_iff.mp (List.all_eq_true.mp h c hc)
  have hquote : ∀ c ∈ s, c ≠ '"' := fun c hc => (hplain c hc).1
  refine .self (after_outside_of_no_quote hquote) fun c hc => ?_
  rw [mem_outsideStrings_iff, mark_outside_of_no_quote hquote] at hc
  obtain ⟨d, hd, heq⟩ := List.mem_map.mp hc
  obtain ⟨-, rfl⟩ := Prod.mk.inj heq
  exact (hplain d hd).2

theorem tightens_signedDecimal (n : Int) :
    Tightens (Text.signedDecimal n) (Text.signedDecimal n) := by
  have hdigit : ∀ d < 10, isPlain (Nat.digitChar d) = true := by decide
  have hdecimal : ∀ m : Nat, (Text.decimal m).all isPlain = true := by
    intro m
    refine List.all_eq_true.mpr fun c hc => ?_
    obtain ⟨d, hd, rfl⟩ := Text.exists_digitChar_of_mem_decimal hc
    exact hdigit d hd
  cases n with
  | ofNat m => exact tightens_plain (hdecimal m)
  | negSucc m =>
    have hsign : isPlain '-' = true := by decide
    exact tightens_plain (List.all_cons.trans (by rw [hsign, hdecimal (m + 1), Bool.and_true]))

theorem tightens_boolText (b : Bool) : Tightens (boolText b) (boolText b) :=
  tightens_plain (by cases b <;> decide)

/-! ## Strings -/

/-- A text that stays inside of a string. -/
structure StaysInside (s : List Char) : Prop where
  ends : Place.inside.after s = .inside
  inside : ∀ e ∈ Place.inside.mark s, e.1 ≠ .outside

theorem StaysInside.append {s t : List Char} (h : StaysInside s) (h' : StaysInside t) :
    StaysInside (s ++ t) where
  ends := by rw [Place.after_append, h.ends, h'.ends]
  inside := by
    rw [Place.mark_append, h.ends]
    exact fun e he => (List.mem_append.mp he).elim (h.inside e) (h'.inside e)

/-- No character that is written leaves the string that it stands in. -/
theorem staysInside_escapeChar (c : Char) : StaysInside (escapeChar c) := by
  obtain ⟨-, hquote, hbackslash, heq⟩ | ⟨e, -, heq⟩ | ⟨hc, heq⟩ := escapeChar_cases c
  · rw [heq]
    refine ⟨?_, ?_⟩
    · show Place.inside.next c = _
      rw [Place.next, if_neg hquote, if_neg hbackslash]
    · simp [Place.mark]
  · rw [heq]
    exact ⟨rfl, by simp [Place.mark, Place.next]⟩
  · have hall : ∀ n < 0x20, Place.inside.after ['\\', 'u', '0', '0', Nat.digitChar (n / 16),
        Nat.digitChar (n % 16)] = .inside ∧ ∀ e ∈ Place.inside.mark ['\\', 'u', '0', '0',
          Nat.digitChar (n / 16), Nat.digitChar (n % 16)], e.1 ≠ .outside := by
      decide
    rw [heq]
    exact ⟨(hall c.toNat hc).1, (hall c.toNat hc).2⟩

theorem tightens_stringText (s : String) : Tightens (stringText s) (stringText s) := by
  have hall : ∀ cs : List Char, StaysInside (cs.flatMap escapeChar) := by
    intro cs
    induction cs with
    | nil => exact ⟨rfl, fun _ h => absurd h List.not_mem_nil⟩
    | cons c cs ih =>
      rw [List.flatMap_cons]
      exact (staysInside_escapeChar c).append ih
  have hs := hall s.toList
  refine .self ?_ fun c hc => ?_
  · show Place.inside.after (s.toList.flatMap escapeChar ++ ['"']) = _
    rw [Place.after_append, hs.ends]
    rfl
  · rw [mem_outsideStrings_iff] at hc
    have hmark : Place.outside.mark (stringText s) =
        (.outside, '"') :: (Place.inside.mark (s.toList.flatMap escapeChar) ++
          [(.inside, '"')]) := by
      show (Place.outside, '"') :: Place.inside.mark (s.toList.flatMap escapeChar ++ ['"']) = _
      rw [Place.mark_append, hs.ends]
      rfl
    rw [hmark] at hc
    rcases List.mem_cons.mp hc with heq | hc
    · obtain ⟨-, rfl⟩ := Prod.mk.inj heq
      decide
    · rcases List.mem_append.mp hc with hc | hc
      · exact absurd rfl (hs.inside _ hc)
      · simp at hc

/-! ## Values -/

theorem tightens_field {l : Layout} (hl : l.Blank) (k : String) {s t : List Char}
    (h : Tightens s t) :
    Tightens (stringText k ++ ':' :: l.gap ++ s) (stringText k ++ ':' :: t) := by
  have hcolon : Tightens [':'] [':'] := tightens_plain (by decide)
  have hfield := (((tightens_stringText k).append hcolon).append (tightens_blank hl.gap)).append h
  simpa only [List.cons_append, List.nil_append, List.append_nil, List.append_assoc] using hfield

mutual

/-- **What is left of a text is the compact text.** -/
theorem tightens_laidOut {l : Layout} (hl : l.Blank) : ∀ (depth : Nat) (v : Json),
    Tightens (laidOut l depth v) (compact v)
  | _, .null => by
    rw [laidOut, compact]
    exact tightens_plain (by decide)
  | _, .bool b => by
    rw [laidOut, compact]
    exact tightens_boolText b
  | _, .int n => by
    rw [laidOut, compact]
    exact tightens_signedDecimal n
  | _, .str s => by
    rw [laidOut, compact]
    exact tightens_stringText s
  | _, .arr [] => by
    rw [laidOut, compact]
    exact tightens_plain (by decide)
  | depth, .arr (v :: vs) => by
    have hopen : Tightens ['['] ['['] := tightens_plain (by decide)
    have hclose : Tightens [']'] [']'] := tightens_plain (by decide)
    have h := ((((hopen.append (tightens_blank (hl.line (depth + 1)))).append
      (tightens_laidOut hl (depth + 1) v)).append
        (tightens_laidOutItems hl (depth + 1) vs)).append
          (tightens_blank (hl.line depth))).append hclose
    rw [laidOut, compact]
    simpa only [List.cons_append, List.nil_append, List.append_nil] using h
  | _, .obj [] => by
    rw [laidOut, compact]
    exact tightens_plain (by decide)
  | depth, .obj ((k, v) :: fs) => by
    have hopen : Tightens ['{'] ['{'] := tightens_plain (by decide)
    have hclose : Tightens ['}'] ['}'] := tightens_plain (by decide)
    have h := ((((hopen.append (tightens_blank (hl.line (depth + 1)))).append
      (tightens_field hl k (tightens_laidOut hl (depth + 1) v))).append
        (tightens_laidOutFields hl (depth + 1) fs)).append
          (tightens_blank (hl.line depth))).append hclose
    rw [laidOut, compact]
    simpa only [List.cons_append, List.nil_append, List.append_nil, List.append_assoc] using h

theorem tightens_laidOutItems {l : Layout} (hl : l.Blank) : ∀ (depth : Nat) (vs : List Json),
    Tightens (laidOutItems l depth vs) (compactItems vs)
  | _, [] => by
    rw [laidOutItems, compactItems]
    exact tightens_plain (by decide)
  | depth, v :: vs => by
    have hcomma : Tightens [','] [','] := tightens_plain (by decide)
    have h := ((hcomma.append (tightens_blank (hl.line depth))).append
      (tightens_laidOut hl depth v)).append (tightens_laidOutItems hl depth vs)
    rw [laidOutItems, compactItems]
    simpa only [List.cons_append, List.nil_append] using h

theorem tightens_laidOutFields {l : Layout} (hl : l.Blank) :
    ∀ (depth : Nat) (fs : List (String × Json)),
      Tightens (laidOutFields l depth fs) (compactFields fs)
  | _, [] => by
    rw [laidOutFields, compactFields]
    exact tightens_plain (by decide)
  | depth, (k, v) :: fs => by
    have hcomma : Tightens [','] [','] := tightens_plain (by decide)
    have h := ((hcomma.append (tightens_blank (hl.line depth))).append
      (tightens_field hl k (tightens_laidOut hl depth v))).append
        (tightens_laidOutFields hl depth fs)
    rw [laidOutFields, compactFields]
    simpa only [List.cons_append, List.nil_append, List.append_assoc] using h

end

/-- Deleting the white space from what is written gives the compact text. -/
theorem squeeze_toList_render (pretty : Bool) (v : Json) :
    squeeze (v.render pretty).toList = (v.render false).toList := by
  have h := tightens_laidOut (Layout.blank_ofPretty pretty) 0 v
  rw [render_eq_laidOut, h.squeezed]
  exact String.toList_ofList.symm

end CardText.Json

namespace CardText.Document

/-- **Both texts of a document are one text but for white space.** The indented text without the
spaces and line feeds outside of its strings is the compact text, and that has no white space of
any script there. -/
theorem squeeze_render (d : Document) :
    String.ofList (Json.squeeze (d.render true).toList) = d.render false ∧
      ∀ c ∈ Json.outsideStrings (d.render false).toList, Text.isBlank c = false := by
  constructor
  · rw [render, Json.squeeze_toList_render, String.ofList_toList]
    rfl
  · have h := Json.tightens_laidOut Json.Layout.blank_tight 0 d.toJson
    have htext : (d.render false).toList = d.toJson.compact := String.toList_ofList
    rw [htext]
    exact h.tight

end CardText.Document
