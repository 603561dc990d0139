import CardText.Json
import CardText.Settings.Reader
import Mathlib.Data.List.Nodup
import Mathlib.Data.List.TakeWhile

/-!
# Settings that are written read back

A settings file may be written entry by entry, each on a line of its own with its value behind an
equals sign. Such a file is read as these entries by `load`, whatever its texts hold. It is a file
of settings exactly if it names no key but `pretty` and `output`, none of them twice, and gives them
a truth value and a text; a key that it leaves out has its default.

Results:

* `ofEntries?_eq_some_iff`: which entries are settings and what they ask for.
* `parse?_eq_some_iff`: which files are settings.
* `readInLine_written`, `readValue_written`: a written text and a written value read back.
* `readEntries_written`: a written file is read entry by entry.
* **`parse?_written_iff`**: which written files are settings.
* **`parse?_written_entries`**: all settings can be written.
-/

namespace CardText.Settings

/-! ## What entries ask for -/

/-- The entry is a setting: its key is known and its value is of the right type. -/
inductive IsSetting : String × SettingValue → Prop
  | pretty (b : Bool) : IsSetting ("pretty", .bool b)
  | output (path : String) : IsSetting ("output", .text path)

/-- The entries ask for these settings and for nothing else. -/
structure AskFor (entries : List (String × SettingValue)) (s : Settings) : Prop where
  once : (entries.map Prod.fst).Nodup
  known : ∀ e ∈ entries, IsSetting e
  pretty_iff : s.pretty = true ↔ ("pretty", .bool true) ∈ entries
  output_iff : ∀ path, s.output = some path ↔ ("output", .text path) ∈ entries

theorem isSetting_iff {s : Settings} {e : String × SettingValue} :
    IsSetting e ↔ (s.withSetting? e).isSome = true := by
  constructor
  · rintro (_ | _) <;> rfl
  · intro h
    unfold withSetting? at h
    split at h
    · exact .pretty _
    · exact .output _
    · cases h

/-- Entries ask for one thing only. -/
theorem AskFor.unique {entries : List (String × SettingValue)} {s s' : Settings}
    (h : AskFor entries s) (h' : AskFor entries s') : s = s' := by
  obtain ⟨pretty, output⟩ := s
  obtain ⟨pretty', output'⟩ := s'
  have hpretty : pretty = pretty' := Bool.eq_iff_iff.mpr (h.pretty_iff.trans h'.pretty_iff.symm)
  have houtput : output = output' :=
    Option.ext fun path => (h.output_iff path).trans (h'.output_iff path).symm
  rw [hpretty, houtput]

/-- Entries that are settings are taken one after the other. -/
theorem exists_foldlM_of_isSetting {entries : List (String × SettingValue)}
    (h : ∀ e ∈ entries, IsSetting e) (s : Settings) :
    ∃ s', entries.foldlM withSetting? s = some s' := by
  induction entries generalizing s with
  | nil => exact ⟨s, rfl⟩
  | cons e entries ih =>
    obtain ⟨he, h⟩ := List.forall_mem_cons.mp h
    obtain ⟨s₁, hs₁⟩ := Option.isSome_iff_exists.mp (isSetting_iff.mp he)
    obtain ⟨s', hs'⟩ := ih h s₁
    refine ⟨s', ?_⟩
    rw [List.foldlM_cons, hs₁]
    exact hs'

/-- What is asked for in the end is what an entry asks for, or what was asked for before if no entry
has the key. -/
theorem foldlM_withSetting? {entries : List (String × SettingValue)} {s s' : Settings}
    (hnodup : (entries.map Prod.fst).Nodup) (h : entries.foldlM withSetting? s = some s') :
    (∀ e ∈ entries, IsSetting e) ∧
      (s'.pretty = true ↔ ("pretty", .bool true) ∈ entries ∨
        "pretty" ∉ entries.map Prod.fst ∧ s.pretty = true) ∧
      ∀ path, s'.output = some path ↔ ("output", .text path) ∈ entries ∨
        "output" ∉ entries.map Prod.fst ∧ s.output = some path := by
  induction entries generalizing s with
  | nil =>
    obtain rfl := Option.some.inj h
    simp
  | cons e entries ih =>
    rw [List.foldlM_cons] at h
    obtain ⟨s₁, hs₁, h⟩ := Option.bind_eq_some_iff.mp h
    rw [List.map_cons, List.nodup_cons] at hnodup
    obtain ⟨hknown, hpretty, houtput⟩ := ih hnodup.2 h
    have he : IsSetting e := isSetting_iff.mpr (by rw [hs₁]; rfl)
    refine ⟨List.forall_mem_cons.mpr ⟨he, hknown⟩, ?_, fun path => ?_⟩
    · rw [hpretty]
      cases he with
      | pretty b =>
        obtain rfl := Option.some.inj hs₁
        have hkey : "pretty" ∉ entries.map Prod.fst := hnodup.1
        cases b <;> simp [hkey]
      | output path =>
        obtain rfl := Option.some.inj hs₁
        simp
    · rw [houtput]
      cases he with
      | pretty b =>
        obtain rfl := Option.some.inj hs₁
        simp
      | output path' =>
        obtain rfl := Option.some.inj hs₁
        have hkey : "output" ∉ entries.map Prod.fst := hnodup.1
        simp [hkey, eq_comm, or_comm]

/-- **Which entries are settings** and what they ask for. -/
theorem ofEntries?_eq_some_iff {entries : List (String × SettingValue)} {s : Settings} :
    ofEntries? entries = some s ↔ AskFor entries s := by
  have hasks : ∀ {s : Settings}, (entries.map Prod.fst).Nodup →
      entries.foldlM withSetting? {} = some s → AskFor entries s := by
    intro s hnodup h
    obtain ⟨hknown, hpretty, houtput⟩ := foldlM_withSetting? hnodup h
    exact ⟨hnodup, hknown, by simpa using hpretty, fun path => by simpa using houtput path⟩
  unfold ofEntries?
  split
  · rename_i hnodup
    refine ⟨hasks hnodup, fun h => ?_⟩
    obtain ⟨s', hs'⟩ := exists_foldlM_of_isSetting h.known {}
    rw [hs', h.unique (hasks hnodup hs')]
  · rename_i hnodup
    exact ⟨fun h => (Option.some_ne_none _ h.symm).elim, fun h => absurd h.once hnodup⟩

/-- **A file holds settings** if it can be read and its entries ask for them. -/
theorem parse?_eq_some_iff {text : String} {s : Settings} :
    parse? text = some s ↔
      ∃ entries, readEntries (unifyLineEnds (dropByteOrderMark text.toList)) = some entries ∧
        AskFor entries s := by
  unfold parse?
  rw [Option.bind_eq_some_iff]
  simp only [ofEntries?_eq_some_iff]

/-! ## Writing a file -/

/-- A character as it may stand between quotes in a settings file. -/
def writtenChar (c : Char) : List Char :=
  if c = '"' ∨ c = '\\' then ['\\', c]
  else if isPlain c then [c]
  else Json.controlEscape c

/-- A value as it may be written. -/
def writtenValue : SettingValue → List Char
  | .bool b => Json.boolText b
  | .text s => '"' :: s.toList.flatMap writtenChar ++ ['"']

/-- An entry as it may be written, with the end of its line. -/
def writtenEntry (e : String × SettingValue) : List Char :=
  e.1.toList ++ ' ' :: '=' :: ' ' :: writtenValue e.2 ++ ['\n']

/-- A file with these entries, one in a line. -/
def written (entries : List (String × SettingValue)) : String :=
  String.ofList (entries.flatMap writtenEntry)

/-- The key can be written without quotes. -/
def IsBare (key : String) : Prop := key ≠ "" ∧ ∀ c ∈ key.toList, isBareKey c = true

instance (key : String) : Decidable (IsBare key) :=
  @instDecidableAnd _ _ _ (List.decidableBAll _ key.toList)

theorem toNat_lt_of_not_isPlain {c : Char} (h : isPlain c = false) : c.toNat < 0x80 := by
  unfold isPlain at h
  simp only [Bool.or_eq_false_iff, Bool.and_eq_false_iff, decide_eq_false_iff_not] at h
  omega

/-- The number of a character that is not plain tells it. -/
theorem readEscape_controlEscape {c : Char} (h : isPlain c = false) (rest : List Char) :
    readEscape ((Json.controlEscape c).tail ++ rest) = some (c, rest) := by
  have hdigits : ∀ n < 0x80, (Text.hexFrom? 0 ['0', '0', Nat.digitChar (n / 16),
      Nat.digitChar (n % 16)]).bind ofCodePoint? = some (Char.ofNat n) := by decide
  show readCodePoint 4 (_ :: _ :: _ :: _ :: rest) = _
  unfold readCodePoint
  rw [if_neg (by simp)]
  show ((Text.hexFrom? 0 _).bind ofCodePoint?).map _ = _
  rw [List.take_succ_cons, List.take_succ_cons, List.take_succ_cons, List.take_succ_cons,
    List.take_zero, hdigits _ (toNat_lt_of_not_isPlain h), Char.ofNat_toNat]
  rfl

theorem readInLine_plain {c : Char} (hmark : c ≠ '"') (hescape : c ≠ '\\')
    (hplain : isPlain c = true) (rest : List Char) :
    readInLine '"' (c :: rest) = consRead c (readInLine '"' rest) := by
  rw [readInLine, if_neg hmark, if_neg fun h => hescape h.1, if_pos hplain]

theorem readInLine_escape {s rest : List Char} {c : Char}
    (h : readEscape s = some (c, rest)) :
    readInLine '"' ('\\' :: s) = consRead c (readInLine '"' rest) := by
  rw [readInLine, if_neg (by decide), if_pos ⟨rfl, rfl⟩]
  split
  · rename_i d r' heq
    obtain ⟨rfl, rfl⟩ := Prod.mk.inj (Option.some.inj (h.symm.trans heq))
    rfl
  · rename_i heq
    exact absurd (h.symm.trans heq) (Option.some_ne_none _)

/-- A written character reads back. -/
theorem readInLine_writtenChar (c : Char) (rest : List Char) :
    readInLine '"' (writtenChar c ++ rest) = consRead c (readInLine '"' rest) := by
  unfold writtenChar
  split
  · rename_i hc
    refine readInLine_escape (s := c :: rest) ?_
    rcases hc with rfl | rfl <;> rfl
  · rename_i hc
    obtain ⟨hmark, hescape⟩ := not_or.mp hc
    split
    · rename_i hplain
      exact readInLine_plain hmark hescape hplain rest
    · rename_i hplain
      exact readInLine_escape (readEscape_controlEscape (Bool.eq_false_iff.mpr hplain) rest)

/-- **A written text reads back.** -/
theorem readInLine_written (cs rest : List Char) :
    readInLine '"' (cs.flatMap writtenChar ++ '"' :: rest) = some (cs, rest) := by
  induction cs with
  | nil =>
    rw [List.flatMap_nil, List.nil_append, readInLine, if_pos rfl]
  | cons c cs ih =>
    rw [List.flatMap_cons, List.append_assoc, readInLine_writtenChar, ih]
    rfl

/-- A written text does not start like one of several lines. -/
theorem countMarks_written (cs : List Char) {rest : List Char} (h : rest.head? ≠ some '"') :
    countMarks '"' (cs.flatMap writtenChar ++ '"' :: rest) < 2 := by
  unfold countMarks
  cases cs with
  | nil =>
    cases rest with
    | nil => decide
    | cons c rest =>
      have hc : c ≠ '"' := fun hc => h (congrArg some hc)
      simp [hc]
  | cons c cs =>
    unfold writtenChar
    rw [List.flatMap_cons, List.append_assoc]
    split
    · simp
    · rename_i hc
      obtain ⟨hmark, -⟩ := not_or.mp hc
      split
      · simp [hmark]
      · simp [Json.controlEscape]

/-- **A written value reads back** in front of the end of its line. -/
theorem readValue_written (v : SettingValue) (rest : List Char) :
    readValue (writtenValue v ++ '\n' :: rest) = some (v, '\n' :: rest) := by
  cases v with
  | bool b => cases b <;> rfl
  | text s =>
    have hstring : readString (writtenValue (.text s) ++ '\n' :: rest) =
        some (s.toList, '\n' :: rest) := by
      show readString ('"' :: (s.toList.flatMap writtenChar ++ ['"'] ++ '\n' :: rest)) = _
      rw [List.append_assoc, List.singleton_append, readString, if_neg (by simp),
        if_pos (countMarks_written _ (by simp)), readInLine_written]
    have htrue : behind? "true" (writtenValue (.text s) ++ '\n' :: rest) = none := rfl
    have hfalse : behind? "false" (writtenValue (.text s) ++ '\n' :: rest) = none := rfl
    rw [readValue, htrue, hfalse, hstring]
    simp only [Option.map_some, String.ofList_toList]

/-- A bare key has a first character, and no character of a bare key is one that is not bare. -/
theorem IsBare.ne_of_mem {key : String} (h : IsBare key) {c d : Char} (hc : c ∈ key.toList)
    (hd : isBareKey d = false) : c ≠ d := by
  rintro rfl
  exact Bool.false_ne_true (hd.symm.trans (h.2 c hc))

theorem IsBare.exists_cons {key : String} (h : IsBare key) : ∃ c cs, key.toList = c :: cs :=
  List.exists_cons_of_ne_nil fun hnil => h.1 (String.toList_eq_nil_iff.mp hnil)

/-- A bare key is read up to the blank behind it. -/
theorem readKey_written {key : String} (h : IsBare key) (rest : List Char) :
    readKey (key.toList ++ ' ' :: rest) = some (key.toList, ' ' :: rest) := by
  have hblank : ¬ isBareKey ' ' = true := by decide
  have htake : (key.toList ++ ' ' :: rest).takeWhile isBareKey = key.toList := by
    rw [List.takeWhile_append_of_pos h.2, List.takeWhile_cons_of_neg hblank, List.append_nil]
  have hdrop : (key.toList ++ ' ' :: rest).dropWhile isBareKey = ' ' :: rest := by
    rw [List.dropWhile_append_of_pos h.2, List.dropWhile_cons_of_neg hblank]
  obtain ⟨c, cs, hcs⟩ := h.exists_cons
  have hmem : c ∈ key.toList := by
    rw [hcs]
    exact List.mem_cons_self
  unfold readKey
  split
  · rename_i heq
    rw [hcs] at heq
    exact absurd (List.cons.inj heq).1 (h.ne_of_mem hmem (by decide))
  · rename_i heq
    rw [hcs] at heq
    exact absurd (List.cons.inj heq).1 (h.ne_of_mem hmem (by decide))
  · rw [htake, hdrop, hcs]

/-- **A written entry reads back.** -/
theorem readEntry_written {e : String × SettingValue} (h : IsBare e.1) (rest : List Char) :
    readEntry (writtenEntry e ++ rest) = some (e, rest) := by
  have hform : writtenEntry e ++ rest =
      e.1.toList ++ ' ' :: '=' :: ' ' :: (writtenValue e.2 ++ '\n' :: rest) := by
    simp only [writtenEntry, List.append_assoc, List.cons_append, List.nil_append]
  have hvalue : (' ' :: (writtenValue e.2 ++ '\n' :: rest)).dropWhile isBlank =
      writtenValue e.2 ++ '\n' :: rest := by
    rw [List.dropWhile_cons_of_pos (by decide)]
    cases e.2 with
    | bool b => cases b <;> rfl
    | text s => rfl
  have hsign : behind? "=" ((' ' :: '=' :: ' ' :: (writtenValue e.2 ++ '\n' :: rest)).dropWhile
      isBlank) = some (' ' :: (writtenValue e.2 ++ '\n' :: rest)) := rfl
  have hend : readLineEnd ('\n' :: rest) = some rest := rfl
  rw [hform, readEntry, readKey_written h]
  simp only [Option.bind_eq_bind, Option.bind_some, hsign, hvalue, readValue_written, hend,
    Option.pure_def, String.ofList_toList]

/-- A line that starts like an entry is read as one. -/
theorem readEntries_of_readEntry {c : Char} {r rest : List Char} {e : String × SettingValue}
    (hblank : isBlank c = false) (hend : ¬ (c = '\n' ∨ c = '#'))
    (h : readEntry (c :: r) = some (e, rest)) :
    readEntries (c :: r) = (readEntries rest).map (e :: ·) := by
  have hdrop : (c :: r).dropWhile isBlank = c :: r :=
    List.dropWhile_cons_of_neg (by rw [hblank]; exact Bool.false_ne_true)
  rw [readEntries]
  split
  · rename_i hnil
    exact absurd (hdrop.symm.trans hnil) (List.cons_ne_nil _ _)
  · rename_i c' r' hcons
    obtain ⟨rfl, rfl⟩ := List.cons.inj (hdrop.symm.trans hcons)
    rw [if_neg hend]
    split
    · rename_i heq
      obtain ⟨rfl, rfl⟩ := Prod.mk.inj (Option.some.inj (h.symm.trans heq))
      rfl
    · rename_i heq
      exact absurd (h.symm.trans heq) (Option.some_ne_none _)

/-- **A written file is read entry by entry.** -/
theorem readEntries_written {entries : List (String × SettingValue)}
    (h : ∀ e ∈ entries, IsBare e.1) :
    readEntries (entries.flatMap writtenEntry) = some entries := by
  induction entries with
  | nil =>
    rw [List.flatMap_nil, readEntries]
    rfl
  | cons e entries ih =>
    obtain ⟨hkey, h⟩ := List.forall_mem_cons.mp h
    obtain ⟨c, cs, hcs⟩ := hkey.exists_cons
    have hne : ∀ {d}, isBareKey d = false → c ≠ d := hkey.ne_of_mem (by simp [hcs])
    have hread := readEntry_written hkey (entries.flatMap writtenEntry)
    obtain ⟨r, hr⟩ : ∃ r, writtenEntry e ++ entries.flatMap writtenEntry = c :: r := by
      unfold writtenEntry
      rw [hcs]
      exact ⟨_, rfl⟩
    have hblank : isBlank c = false := by
      unfold isBlank
      simp [hne (d := ' ') (by decide), hne (d := '\t') (by decide)]
    rw [hr] at hread
    rw [List.flatMap_cons, hr, readEntries_of_readEntry hblank
      (not_or.mpr ⟨hne (by decide), hne (by decide)⟩) hread, ih h, Option.map_some]

/-! ## Files -/

theorem unifyLineEnds_of_not_mem {s : List Char} (h : '\r' ∉ s) : unifyLineEnds s = s := by
  fun_induction unifyLineEnds s with
  | case1 => exact absurd List.mem_cons_self h
  | case2 c s _ ih => rw [ih fun hs => h (List.mem_cons_of_mem _ hs)]
  | case3 => rfl

/-- A carriage return is written by its number. -/
theorem not_mem_writtenChar (c : Char) : '\r' ∉ writtenChar c := by
  have hcontrol : ∀ n < 0x80, '\r' ∉ ['\\', 'u', '0', '0', Nat.digitChar (n / 16),
      Nat.digitChar (n % 16)] := by decide
  unfold writtenChar
  split
  · rename_i hc
    rcases hc with rfl | rfl <;> decide
  · split
    · rename_i hplain
      rw [List.mem_singleton]
      rintro rfl
      exact absurd hplain (by decide)
    · rename_i hplain
      exact hcontrol _ (toNat_lt_of_not_isPlain (Bool.eq_false_iff.mpr hplain))

theorem not_mem_writtenEntry {e : String × SettingValue} (h : IsBare e.1) :
    '\r' ∉ writtenEntry e := by
  have hkey : '\r' ∉ e.1.toList := fun hmem => h.ne_of_mem hmem (by decide) rfl
  have hvalue : '\r' ∉ writtenValue e.2 := by
    cases e.2 with
    | bool b => cases b <;> decide
    | text s =>
      show '\r' ∉ '"' :: s.toList.flatMap writtenChar ++ ['"']
      simp [List.mem_flatMap, not_mem_writtenChar]
  simp [writtenEntry, hkey, hvalue]

/-- A written file is read as it stands. -/
theorem parse?_written {entries : List (String × SettingValue)}
    (h : ∀ e ∈ entries, IsBare e.1) : parse? (written entries) = ofEntries? entries := by
  have hmark : dropByteOrderMark (entries.flatMap writtenEntry) =
      entries.flatMap writtenEntry := by
    unfold dropByteOrderMark
    split
    · rename_i s heq
      cases entries with
      | nil => cases heq
      | cons e entries =>
        obtain ⟨hkey, -⟩ := List.forall_mem_cons.mp h
        obtain ⟨c, cs, hcs⟩ := hkey.exists_cons
        rw [List.flatMap_cons, writtenEntry, hcs] at heq
        exact absurd (List.cons.inj heq).1 (hkey.ne_of_mem (by simp [hcs]) (by decide))
    · rfl
  have hends : '\r' ∉ entries.flatMap writtenEntry := by
    rw [List.mem_flatMap]
    rintro ⟨e, he, hc⟩
    exact not_mem_writtenEntry (h e he) hc
  unfold parse? written
  rw [String.toList_ofList, hmark, unifyLineEnds_of_not_mem hends, readEntries_written h,
    Option.bind_some]

/-- **Which written files are settings**, and what they ask for. -/
theorem parse?_written_iff {entries : List (String × SettingValue)}
    (h : ∀ e ∈ entries, IsBare e.1) {s : Settings} :
    parse? (written entries) = some s ↔ AskFor entries s := by
  rw [parse?_written h, ofEntries?_eq_some_iff]

/-- An unknown key is refused. -/
example : parse? "colour = true" = none := by decide +kernel

/-- The entries of a file for some settings. -/
def entries (s : Settings) : List (String × SettingValue) :=
  ("pretty", .bool s.pretty) :: (s.output.map fun path => ("output", .text path)).toList

theorem askFor_entries (s : Settings) : AskFor s.entries s := by
  obtain ⟨pretty, output⟩ := s
  unfold entries
  cases output with
  | none =>
    refine ⟨List.nodup_singleton _, ?_, by simp [eq_comm], by simp⟩
    exact List.forall_mem_singleton.mpr (.pretty pretty)
  | some path =>
    refine ⟨?_, ?_, by simp [eq_comm], by simp [eq_comm]⟩
    · show ["pretty", "output"].Nodup
      decide
    · exact List.forall_mem_cons.mpr ⟨.pretty pretty, List.forall_mem_singleton.mpr (.output path)⟩

/-- **All settings can be written.** -/
theorem parse?_written_entries (s : Settings) : parse? (written s.entries) = some s := by
  refine (parse?_written_iff fun e he => ?_).mpr s.askFor_entries
  cases s.askFor_entries.known e he with
  | pretty b => exact (by decide : IsBare "pretty")
  | output path => exact (by decide : IsBare "output")

/-- A key that is left out has its default, and so have both in a file without entries. -/
example : parse? "" = some {} ∧ parse? "pretty = true" = some { pretty := true } ∧
    parse? "output = \"card.json\"" = some { output := some "card.json" } := by
  decide +kernel

end CardText.Settings
