import CardText.Settings.Literal

/-!
# Settings

What a settings file can ask for: an indented document, and the file that the document goes to. A
file that asks for neither leaves everything as it is. The settings are a `CliConfig`, and a key
that it does not have is refused (`load`).

A settings file is read line by line. A line holds an entry, a key and its value around an equals
sign, or nothing; a comment may close it. Keys are bare words or strings of one line, and values are
truth values or strings. Whatever else such files may hold in other programs is no setting here, so
a file with it is refused like one that cannot be read at all.
-/

namespace CardText

/-- What a settings file asks for (`CliConfig`). -/
structure Settings where
  pretty : Bool := false
  output : Option String := none
  deriving DecidableEq

/-- A value in a settings file. -/
inductive SettingValue
  | bool (b : Bool)
  | text (s : String)
  deriving DecidableEq

namespace Settings

/-- The settings with one more entry of a file; no other key, and none with a value of another
type, is one of theirs. -/
def withSetting? (s : Settings) : String × SettingValue → Option Settings
  | ("pretty", .bool b) => some { s with pretty := b }
  | ("output", .text path) => some { s with output := some path }
  | _ => none

/-- The settings of the entries of a file, none of which comes twice. -/
def ofEntries? (entries : List (String × SettingValue)) : Option Settings :=
  if (entries.map Prod.fst).Nodup then entries.foldlM withSetting? {} else none

/-! ## Reading a file -/

/-- Whether a character may stand in a bare key. -/
def isBareKey (c : Char) : Bool := c.isAlphanum || c = '-' || c = '_'

/-- A key. -/
def readKey (s : List Char) : Option (List Char × List Char) :=
  match s with
  | '"' :: r => readInLine '"' r
  | '\'' :: r => readInLine '\'' r
  | s =>
    match s.takeWhile isBareKey with
    | [] => none
    | key => some (key, s.dropWhile isBareKey)

/-- The text behind a word at its start. -/
def behind? (word : String) (s : List Char) : Option (List Char) :=
  if word.toList.isPrefixOf s then some (s.drop word.length) else none

/-- A value. -/
def readValue (s : List Char) : Option (SettingValue × List Char) :=
  match behind? "true" s, behind? "false" s with
  | some rest, _ => some (.bool true, rest)
  | _, some rest => some (.bool false, rest)
  | none, none => (readString s).map fun (cs, rest) => (.text (String.ofList cs), rest)

/-- The text behind a comment, if there is one. -/
def skipComment : List Char → List Char
  | '#' :: r => r.dropWhile isPlain
  | s => s

/-- The text behind the rest of a line, in which only a comment may stand. -/
def readLineEnd (s : List Char) : Option (List Char) :=
  match skipComment (s.dropWhile isBlank) with
  | [] => some []
  | '\n' :: r => some r
  | _ => none

/-- An entry, from its first character to the end of its line. -/
def readEntry (s : List Char) : Option ((String × SettingValue) × List Char) := do
  let (key, r) ← readKey s
  let r ← behind? "=" (r.dropWhile isBlank)
  let (value, r) ← readValue (r.dropWhile isBlank)
  let rest ← readLineEnd r
  return ((String.ofList key, value), rest)

theorem length_of_behind? {word : String} {s rest : List Char} (h : behind? word s = some rest) :
    rest.length = s.length - word.length := by
  unfold behind? at h
  split at h
  · obtain rfl := Option.some.inj h
    rw [List.length_drop]
  · cases h

theorem length_of_readKey {s key rest : List Char} (h : readKey s = some (key, rest)) :
    rest.length < s.length := by
  unfold readKey at h
  split at h
  · exact Nat.lt_succ_of_lt (length_of_readInLine h)
  · exact Nat.lt_succ_of_lt (length_of_readInLine h)
  · split at h
    · cases h
    · rename_i hk
      obtain ⟨-, rfl⟩ := Prod.mk.inj (Option.some.inj h)
      have hs := congrArg List.length (List.takeWhile_append_dropWhile (p := isBareKey) (l := s))
      have := List.length_pos_iff.mpr hk
      rw [List.length_append] at hs
      omega

theorem length_of_readValue {s rest : List Char} {v : SettingValue}
    (h : readValue s = some (v, rest)) : rest.length ≤ s.length := by
  unfold readValue at h
  split at h
  · rename_i hb
    obtain ⟨-, rfl⟩ := Prod.mk.inj (Option.some.inj h)
    exact length_of_behind? hb ▸ Nat.sub_le _ _
  · rename_i hb _
    obtain ⟨-, rfl⟩ := Prod.mk.inj (Option.some.inj h)
    exact length_of_behind? hb ▸ Nat.sub_le _ _
  · obtain ⟨⟨cs, rest'⟩, hr, he⟩ := Option.map_eq_some_iff.mp h
    obtain ⟨-, rfl⟩ := Prod.mk.inj he
    exact length_of_readString hr

theorem length_of_readLineEnd {s rest : List Char} (h : readLineEnd s = some rest) :
    rest.length ≤ s.length - 1 := by
  have hb := length_dropWhile_le isBlank s
  have hc : ∀ s, (skipComment s).length ≤ s.length := by
    intro s
    unfold skipComment
    split
    · exact Nat.le_succ_of_le (length_dropWhile_le _ _)
    · exact Nat.le_refl _
  have hs := hc (s.dropWhile isBlank)
  unfold readLineEnd at h
  split at h
  · obtain rfl := Option.some.inj h
    exact Nat.zero_le _
  · rename_i heq
    obtain rfl := Option.some.inj h
    rw [heq, List.length_cons] at hs
    omega
  · cases h

theorem length_of_readEntry {s rest : List Char} {e : String × SettingValue}
    (h : readEntry s = some (e, rest)) : rest.length < s.length := by
  simp only [readEntry, Option.bind_eq_bind, Option.pure_def, Option.bind_eq_some_iff] at h
  obtain ⟨⟨key, r1⟩, h1, r2, h2, ⟨v, r3⟩, h3, r4, h4, he⟩ := h
  obtain ⟨-, rfl⟩ := Prod.mk.inj (Option.some.inj he)
  have h1 := length_of_readKey h1
  have h2 := length_of_behind? h2
  have h3 := length_of_readValue h3
  have h4 := length_of_readLineEnd h4
  have hb1 := length_dropWhile_le isBlank r1
  have hb2 := length_dropWhile_le isBlank r2
  simp only [String.length] at h2 h3 h4
  omega

/-- The entries of a file. -/
def readEntries (s : List Char) : Option (List (String × SettingValue)) :=
  match _hs : s.dropWhile isBlank with
  | [] => some []
  | c :: r =>
    if c = '\n' ∨ c = '#' then
      match _h : readLineEnd (c :: r) with
      | some rest => readEntries rest
      | none => none
    else
      match _h : readEntry (c :: r) with
      | some (e, rest) => (readEntries rest).map (e :: ·)
      | none => none
termination_by s.length
decreasing_by
  all_goals
    have := length_dropWhile_le isBlank s
    rw [_hs, List.length_cons] at this
  · have := length_of_readLineEnd _h
    rw [List.length_cons] at this
    omega
  · have := length_of_readEntry _h
    rw [List.length_cons] at this
    omega

/-- A text with a line feed in place of every pair of a carriage return and a line feed. -/
def unifyLineEnds : List Char → List Char
  | '\r' :: '\n' :: s => '\n' :: unifyLineEnds s
  | c :: s => c :: unifyLineEnds s
  | [] => []

/-- The text behind a byte order mark at its start. -/
def dropByteOrderMark : List Char → List Char
  | '\uFEFF' :: s => s
  | s => s

/-- The settings that the text of a file asks for. -/
def parse? (text : String) : Option Settings :=
  (readEntries (unifyLineEnds (dropByteOrderMark text.toList))).bind ofEntries?

end Settings

end CardText
