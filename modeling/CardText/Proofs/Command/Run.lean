import CardText.Command.Run
import CardText.Proofs.Card.Reading

/-!
# A run does all that it was asked or nothing

A run of `main` fails at the first of four things: settings that cannot be used (`load`), a card's
text that cannot be read (`read_input`), a text that is no card (`compile_json`), and a file that
cannot be written (`write_output`). Up to there it has only told its log what it does, so a run that
fails has printed nothing and changed no file. A run that does not fail puts the document into one
place. Everything is read before the document is written, so the document is that of the files as
they were, even if it then replaces one of them.

Results:

* `after_bind_ok`, `after_bind_error`: steps of a run one after the other.
* `after_settings`, `after_cardText`, `after_deliver`: what each step comes to in a session.
* `after_compile`: what all of them come to.
* **`run_untouched_or_completes`**: which runs succeed, and what they and the others leave behind.
-/

namespace CardText

/-- A step of a run in a session. -/
abbrev Run.Step (α : Type) := ExceptT RunError (StateM Session) α

namespace Session

/-! ## What is read from a session -/

/-- The settings of a command line: none are asked for, or a file that can be read holds them. -/
def settings? (s : Session) : Option String → Option Settings
  | none => some {}
  | some path => (s.workspace.read path).toOption.bind Settings.parse?

/-- The text of the card of a command line: what comes in, or the text of a file that can be
read. -/
def cardText? (s : Session) : Option String → Option String
  | none => some s.input
  | some path => if Run.meansInput path then some s.input else (s.workspace.read path).toOption

/-- What keeps a run from writing anything. -/
inductive Fails (s : Session) (a : Arguments) : Prop
  /-- the settings cannot be read or are none -/
  | settings (h : s.settings? a.config = none)
  /-- the text of the card cannot be read -/
  | input (h : s.cardText? a.input = none)
  /-- the text is not that of a card -/
  | card (text : String) (e : ReadError) (h : s.cardText? a.input = some text)
      (hread : Card.read text = .error e)
  /-- the path that the document goes to is that of no file that can be written -/
  | output (st : Settings) (path : String) (e : FileError) (h : s.settings? a.config = some st)
      (hpath : (a.output <|> st.output) = some path) (htarget : s.workspace.target path = .error e)

/-! ## What a run leaves behind -/

/-- Nothing was printed and no file has changed. -/
structure Untouched (s s' : Session) : Prop where
  printed : s'.printed = s.printed
  workspace : s'.workspace = s.workspace

/-- A text went to one place and to no other: into the file at a path, or, without a path, to what
is printed. -/
def Delivered (s : Session) (text : String) : Option String → Session → Prop
  | none, s' => s'.printed = s.printed ++ text ∧ s'.workspace = s.workspace
  | some path, s' => s'.printed = s.printed ∧
      (∃ l, s.workspace.target path = .ok l ∧
        ∀ l', s'.workspace.text? l' = if l' = l then some text else s.workspace.text? l') ∧
      s'.workspace.directories = s.workspace.directories ∧
        s'.workspace.current = s.workspace.current

/-- The document of the card went to the place that the command line names, or else the settings.
Both, and the card, are as they were before the run. -/
def Completes (s : Session) (a : Arguments) (s' : Session) : Prop :=
  ∃ st text card, s.settings? a.config = some st ∧ s.cardText? a.input = some text ∧
    Card.read text = .ok card ∧
      s.Delivered (card.compile.render (a.pretty || st.pretty) ++ "\n") (a.output <|> st.output) s'

/-- A run whose settings, card and place for the document are all there does not fail. -/
theorem not_fails {s : Session} {a : Arguments} {st : Settings} {text : String} {card : Card}
    (hst : s.settings? a.config = some st) (htext : s.cardText? a.input = some text)
    (hcard : Card.read text = .ok card)
    (htarget : ∀ path, (a.output <|> st.output) = some path →
      ∃ l, s.workspace.target path = .ok l) : ¬ s.Fails a := by
  rintro (hnone | hnone | ⟨_, e, htext', herror⟩ | ⟨_, path, e, hst', hpath, herror⟩)
  · exact absurd (hst.symm.trans hnone) (by simp)
  · exact absurd (htext.symm.trans hnone) (by simp)
  · obtain rfl := Option.some.inj (htext.symm.trans htext')
    cases hcard.symm.trans herror
  · obtain rfl := Option.some.inj (hst.symm.trans hst')
    obtain ⟨l, hl⟩ := htarget path hpath
    cases hl.symm.trans herror

theorem Completes.not_fails {s s' : Session} {a : Arguments} (h : s.Completes a s') :
    ¬ s.Fails a := by
  obtain ⟨st, text, card, hst, htext, hcard, hdelivered⟩ := h
  refine Session.not_fails hst htext hcard fun path hpath => ?_
  rw [hpath] at hdelivered
  obtain ⟨-, ⟨l, hl, -⟩, -⟩ := hdelivered
  exact ⟨l, hl⟩

/-! ## Steps one after the other -/

section Steps

variable {α β : Type} {s s' : Session}

/-- What a step comes to in a session, and the session after it. -/
def after (s : Session) (x : Run.Step α) : Except RunError α × Session := x.run.run s

theorem after_bind_ok {x : Run.Step α} {a : α} (h : s.after x = (.ok a, s'))
    (f : α → Run.Step β) : s.after (x >>= f) = s'.after (f a) := by
  unfold after at h ⊢
  rw [ExceptT.run_bind, StateT.run_bind, h]
  rfl

/-- A step that fails is the last one. -/
theorem after_bind_error {x : Run.Step α} {e : RunError} (h : s.after x = (.error e, s'))
    (f : α → Run.Step β) : s.after (x >>= f) = (.error e, s') := by
  unfold after at h ⊢
  rw [ExceptT.run_bind, StateT.run_bind, h]
  rfl

/-- The session with more lines in its log. -/
def logging (s : Session) (lines : List LogLine) : Session :=
  { s with logged := s.logged ++ lines }

theorem after_log (s : Session) (line : LogLine) :
    s.after (ExceptT.lift (host.log line)) = (.ok (), s.logging [line]) := rfl

theorem run_forM_log : ∀ (lines : List LogLine) (s : Session),
    (lines.forM host.log).run s = ((), s.logging lines)
  | [], s => by
    show ((), s) = ((), { s with logged := s.logged ++ [] })
    rw [List.append_nil]
  | line :: lines, s => by
    show (lines.forM host.log).run (s.logging [line]) = _
    rw [run_forM_log lines]
    simp only [logging, List.append_assoc, List.singleton_append]

theorem after_logAll (s : Session) (lines : List LogLine) :
    s.after (ExceptT.lift (lines.forM host.log)) = (.ok (), s.logging lines) := by
  show ((Except.ok <$> lines.forM host.log).run s) = _
  rw [StateT.run_map, run_forM_log]
  rfl

theorem after_require {ε : Type} {step : StateM Session (Except ε α)} {r : Except ε α}
    (h : step.run s = (r, s')) (failure : ε → RunError) :
    s.after (Run.require step failure) = (r.mapError failure, s') := by
  unfold after Run.require
  show StateT.run (step >>= _) s = _
  rw [StateT.run_bind, h]
  cases r <;> rfl

end Steps

/-! ## What each step comes to -/

/-- Reading the settings changes nothing. -/
theorem after_settings (s : Session) (config : Option String) :
    ∃ r, s.after (Run.settings host config) = (r, s) ∧ r.toOption = s.settings? config := by
  cases config with
  | none => exact ⟨.ok {}, rfl, rfl⟩
  | some path =>
    have hread : s.after (Run.require (host.readFile path) (.unreadableConfig path)) =
        ((s.workspace.read path).mapError (.unreadableConfig path), s) := after_require rfl _
    rw [settings?]
    unfold Run.settings
    cases hw : s.workspace.read path with
    | error e =>
      rw [hw] at hread
      exact ⟨.error (.unreadableConfig path e), after_bind_error hread _, rfl⟩
    | ok text =>
      rw [hw] at hread
      simp only
      rw [after_bind_ok hread]
      cases hparse : Settings.parse? text with
      | none => exact ⟨.error (.badConfig path), rfl, hparse.symm⟩
      | some st => exact ⟨.ok st, rfl, hparse.symm⟩

/-- Reading the text of the card changes nothing. -/
theorem after_cardText (s : Session) (input : Option String) :
    ∃ r, s.after (Run.cardText host input) = (r, s) ∧ r.toOption = s.cardText? input := by
  cases input with
  | none => exact ⟨.ok s.input, rfl, rfl⟩
  | some path =>
    unfold Run.cardText cardText?
    simp only
    split
    · exact ⟨.ok s.input, rfl, rfl⟩
    · refine ⟨_, after_require rfl _, ?_⟩
      cases s.workspace.read path <;> rfl

/-- A path that leads to a file: its text is the new one. -/
theorem run_writeFile_ok {s : Session} {path : String} {l : Location}
    (h : s.workspace.target path = .ok l) (text : String) :
    (host.writeFile path text).run s =
      (.ok (), { s with workspace := s.workspace.put l text }) := by
  have hw : s.workspace.write path text = .ok (s.workspace.put l text) := by
    rw [Workspace.write, h]
    rfl
  show StateT.run (get >>= _) s = _
  rw [StateT.run_bind]
  simp only [StateT.run_get, pure_bind, hw]
  rfl

/-- A path that leads to none: nothing changes. -/
theorem run_writeFile_error {s : Session} {path : String} {e : FileError}
    (h : s.workspace.target path = .error e) (text : String) :
    (host.writeFile path text).run s = (.error e, s) := by
  have hw : s.workspace.write path text = .error e := by
    rw [Workspace.write, h]
    rfl
  show StateT.run (get >>= _) s = _
  rw [StateT.run_bind]
  simp only [StateT.run_get, pure_bind, hw]
  rfl

/-- A text goes to its place, or there is no such place and nothing changes. -/
theorem after_deliver (s : Session) (text : String) (output : Option String) :
    (∃ path e, output = some path ∧ s.workspace.target path = .error e ∧
      s.after (Run.deliver host text output) = (.error (.unwritable path e), s)) ∨
    ∃ s', s.after (Run.deliver host text output) = (.ok (), s') ∧ s.Delivered text output s' := by
  cases output with
  | none => exact Or.inr ⟨{ s with printed := s.printed ++ text }, rfl, rfl, rfl⟩
  | some path =>
    cases ht : s.workspace.target path with
    | error e => exact Or.inl ⟨path, e, rfl, ht, after_require (run_writeFile_error ht text) _⟩
    | ok l =>
      exact Or.inr ⟨_, after_require (run_writeFile_ok ht text) _, rfl,
        ⟨l, ht, fun l' => s.workspace.text?_put l l' text⟩, rfl, rfl⟩

/-! ## All of them -/

theorem after_compile (s : Session) (a : Arguments) :
    (s.Fails a ∧ ∃ e s', s.after (Run.compile host a) = (.error e, s') ∧ s.Untouched s') ∨
      ∃ s', s.after (Run.compile host a) = (.ok (), s') ∧ s.Completes a s' := by
  unfold Run.compile
  obtain ⟨r, hsettings, hst⟩ := s.after_settings a.config
  cases r with
  | error e =>
    exact Or.inl ⟨.settings hst.symm, e, s, after_bind_error hsettings _, rfl, rfl⟩
  | ok st =>
    rw [after_bind_ok hsettings]
    simp only
    rw [after_bind_ok (after_log s _)]
    -- the log is not read, so what is read next is read from the session as it was
    obtain ⟨r, htext, ht⟩ := (s.logging [_]).after_cardText a.input
    cases r with
    | error e => exact Or.inl ⟨.input ht.symm, e, _, after_bind_error htext _, rfl, rfl⟩
    | ok text =>
      rw [after_bind_ok htext]
      cases hcard : Card.read text with
      | error e => exact Or.inl ⟨.card text e ht.symm hcard, _, _, rfl, rfl, rfl⟩
      | ok card =>
        simp only
        rw [after_bind_ok (after_logAll _ _)]
        obtain ⟨path, e, hpath, htarget, hrun⟩ | ⟨s', hrun, hdelivered⟩ :=
          ((s.logging _).logging card.log).after_deliver
            (card.compile.render (a.pretty || st.pretty) ++ "\n") (a.output <|> st.output)
        · exact Or.inl ⟨.output st path e hst.symm hpath htarget, _, _, hrun, rfl, rfl⟩
        · exact Or.inr ⟨s', hrun, st, text, card, hst.symm, ht.symm, hcard, hdelivered⟩

/-! ## Runs -/

/-- Behind the compilation, a run reports a failure and does no more. -/
theorem run_of_parse {words : List String} {a : Arguments} (h : Arguments.parse words = .ok a)
    (s : Session) :
    s.run words =
      match s.after (Run.compile host a) with
      | (.ok (), s') => (0, s')
      | (.error e, s') => (1, { s' with reported := s'.reported ++ e.report }) := by
  unfold run Run.run
  rw [h]
  show StateT.run ((Run.compile host a).run >>= _) s = _
  rw [StateT.run_bind, show StateT.run (Run.compile host a).run s = s.after _ from rfl]
  obtain ⟨_ | _, s'⟩ := s.after (Run.compile host a) <;> rfl

/-- **A run fails and leaves everything as it was, or it puts the document into one place.** -/
theorem run_untouched_or_completes {words : List String} {a : Arguments}
    (h : Arguments.parse words = .ok a) (s : Session) :
    (s.Fails a → (s.run words).1 = 1 ∧ s.Untouched (s.run words).2) ∧
      (¬ s.Fails a → (s.run words).1 = 0 ∧ s.Completes a (s.run words).2) := by
  obtain ⟨hfails, e, s', hrun, huntouched⟩ | ⟨s', hrun, hcompletes⟩ := s.after_compile a
  · rw [run_of_parse h, hrun]
    exact ⟨fun _ => ⟨rfl, huntouched.printed, huntouched.workspace⟩, fun hn => absurd hfails hn⟩
  · rw [run_of_parse h, hrun]
    exact ⟨fun hfails => absurd hfails hcompletes.not_fails, fun _ => ⟨rfl, hcompletes⟩⟩

/-- A working directory with a card without lines and a text that is no card, and two settings files
of which one names an unknown key. -/
def sampleCards : Session where
  workspace :=
    { files :=
        [(["tmp", "cards", "card.json"], "[]"), (["tmp", "cards", "broken.json"], "["),
          (["tmp", "cards", "settings.toml"], "pretty = true\noutput = \"out.json\"\n"),
          (["tmp", "cards", "bad.toml"], "colour = true\n")]
      directories := [["out"]] }
  input := ""

/-- The text of the card without lines. -/
theorem read_noLines : Card.read "[]" = .ok [] :=
  @Card.read_of_format "[]" []
    ⟨[], _, [], Format.blanks_nil, .nil Format.blanks_nil, Format.blanks_nil, rfl⟩

/-- A list that does not end is the text of no card. -/
theorem read_noEnd : Card.read "[" = .error ⟨.endInList, ⟨1, 1⟩⟩ := by
  have hlines : Reader.readLines true [] = .error (.ended .endInList) := by
    rw [Reader.readLines]
    rfl
  have hread : Reader.read ['['] = .error (.ended .endInList) := by
    simp only [Reader.read, show Reader.skipBlank ['['] = ['['] from rfl, hlines]
  rw [Card.read, show "[".toList = ['['] from rfl, hread]
  rfl

/-- A run that puts the default card into a file. -/
def PutsDefault (s : Session) (words : List String) (l : Location) (pretty : Bool) : Prop :=
  (s.run words).1 = 0 ∧
    (s.run words).2.workspace.text? l = some (Document.defaultCard.render pretty ++ "\n")

/-- A run that fails and leaves everything as it was. -/
def Refuses (s : Session) (words : List String) : Prop :=
  (s.run words).1 = 1 ∧ s.Untouched (s.run words).2

/-- The document goes where the settings or else the command line say, along any path, and may
replace the card or the settings; settings, cards and places that are none change nothing. -/
theorem run_sampleCards :
    sampleCards.PutsDefault ["card.json", "-c", "settings.toml"] ["tmp", "cards", "out.json"] true ∧
    sampleCards.PutsDefault ["card.json", "-c", "settings.toml", "-o", "/out/card.json"]
      ["out", "card.json"] true ∧
    sampleCards.PutsDefault ["card.json", "-o", "settings.toml", "-c", "settings.toml"]
      ["tmp", "cards", "settings.toml"] true ∧
    sampleCards.PutsDefault ["../cards/card.json", "--pretty", "-o", "card.json"]
      ["tmp", "cards", "card.json"] true ∧
    sampleCards.PutsDefault ["/tmp/cards/card.json", "-o", "card.json"]
      ["tmp", "cards", "card.json"] false ∧
    sampleCards.Refuses ["card.json", "-c", "bad.toml", "-o", "card.json"] ∧
    sampleCards.Refuses ["broken.json", "-o", "card.json"] ∧
    sampleCards.Refuses ["none.json", "-o", "card.json"] ∧
    sampleCards.Refuses ["card.json", "-o", "/none/card.json"] := by
  have hsettings : sampleCards.settings? (some "settings.toml") =
      some { pretty := true, output := some "out.json" } := by decide +kernel
  -- a run with a card that can be read, settings, and a place for the document
  have hputs : ∀ {words st path l pretty} (a : Arguments), Arguments.parse words = .ok a →
      sampleCards.settings? a.config = some st → sampleCards.cardText? a.input = some "[]" →
      (a.output <|> st.output) = some path → sampleCards.workspace.target path = .ok l →
      (a.pretty || st.pretty) = pretty → sampleCards.PutsDefault words l pretty := by
    intro words st path l pretty a hparse hst htext hpath htarget hpretty
    have hgoes : ∀ path, (a.output <|> st.output) = some path →
        ∃ l, sampleCards.workspace.target path = .ok l := by
      intro path' hpath'
      obtain rfl := Option.some.inj (hpath.symm.trans hpath')
      exact ⟨l, htarget⟩
    obtain ⟨hcode, st', text, card, hst', htext', hcard, hdelivered⟩ :=
      (run_untouched_or_completes hparse sampleCards).2 (not_fails hst htext read_noLines hgoes)
    obtain rfl := Option.some.inj (hst.symm.trans hst')
    obtain rfl := Option.some.inj (htext.symm.trans htext')
    obtain rfl := Except.ok.inj (read_noLines.symm.trans hcard)
    rw [hpath] at hdelivered
    obtain ⟨-, ⟨l', hl', hfiles⟩, -⟩ := hdelivered
    obtain rfl := Except.ok.inj (htarget.symm.trans hl')
    refine ⟨hcode, ?_⟩
    rw [hfiles, if_pos rfl, hpretty]
    rfl
  have hrefuses : ∀ {words} (a : Arguments), Arguments.parse words = .ok a →
      sampleCards.Fails a → sampleCards.Refuses words :=
    fun _ hparse hfails => (run_untouched_or_completes hparse sampleCards).1 hfails
  refine ⟨?_, ?_, ?_, ?_, ?_, ?_, ?_, ?_, ?_⟩
  · exact hputs
      { input := some "card.json"
        config := some "settings.toml" }
      (by decide) hsettings (by decide) rfl (by decide) rfl
  · exact hputs
      { input := some "card.json"
        config := some "settings.toml"
        output := some "/out/card.json" }
      (by decide) hsettings (by decide) rfl (by decide) rfl
  · exact hputs
      { input := some "card.json"
        config := some "settings.toml"
        output := some "settings.toml" }
      (by decide) hsettings (by decide) rfl (by decide) rfl
  · exact hputs
      { input := some "../cards/card.json"
        output := some "card.json"
        pretty := true }
      (by decide) rfl (by decide) rfl (by decide) rfl
  · exact hputs
      { input := some "/tmp/cards/card.json"
        output := some "card.json" }
      (by decide) rfl (by decide) rfl (by decide) rfl
  · exact hrefuses
      { input := some "card.json"
        config := some "bad.toml"
        output := some "card.json" }
      (by decide) (.settings (by decide +kernel))
  · exact hrefuses
      { input := some "broken.json"
        output := some "card.json" }
      (by decide) (.card "[" _ (by decide) read_noEnd)
  · exact hrefuses
      { input := some "none.json"
        output := some "card.json" }
      (by decide) (.input (by decide))
  · exact hrefuses
      { input := some "card.json"
        output := some "/none/card.json" }
      (by decide) (.output {} "/none/card.json" .notFound rfl rfl (by decide))

end Session

end CardText
