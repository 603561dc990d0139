/-!
# Files

What `read_input`, `write_output` and `load` find: a map from the places of files to their texts.
The place of a file is told from the root of all files on. The directories are those that lie on the
way to a file, those above and with the one that the command line works in, and others that may be
empty.

A path is walked part by part, from the root if it begins with a slash and else from the directory
that the command line works in; every part but the last has to be a directory. Two dots lead one
step up, and at the root they lead nowhere else.

Results:

* **Reading after a write** (`text?_put`): a write changes the text of its file and of no other.
-/

namespace CardText

/-- Why a file cannot be read or written. -/
inductive FileError
  | notFound
  | notDirectory
  | isDirectory
  | nameTooLong
  /-- the path has a NUL in it -/
  | invalidName
  | invalidText
  | other (message : String)
  deriving DecidableEq

/-- What is said of the error. -/
def FileError.message : FileError → String
  | notFound => "No such file or directory (os error 2)"
  | notDirectory => "Not a directory (os error 20)"
  | isDirectory => "Is a directory (os error 21)"
  | nameTooLong => "File name too long (os error 36)"
  | invalidName => "file name contained an unexpected NUL byte"
  | invalidText => "stream did not contain valid UTF-8"
  | other message => message

/-- The place of a file: the names of the directories on the way to it from the root, and then its
own. -/
abbrev Location := List String

namespace Path

/-- The greatest number of bytes of a name. -/
def maxName : Nat := 255

/-- The greatest number of bytes of a path. -/
def maxLength : Nat := 4095

/-- The parts of a path between its slashes. -/
def parts (path : String) : List String := (path.toList.splitOn '/').map String.ofList

/-- The parts of a path without the slashes behind it. -/
def steps (path : String) : List String := ((parts path).reverse.dropWhile (· = "")).reverse

/-- Whether a part of a path stays where it is. -/
def isStay (part : String) : Bool := part = "" || part = "."

/-- Whether a part of a path is a step up. -/
def isUp (part : String) : Bool := part = ".."

/-- Whether a part of a path is the name of a file or a directory. -/
def isName (part : String) : Bool :=
  !isStay part && !isUp part && !part.toList.contains '/' && part.utf8ByteSize ≤ maxName

/-- Whether a path goes from the root on. -/
def isFromRoot (path : String) : Bool := path.toList.head? = some '/'

/-- What is wrong with a path wherever it leads. -/
def refuse? (path : String) : Option FileError :=
  if path.toList.contains '\x00' then some .invalidName
  else if maxLength < path.utf8ByteSize then some .nameTooLong
  else if path.isEmpty then some .notFound
  else none

theorem isName_working : ∀ part ∈ ["tmp", "cards"], isName part = true := by decide

end Path

/-- The files with their texts, and the directory that the command line works in. -/
structure Workspace where
  files : List (Location × String) := []
  /-- directories that exist whatever files there are -/
  directories : List Location := []
  /-- the directory that paths start in, if not at the root -/
  current : Location := ["tmp", "cards"]
  current_names : ∀ part ∈ current, Path.isName part = true := by exact Path.isName_working

namespace Workspace

/-- The text of a file. -/
def text? (w : Workspace) (l : Location) : Option String := w.files.lookup l

/-- Whether a place is a directory: one that is known as such or lies above one, or one that a file
lies in. -/
def isDirectory (w : Workspace) (l : Location) : Bool :=
  (w.current :: w.directories).any l.isPrefixOf ||
    w.files.any fun f => l.isPrefixOf f.1 && l.length < f.1.length

/-- The files with a text in one of them, be it new or not. -/
def put (w : Workspace) (l : Location) (text : String) : Workspace :=
  { w with files := (l, text) :: w.files.filter fun f => f.1 ≠ l }

/-- The place that a path starts from. -/
def start (w : Workspace) (path : String) : Location :=
  if Path.isFromRoot path then [] else w.current

/-- The place that the parts of a path lead to from a place on. -/
def walk (w : Workspace) (l : Location) : List String → Except FileError Location
  | [] => .ok l
  | part :: rest =>
    if !w.isDirectory l then
      .error (if (w.text? l).isSome then .notDirectory else .notFound)
    else if Path.isStay part then w.walk l rest
    else if Path.isUp part then w.walk l.dropLast rest
    else if Path.maxName < part.utf8ByteSize then .error .nameTooLong
    else w.walk (l ++ [part]) rest

/-- The text of the file at a path. -/
def read (w : Workspace) (path : String) : Except FileError String :=
  match Path.refuse? path with
  | some e => .error e
  | none =>
    match w.walk (w.start path) (Path.parts path) with
    | .error e => .error e
    | .ok l =>
      match w.text? l with
      | some text => .ok text
      | none => .error (if w.isDirectory l then .isDirectory else .notFound)

/-- The place of the file that a path names for writing. A path with a slash behind it names a
directory, be there one or not. -/
def target (w : Workspace) (path : String) : Except FileError Location :=
  match Path.refuse? path with
  | some e => .error e
  | none =>
    match w.walk (w.start path) (Path.steps path) with
    | .error e => .error e
    | .ok l =>
      if w.isDirectory l ∨ (Path.parts path).getLast? = some "" then .error .isDirectory else .ok l

/-- The files after a text is written to a path. -/
def write (w : Workspace) (path text : String) : Except FileError Workspace :=
  (w.target path).map fun l => w.put l text

/-- The files of the working directory by their paths. -/
def ofFiles (files : List (String × String)) : Workspace :=
  files.foldl
    (fun w f => w.put (w.current ++ (Path.parts f.1).filter fun p => !Path.isStay p) f.2) {}

/-- The path of a file in the working directory. -/
def pathOf (w : Workspace) (l : Location) : String :=
  String.intercalate "/" (l.drop w.current.length)

/-- The files in the working directory that had not the same text before. -/
def changes (w before : Workspace) : List (String × String) :=
  (w.files.filter fun f => w.current.isPrefixOf f.1 && before.text? f.1 ≠ some f.2).map fun f =>
    (w.pathOf f.1, f.2)

theorem lookup_filter_ne (files : List (Location × String)) {l l' : Location} (h : l' ≠ l) :
    (files.filter fun f => f.1 ≠ l).lookup l' = files.lookup l' := by
  induction files with
  | nil => rfl
  | cons f fs ih =>
    obtain ⟨k, v⟩ := f
    by_cases hk : k = l
    · subst hk
      rw [List.filter_cons_of_neg (by simp), ih, List.lookup_cons]
      rw [beq_eq_false_iff_ne.mpr h]
    · rw [List.filter_cons_of_pos (by simpa using hk), List.lookup_cons, List.lookup_cons, ih]

/-- **Reading after a write.** -/
theorem text?_put (w : Workspace) (l l' : Location) (text : String) :
    (w.put l text).text? l' = if l' = l then some text else w.text? l' := by
  unfold text? put
  rw [List.lookup_cons]
  split
  · rename_i h
    rw [if_pos (by simpa using h)]
  · rename_i h
    have h : l' ≠ l := by simpa using h
    rw [if_neg h, lookup_filter_ne _ h]

end Workspace

end CardText
