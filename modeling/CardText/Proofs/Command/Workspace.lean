import CardText.Command.Workspace
import Mathlib.Data.List.TakeWhile

/-!
# Paths to the same file

A file has more than one path. The path may start in the working directory or go through the names
of this directory from the root on, and it may go up and come down again. What `read_input` reads
and `write_output` writes does not depend on which of these paths is given.

Results:

* `walk_append`: a path is walked part by part.
* `walk_names`: the names of directories lead down to the last of them.
* `walk_up_down`: a step up and the same step down change nothing.
* **`read_fromRoot`**, **`target_fromRoot`**: a path from the root through the working directory
  leads where the path from that directory leads.
-/

namespace CardText

/-! ## The parts of a path -/

namespace Path

/-- The path from the root that leads through a place and goes on from there. -/
def fromRoot (l : Location) (path : String) : String :=
  String.ofList ('/' :: (l.flatMap (fun name => name.toList ++ ['/']) ++ path.toList))

theorem isFromRoot_fromRoot (l : Location) (path : String) :
    isFromRoot (fromRoot l path) = true := by
  unfold isFromRoot fromRoot
  rw [String.toList_ofList]
  rfl

/-- Between its slashes, a path from the root has the names of the place and the further parts. -/
theorem parts_fromRoot {l : Location} (hl : ∀ name ∈ l, isName name = true) (path : String) :
    parts (fromRoot l path) = "" :: (l ++ parts path) := by
  have hsplit : ∀ {l : Location}, (∀ name ∈ l, isName name = true) →
      (l.flatMap (fun name => name.toList ++ ['/']) ++ path.toList).splitOn '/' =
        l.map String.toList ++ path.toList.splitOn '/' := by
    intro l hl
    induction l with
    | nil => rfl
    | cons name l ih =>
      obtain ⟨hname, hl⟩ := List.forall_mem_cons.mp hl
      have hslash : '/' ∉ name.toList := by
        simp only [isName, Bool.and_eq_true, Bool.not_eq_true', List.contains_eq_mem,
          decide_eq_false_iff_not] at hname
        exact hname.1.2
      rw [List.flatMap_cons, List.append_assoc, List.append_assoc, List.singleton_append,
        List.splitOn_append_cons_self, ih hl, List.splitOn_eq_singleton hslash]
      rfl
  unfold parts fromRoot
  rw [String.toList_ofList, ← List.nil_append ('/' :: _), List.splitOn_append_cons_self, hsplit hl,
    List.splitOn_nil, List.map_append, List.map_append, List.map_map]
  simp only [Function.comp_def, String.ofList_toList, List.map_id']
  rfl

/-- A path that does not start at the root has a part besides slashes. -/
theorem exists_part_ne_empty {path : String} (h : isFromRoot path = false) (hne : path ≠ "") :
    ∃ part ∈ parts path, part ≠ "" := by
  obtain ⟨c, cs, hcs⟩ := List.exists_cons_of_ne_nil fun h => hne (String.toList_eq_nil_iff.mp h)
  have hc : (c == '/') = false := by
    simpa [isFromRoot, hcs] using h
  obtain ⟨first, rest, hrest⟩ := List.exists_cons_of_ne_nil (List.splitOn_ne_nil '/' cs)
  refine ⟨String.ofList (c :: first), ?_, fun he => ?_⟩
  · unfold parts
    rw [hcs, List.splitOn_cons_eq_if_modifyHead, hc, hrest]
    exact List.mem_cons_self
  · have hnil := congrArg String.toList he
    rw [String.toList_ofList] at hnil
    exact List.cons_ne_nil _ _ hnil

/-- The slashes behind a path stand behind its own parts. -/
theorem steps_fromRoot {l : Location} (hl : ∀ name ∈ l, isName name = true) {path : String}
    (h : isFromRoot path = false) (hne : path ≠ "") :
    steps (fromRoot l path) = "" :: (l ++ steps path) := by
  obtain ⟨part, hpart, hp⟩ := exists_part_ne_empty h hne
  have hkept : ((parts path).reverse.dropWhile (· = "")).isEmpty = false := by
    rw [List.isEmpty_eq_false_iff]
    intro hnil
    exact hp (by simpa using List.dropWhile_eq_nil_iff.mp hnil part (List.mem_reverse.mpr hpart))
  unfold steps
  rw [parts_fromRoot hl, ← List.cons_append, List.reverse_append, List.dropWhile_append, hkept,
    if_neg Bool.false_ne_true, List.reverse_append, List.reverse_reverse, List.cons_append]

/-- A path ends in a slash if its last part is empty, from the root too. -/
theorem getLast?_parts_fromRoot {l : Location} (hl : ∀ name ∈ l, isName name = true)
    (path : String) : (parts (fromRoot l path)).getLast? = (parts path).getLast? := by
  have hne : parts path ≠ [] := fun h => List.splitOn_ne_nil _ _ (List.map_eq_nil_iff.mp h)
  rw [parts_fromRoot hl, ← List.cons_append, List.getLast?_append,
    List.getLast?_eq_some_getLast hne, Option.some_or]

end Path

/-! ## Walks -/

namespace Workspace

variable {w : Workspace} {l l' : Location} {name : String} {ps qs : List String}

/-- What lies above a directory is one. -/
theorem isDirectory_above (h : l <+: l') (hd : w.isDirectory l' = true) :
    w.isDirectory l = true := by
  unfold isDirectory at hd ⊢
  rw [Bool.or_eq_true, List.any_eq_true, List.any_eq_true] at hd ⊢
  rcases hd with ⟨d, hd, hp⟩ | ⟨f, hf, hp⟩
  · refine Or.inl ⟨d, hd, ?_⟩
    rw [List.isPrefixOf_iff_prefix] at hp ⊢
    exact h.trans hp
  · refine Or.inr ⟨f, hf, ?_⟩
    rw [Bool.and_eq_true, List.isPrefixOf_iff_prefix, decide_eq_true_eq] at hp ⊢
    exact ⟨h.trans hp.1, Nat.lt_of_le_of_lt h.length_le hp.2⟩

theorem isDirectory_current (w : Workspace) : w.isDirectory w.current = true := by
  unfold isDirectory
  rw [List.any_cons, List.isPrefixOf_iff_prefix.mpr (List.prefix_refl _)]
  rfl

theorem isDirectory_root (w : Workspace) : w.isDirectory [] = true :=
  isDirectory_above List.nil_prefix w.isDirectory_current

theorem walk_stay (hd : w.isDirectory l = true) (hs : Path.isStay name = true) :
    w.walk l (name :: ps) = w.walk l ps := by
  rw [walk, hd, hs]
  rfl

theorem walk_up (hd : w.isDirectory l = true) : w.walk l (".." :: ps) = w.walk l.dropLast ps := by
  rw [walk, hd]
  rfl

theorem walk_name (hd : w.isDirectory l = true) (hn : Path.isName name = true) :
    w.walk l (name :: ps) = w.walk (l ++ [name]) ps := by
  simp only [Path.isName, Bool.and_eq_true, Bool.not_eq_true', decide_eq_true_eq] at hn
  obtain ⟨⟨⟨hstay, hup⟩, -⟩, hlength⟩ := hn
  rw [walk, hd, hstay, hup, if_neg (Nat.not_lt.mpr hlength)]
  rfl

/-- **A path is walked part by part.** -/
theorem walk_append (w : Workspace) (l : Location) (ps qs : List String) :
    w.walk l (ps ++ qs) = (w.walk l ps).bind fun l' => w.walk l' qs := by
  induction ps generalizing l with
  | nil => rfl
  | cons part ps ih =>
    rw [List.cons_append, walk, walk]
    split
    · rfl
    · split
      · exact ih l
      · split
        · exact ih l.dropLast
        · split
          · rfl
          · exact ih (l ++ [part])

/-- The names of directories lead down to the last of them. -/
theorem walk_names {names : List String} (hn : ∀ name ∈ names, Path.isName name = true)
    (hd : w.isDirectory (l ++ names) = true) : w.walk l names = .ok (l ++ names) := by
  induction names generalizing l with
  | nil => rw [walk, List.append_nil]
  | cons name names ih =>
    obtain ⟨hname, hn⟩ := List.forall_mem_cons.mp hn
    have hassoc : l ++ name :: names = l ++ [name] ++ names := by simp
    rw [walk_name (isDirectory_above (List.prefix_append _ _) hd) hname, hassoc]
    rw [hassoc] at hd
    exact ih hn hd

/-- **A step up and the same step down** lead back. -/
theorem walk_up_down (hn : Path.isName name = true) (hd : w.isDirectory (l ++ [name]) = true)
    (ps : List String) :
    w.walk (l ++ [name]) (".." :: name :: ps) = w.walk (l ++ [name]) ps := by
  rw [walk_up hd, List.dropLast_concat, walk_name (isDirectory_above
    (List.prefix_append _ _) hd) hn]

/-- The names of the working directory lead to it from the root. -/
theorem walk_current (w : Workspace) (ps : List String) :
    w.walk [] ("" :: (w.current ++ ps)) = w.walk w.current ps := by
  have hnames : w.walk [] w.current = .ok w.current :=
    walk_names w.current_names w.isDirectory_current
  rw [walk_stay w.isDirectory_root rfl, walk_append, hnames]
  rfl

/-! ## From the root -/

section FromRoot

variable {path : String} (h : Path.refuse? path = none) (hrel : Path.isFromRoot path = false)
  (hfull : Path.refuse? (Path.fromRoot w.current path) = none)

include h hrel hfull

/-- **The same file is read**, be its path from the root or from the working directory. -/
theorem read_fromRoot : w.read (Path.fromRoot w.current path) = w.read path := by
  unfold read start
  rw [h, hfull, hrel, Path.isFromRoot_fromRoot, Path.parts_fromRoot w.current_names]
  simp only [if_true, Bool.false_eq_true, if_false]
  rw [walk_current]

/-- **The same file is written.** -/
theorem target_fromRoot : w.target (Path.fromRoot w.current path) = w.target path := by
  have hne : path ≠ "" := by
    rintro rfl
    exact absurd h (by decide)
  unfold target start
  rw [h, hfull, hrel, Path.isFromRoot_fromRoot, Path.steps_fromRoot w.current_names hrel hne,
    Path.getLast?_parts_fromRoot w.current_names]
  simp only [if_true, Bool.false_eq_true, if_false]
  rw [walk_current]

end FromRoot

end Workspace

end CardText
