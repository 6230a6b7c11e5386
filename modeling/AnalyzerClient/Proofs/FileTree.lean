import AnalyzerClient.FileTree
import AnalyzerClient.Proofs.Dict
import AnalyzerClient.Proofs.Path

/-!
# Making directories and writing files

What a path leads to is found by a walk, and a walk to the last name of a path is a walk to the
directory above it and one step more (`FileTree.find_eq_ok_iff`). Making directories only adds
directories (`FileTree.makeDirectories_extends`), so that a file that is found stays found, and a
file that was written is found with its content (`FileTree.find_of_write`), while files with other
names stay as they are (`FileTree.find_of_write_of_ne`).
-/

namespace AnalyzerClient.FileTree

open AnalyzerClient.Path (IsName EndsWith)

variable {t t' t'' : FileTree} {path other name above : String}
  {place place' front back : List String} {node : FileNode} {content : List UInt8}

/-! ## Nodes -/

-- The equations are generated here, once, so that no proof waits for another to do it.
attribute [grind =] walk makeDirectoriesWithin

theorem node?_set (t : FileTree) (place : List String) (node : FileNode) (path : String) :
    (t.set place node).node? path =
      if path = pathOf place ∧ path ≠ "/" then some node else t.node? path := by
  by_cases hroot : path = "/"
  · simp [FileTree.node?, hroot]
  · by_cases hpath : path = pathOf place
    · subst hpath; simp [FileTree.node?, FileTree.set, hroot, Dict.get?_insert]
    · simp [FileTree.node?, FileTree.set, hroot, hpath, Dict.get?_insert]

/-- Every directory stays a directory. -/
def Keeps (t t' : FileTree) : Prop :=
  ∀ path, t.node? path = some .directory → t'.node? path = some .directory

/-- All nodes stay, and what is new is a directory. -/
structure Extends (t t' : FileTree) : Prop where
  directory : t'.directory = t.directory
  node : ∀ path, t'.node? path = t.node? path ∨
    (t.node? path = none ∧ t'.node? path = some .directory)

namespace Extends

theorem refl (t : FileTree) : Extends t t := ⟨rfl, fun _ => .inl rfl⟩

theorem trans (h : Extends t t') (h' : Extends t' t'') : Extends t t'' := by
  refine ⟨h'.directory.trans h.directory, fun path => ?_⟩
  rcases h.node path with h₁ | ⟨h₁, h₁'⟩ <;> rcases h'.node path with h₂ | ⟨h₂, h₂'⟩
  · exact .inl (h₂.trans h₁)
  · exact .inr ⟨h₁.symm.trans h₂, h₂'⟩
  · exact .inr ⟨h₁, h₂.trans h₁'⟩
  · rw [h₁'] at h₂; cases h₂

theorem node?_eq (h : Extends t t') (hnode : t.node? path = some node) :
    t'.node? path = some node := by
  rcases h.node path with h | ⟨h, -⟩
  · rw [h, hnode]
  · rw [h] at hnode; cases hnode

theorem keeps (h : Extends t t') : Keeps t t' := fun _ => h.node?_eq

end Extends

/-! ## Walks -/

theorem walk_append (t : FileTree) (place front back : List String) :
    t.walk place (front ++ back) = (t.walk place front).bind (t.walk · back) := by
  induction front generalizing place with
  | nil =>
    cases hnode : t.node? (pathOf place) with
    | none => cases back <;> simp [walk, hnode, Except.bind]
    | some node => simp [walk, hnode, Except.bind]
  | cons piece front ih =>
    rw [List.cons_append, walk, walk]
    cases hnode : t.node? (pathOf place) with
    | none => rfl
    | some node =>
      cases node with
      | file content executable => rfl
      | directory =>
        simp only [ih]
        repeat' split
        all_goals rfl

/-- A name that a file or directory can have. -/
structure EntryName (name : String) : Prop where
  isName : IsName name
  ordinary : name ≠ "." ∧ name ≠ ".."
  short : name.utf8ByteSize ≤ maxName

theorem EntryName.ne_empty (h : EntryName name) : name ≠ "" := fun he =>
  h.isName.ne_nil (by rw [he]; rfl)

theorem walk_name (hname : EntryName name) (hplace : t.node? (pathOf place) = some .directory) :
    t.walk place [name] = if (t.node? (pathOf (name :: place))).isSome then .ok (name :: place)
      else .error .notFound := by
  simp [walk, hplace, hname.ne_empty, hname.ordinary, Nat.not_lt.mpr hname.short]

theorem walk_snoc_eq_ok_iff (hname : EntryName name) :
    t.walk place (front ++ [name]) = .ok place' ↔ ∃ above, t.walk place front = .ok above ∧
      t.node? (pathOf above) = some .directory ∧ (t.node? (pathOf (name :: above))).isSome ∧
      place' = name :: above := by
  rw [walk_append]
  cases hfront : t.walk place front with
  | error e => simp [Except.bind]
  | ok above =>
    simp only [Except.bind, Except.ok.injEq, exists_eq_left']
    cases hnode : t.node? (pathOf above) with
    | none => simp [walk, hnode]
    | some node =>
      cases node with
      | file content executable => simp [walk, hnode]
      | directory =>
        rw [walk_name hname hnode]
        by_cases hsome : (t.node? (pathOf (name :: above))).isSome <;> simp [hsome, eq_comm]

/-- A walk that ends in a directory goes through directories only. -/
theorem walk_of_keeps (h : Keeps t t') (hwalk : t.walk place front = .ok place')
    (hplace : t.node? (pathOf place') = some .directory) : t'.walk place front = .ok place' := by
  induction front generalizing place with
  | nil =>
    rw [walk] at hwalk
    split at hwalk
    · cases hwalk; rw [walk, h _ hplace]; rfl
    · cases hwalk
  | cons piece front ih =>
    rw [walk] at hwalk
    cases hnode : t.node? (pathOf place) with
    | none => rw [hnode] at hwalk; cases hwalk
    | some node =>
      cases node with
      | file content executable => rw [hnode] at hwalk; cases hwalk
      | directory =>
        rw [hnode] at hwalk
        rw [walk, h _ hnode]
        simp only at hwalk ⊢
        repeat' split at hwalk
        · next hstay => rw [if_pos hstay]; exact ih hwalk
        · next hstay hup => rw [if_neg hstay, if_pos hup]; exact ih hwalk
        · cases hwalk
        · next hstay hup hlong => rw [if_neg hstay, if_neg hup, if_neg hlong]; exact ih hwalk

/-! ## Finding -/

theorem contains_iff : t.contains path = true ↔ ∃ node, t.find path = .ok node := by
  rw [contains]
  cases t.find path <;> simp [Except.toOption]

theorem find_eq_ok_iff (hname : EntryName name)
    (hpieces : Path.pieces (Path.join t.directory path) = front ++ [name]) :
    t.find path = .ok node ↔ checkPath path = .ok () ∧ ∃ above, t.walk [] front = .ok above ∧
      t.node? (pathOf above) = some .directory ∧ t.node? (pathOf (name :: above)) = some node := by
  simp only [find, locate, hpieces, bind, Except.bind]
  cases hcheck : checkPath path with
  | error e => simp
  | ok _ =>
    simp only [true_and]
    cases hwalk : t.walk [] (front ++ [name]) with
    | error e =>
      refine ⟨nofun, fun ⟨above, h₁, h₂, h₃⟩ => ?_⟩
      have hok : t.walk [] (front ++ [name]) = .ok (name :: above) :=
        (walk_snoc_eq_ok_iff hname).mpr ⟨above, h₁, h₂, by rw [h₃]; rfl, rfl⟩
      rw [hwalk] at hok
      cases hok
    | ok place =>
      obtain ⟨above, h₁, h₂, h₃, rfl⟩ := (walk_snoc_eq_ok_iff hname).mp hwalk
      obtain ⟨found, hfound⟩ := Option.isSome_iff_exists.mp h₃
      simp [h₁, h₂, hfound, eq_comm, pure, Except.pure]

/-! ## Making directories -/

/-- What it takes to make a directory, and what comes of it. -/
theorem makeDirectory_eq_ok (h : t.makeDirectory path = .ok t') : ∃ place name,
    t.target path = .ok (.entry place name) ∧ t.node? (pathOf (name :: place)) = none ∧
      t' = t.set (name :: place) .directory := by
  simp only [makeDirectory, bind, Except.bind] at h
  cases htarget : t.target path with
  | error e => rw [htarget] at h; cases h
  | ok target =>
    rw [htarget] at h
    cases target with
    | directory => cases h
    | entry place name =>
      simp only at h
      repeat' split at h
      · cases h
      · cases h
      · next hfree =>
        cases h
        exact ⟨place, name, rfl, Option.not_isSome_iff_eq_none.mp hfree, rfl⟩

theorem makeDirectory_extends (h : t.makeDirectory path = .ok t') : Extends t t' := by
  obtain ⟨place, name, -, hfree, rfl⟩ := makeDirectory_eq_ok h
  refine ⟨rfl, fun path => ?_⟩
  rw [node?_set]
  split
  · next hpath => exact .inr ⟨by rw [hpath.1]; exact hfree, rfl⟩
  · exact .inl rfl

theorem ensureDirectory_extends (t : FileTree) (path : String) :
    Extends t (t.ensureDirectory path).2 := by
  unfold ensureDirectory
  split
  · next hmade => exact makeDirectory_extends hmade
  · exact .refl t

theorem makeDirectoriesWithin_extends (fuel : Nat) (t : FileTree) (path : String) :
    Extends t (makeDirectoriesWithin fuel t path).2 := by
  induction fuel generalizing t path with
  | zero => exact .refl t
  | succ fuel ih =>
    rw [makeDirectoriesWithin]
    split
    · exact .refl t
    · have hfirst := ensureDirectory_extends t path
      split
      · next t' hmissing =>
        rw [hmissing] at hfirst
        split
        · exact hfirst
        · next parent _ =>
          have habove := ih t' parent
          split
          · next hfailed => rw [hfailed] at habove; exact hfirst.trans habove
          · next hmade =>
            rw [hmade] at habove
            exact (hfirst.trans habove).trans (ensureDirectory_extends _ path)
      · exact hfirst

theorem makeDirectories_extends (t : FileTree) (path : String) :
    Extends t (t.makeDirectories path).2 := makeDirectoriesWithin_extends _ t path

/-! ## Writing -/

/-- What is named by a path that leads to an entry: the last component that is not empty, in the
directory to which those in front of it lead. -/
theorem entry_of_target (h : t.target path = .ok (.entry place name)) :
    checkPath path = .ok () ∧ (name ≠ "." ∧ name ≠ "..") ∧ ∃ above,
      (Path.pieces (Path.join t.directory path)).reverse.dropWhile (· == "") = name :: above ∧
      t.walk [] above.reverse = .ok place ∧ t.node? (pathOf place) = some .directory := by
  simp only [FileTree.target, bind, Except.bind] at h
  cases hcheck : checkPath path with
  | error e => rw [hcheck] at h; cases h
  | ok _ =>
    rw [hcheck] at h
    simp only at h
    split at h
    · cases h
    · next last above hpieces =>
      cases hwalk : t.walk [] above.reverse with
      | error e => rw [hwalk] at h; cases h
      | ok reached =>
        rw [hwalk] at h
        simp only at h
        split at h
        · next hnode =>
          cases hordinary : last == "." || last == ".." with
          | true => rw [hordinary] at h; cases h
          | false =>
            rw [hordinary] at h
            cases h
            exact ⟨rfl, by simpa using hordinary, above, hpieces, hwalk, hnode⟩
        · cases h

/-- A path that ends with a name leads to an entry of this name. -/
theorem name_of_target {name' : String} (hname : name ≠ "")
    (hpieces : Path.pieces (Path.join t.directory path) = front ++ [name])
    (h : t.target path = .ok (.entry place name')) :
    name' = name ∧ t.walk [] front = .ok place := by
  obtain ⟨-, -, above, hdrop, hwalk, -⟩ := entry_of_target h
  rw [hpieces, List.reverse_append, List.reverse_singleton, List.singleton_append,
    List.dropWhile_cons_of_neg (by simpa using hname)] at hdrop
  obtain ⟨rfl, rfl⟩ := List.cons.inj hdrop
  rw [List.reverse_reverse] at hwalk
  exact ⟨rfl, hwalk⟩

/-- What it takes to write a file, and what comes of it. -/
theorem write_eq_ok (h : t.write path content = .ok t') : ∃ place name executable,
    t.target path = .ok (.entry place name) ∧ path.toList.getLast? ≠ some '/' ∧
      name.utf8ByteSize ≤ maxName ∧ t.node? (pathOf (name :: place)) ≠ some .directory ∧
      t' = t.set (name :: place) (.file content executable) := by
  simp only [write, bind, Except.bind] at h
  cases htarget : t.target path with
  | error e => rw [htarget] at h; cases h
  | ok target =>
    rw [htarget] at h
    cases target with
    | directory => cases h
    | entry place name =>
      simp only at h
      split at h
      · cases h
      · next hslash =>
        have hslash : path.toList.getLast? ≠ some '/' := by simpa using hslash
        split at h
        · cases h
        · next hshort =>
          have hshort : name.utf8ByteSize ≤ maxName := Nat.not_lt.mp hshort
          split at h
          · cases h
          · next executable hnode =>
            cases h
            exact ⟨place, name, executable, rfl, hslash, hshort, by rw [hnode]; nofun, rfl⟩
          · next hnode =>
            cases h
            exact ⟨place, name, false, rfl, hslash, hshort, by rw [hnode]; nofun, rfl⟩

/-- Where a file is written whose name is known. -/
theorem place_of_write (hname : EntryName name)
    (hpieces : Path.pieces (Path.join t.directory path) = front ++ [name])
    (h : t.write path content = .ok t') : checkPath path = .ok () ∧ ∃ above executable,
      t.walk [] front = .ok above ∧ t.node? (pathOf above) = some .directory ∧
      t.node? (pathOf (name :: above)) ≠ some .directory ∧
      t' = t.set (name :: above) (.file content executable) := by
  obtain ⟨place, name', executable, htarget, -, -, hnode, rfl⟩ := write_eq_ok h
  obtain ⟨rfl, hwalk⟩ := name_of_target hname.ne_empty hpieces htarget
  obtain ⟨hcheck, -, -, -, -, hplace⟩ := entry_of_target htarget
  exact ⟨hcheck, place, executable, hwalk, hplace, hnode, rfl⟩

/-- Only a path that ends with a name can be written. -/
theorem exists_entryName_of_write (h : t.write path content = .ok t') :
    ∃ name, EntryName name ∧ EndsWith path [name] := by
  obtain ⟨place, name', executable, htarget, hslash, hshort, -⟩ := write_eq_ok h
  obtain ⟨hcheck, hordinary, -⟩ := entry_of_target htarget
  have hne : path.toList ≠ [] := by
    intro hnil
    rw [String.toList_eq_nil_iff.mp hnil] at hcheck
    cases hcheck
  obtain ⟨name, hname, hpath⟩ := Path.exists_endsWith hne hslash
  obtain ⟨front, hpieces⟩ := hpath.join t.directory
  have hempty : name ≠ "" := fun he => hname.ne_nil (by rw [he]; rfl)
  obtain ⟨rfl, -⟩ := name_of_target hempty hpieces htarget
  exact ⟨name', ⟨hname, hordinary, hshort⟩, hpath⟩

theorem keeps_set (hplace : t.node? (pathOf place) ≠ some .directory) (node : FileNode) :
    Keeps t (t.set place node) := by
  intro path hpath
  rw [node?_set, if_neg]
  · exact hpath
  · rintro ⟨rfl, -⟩
    exact hplace hpath

/-- A file that was written is found with its content. -/
theorem find_of_write (hname : EntryName name) (hpath : EndsWith path [name])
    (h : t.write path content = .ok t') :
    ∃ executable, t'.find path = .ok (.file content executable) := by
  obtain ⟨front, hpieces⟩ := hpath.join t.directory
  obtain ⟨hcheck, above, executable, hwalk, habove, hnode, rfl⟩ := place_of_write hname hpieces h
  have hkeeps := keeps_set hnode (.file content executable)
  have hroot : pathOf (name :: above) ≠ "/" := fun he => hnode (by rw [he]; rfl)
  refine ⟨executable, (find_eq_ok_iff (t := t.set (name :: above) _) hname hpieces).mpr
    ⟨hcheck, above, ?_, hkeeps _ habove, ?_⟩⟩
  · exact walk_of_keeps hkeeps hwalk habove
  · rw [node?_set, if_pos ⟨rfl, hroot⟩]

/-! ## Other files -/

theorem pathOf_cons (name : String) (hplace : place ≠ []) :
    pathOf (name :: place) = pathOf place ++ "/" ++ name := by
  rw [pathOf, List.reverse_cons, String.intercalate_append_of_ne_nil (by simpa using hplace)
    (List.cons_ne_nil name []),
    String.intercalate_singleton, pathOf, String.append_assoc, String.append_assoc,
    String.append_assoc]

theorem pathOf_eq_append (name : String) (place : List String) :
    ∃ front, pathOf (name :: place) = front ++ "/" ++ name := by
  cases place with
  | nil =>
    refine ⟨"", ?_⟩
    rw [pathOf, String.empty_append]
    exact congrArg _ String.intercalate_singleton
  | cons above place => exact ⟨_, pathOf_cons name (List.cons_ne_nil above place)⟩

theorem name_eq_of_append {front front' : String} (hname : IsName name) (hother : IsName other)
    (h : front ++ "/" ++ name = front' ++ "/" ++ other) : name = other := by
  have hpieces (front : String) {name : String} (hname : IsName name) :
      Path.pieces (front ++ "/" ++ name) = Path.pieces front ++ [name] := by
    have hchars : (front ++ "/" ++ name).toList = front.toList ++ '/' :: name.toList := by simp
    rw [Path.pieces_append hchars, Path.pieces_of_isName hname]
    rfl
  have hsplit := congrArg Path.pieces h
  rw [hpieces front hname, hpieces front' hother] at hsplit
  exact List.singleton_inj.mp (List.append_inj' hsplit rfl).2

/-- Files of one name in directories of different names are at different places. -/
theorem pathOf_ne (name : String) (hname : IsName above) (hother : IsName other)
    (hne : above ≠ other) (place place' : List String) :
    pathOf (name :: above :: place) ≠ pathOf (name :: other :: place') := by
  intro h
  rw [pathOf_cons name (List.cons_ne_nil above place),
    pathOf_cons name (List.cons_ne_nil other place')] at h
  obtain ⟨front, hfront⟩ := pathOf_eq_append above place
  obtain ⟨front', hfront'⟩ := pathOf_eq_append other place'
  have habove : pathOf (above :: place) = pathOf (other :: place') :=
    String.append_left_inj _ |>.mp (String.append_left_inj _ |>.mp h)
  exact hne (name_eq_of_append hname hother (hfront ▸ hfront' ▸ habove))

/-- What is found stays when directories are added. -/
theorem find_of_extends (hname : EntryName name) (hpath : EndsWith path [name])
    (h : Extends t t') (hfind : t.find path = .ok node) : t'.find path = .ok node := by
  obtain ⟨front, hpieces⟩ := hpath.join t.directory
  obtain ⟨hcheck, place, hwalk, hplace, hnode⟩ := (find_eq_ok_iff hname hpieces).mp hfind
  rw [← h.directory] at hpieces
  exact (find_eq_ok_iff hname hpieces).mpr
    ⟨hcheck, place, walk_of_keeps h.keeps hwalk hplace, h.node?_eq hplace, h.node?_eq hnode⟩

/-- What is found stays when a file of that name is written into a directory of another name. -/
theorem find_of_write_of_ne {path' : String} (hname : EntryName name) (habove : EntryName above)
    (hother : EntryName other) (hne : above ≠ other) (hpath : EndsWith path [above, name])
    (hpath' : EndsWith path' [other, name]) (h : t.write path content = .ok t')
    (hfind : t.find path' = .ok node) : t'.find path' = .ok node := by
  obtain ⟨front, hpieces⟩ := hpath.join t.directory
  obtain ⟨front', hpieces'⟩ := hpath'.join t.directory
  rw [List.append_cons] at hpieces hpieces'
  obtain ⟨-, place, executable, hwalk, hplace, hfree, rfl⟩ := place_of_write hname hpieces h
  obtain ⟨hcheck, place', hwalk', hplace', hnode⟩ := (find_eq_ok_iff hname hpieces').mp hfind
  obtain ⟨rest, -, -, -, rfl⟩ := (walk_snoc_eq_ok_iff habove).mp hwalk
  obtain ⟨rest', -, -, -, rfl⟩ := (walk_snoc_eq_ok_iff hother).mp hwalk'
  have hkeeps := keeps_set hfree (.file content executable)
  refine (find_eq_ok_iff (t := t.set (name :: above :: rest) _) hname hpieces').mpr
    ⟨hcheck, other :: rest', walk_of_keeps hkeeps hwalk' hplace', hkeeps _ hplace', ?_⟩
  have hplaces := pathOf_ne name hother.isName habove.isName hne.symm rest' rest
  rw [node?_set, if_neg fun he => hplaces he.1, hnode]

end AnalyzerClient.FileTree
