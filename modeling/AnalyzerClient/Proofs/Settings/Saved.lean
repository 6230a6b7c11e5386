import AnalyzerClient.Proofs.FileTree
import AnalyzerClient.Proofs.Json.Readable
import AnalyzerClient.Proofs.Json.TooDeep
import AnalyzerClient.Proofs.Settings.Comment
import AnalyzerClient.Settings.Layer

/-!
# Layers that are saved

A layer that is saved is read again with the same values, in whatever order they are written
(`Layer.reload_of_save`), unless one of them is nested so deep that the file is nested deeper than a
text may be (`Layer.ofText_render_deep`).
-/

namespace AnalyzerClient.Settings.Layer

open AnalyzerClient.Json (IntegralMembers ProperMembers SoundMembers depthMembers)
open AnalyzerClient.FileTree (EntryName Extends)
open AnalyzerClient.Path (EndsWith)

variable {l : Layer} {values : Dict Json} {p : Priority} {text path name above other : String}
  {files files' : FileTree} {n : Nat}

/-! ## Texts -/

/-- The values that a text gives are no deeper than they may be in an object. -/
theorem sound_of_ofText (h : ofText text p = .ok l) :
    l.priority = p ∧ SoundMembers (Json.Draft.maxDepth - 1) l.values := by
  simp only [ofText] at h
  split at h
  · next v hv =>
    cases h
    refine ⟨rfl, ?_⟩
    cases v with
    | object members => exact Json.soundMembers_of_ofChars hv
    | _ => exact .nil _
  · cases h

theorem toList_render (l : Layer) :
    l.render.toList = Json.spreadChars .pretty 0 (.object l.values) := by
  rw [render, Json.pretty, String.toList_ofList, Json.spreadChars_pretty]

theorem stripComments_render (l : Layer) : stripComments l.render.toList = l.render.toList := by
  rw [toList_render]
  exact stripComments_spread .pretty 0 _

/-- The order in which the values of a layer are written does not matter. -/
theorem ofText_render_of_perm (hsorted : values.Sorted) (horder : l.values.Perm values)
    (hp : ProperMembers values) (hi : IntegralMembers values)
    (hd : depthMembers values < Json.Draft.maxDepth) :
    ofText l.render p = .ok ⟨p, none, values⟩ := by
  have hmem {entry : String × Json} (h : entry ∈ l.values) : entry ∈ values := horder.mem_iff.mp h
  have hread : Json.ofChars l.render.toList = .ok (.object values) := by
    rw [toList_render, ← Dict.ofList_of_perm hsorted horder]
    refine Json.ofChars_spread_members ?_ ?_ (Nat.lt_of_le_of_lt ?_ hd)
    · exact Json.properMembers_iff.mpr fun entry h => Json.properMembers_iff.mp hp entry (hmem h)
    · exact Json.integralMembers_iff.mpr fun entry h =>
        Json.integralMembers_iff.mp hi entry (hmem h)
    · exact Json.depthMembers_le_iff.mpr fun entry h =>
        Json.depthMembers_le_iff.mp (Nat.le_refl _) entry (hmem h)
  rw [ofText, stripComments_render]
  simp only [hread]
  rfl

theorem ofText_render (h : SoundMembers n l.values) (hi : IntegralMembers l.values)
    (hd : depthMembers l.values < Json.Draft.maxDepth) :
    ofText l.render p = .ok ⟨p, none, l.values⟩ :=
  ofText_render_of_perm h.sorted (.refl _) h.proper hi hd

theorem ofText_render_deep (h : SoundMembers n l.values) (hi : IntegralMembers l.values)
    (hd : Json.Draft.maxDepth ≤ depthMembers l.values) : ∃ e, ofText l.render p = .error e := by
  obtain ⟨f, hf⟩ : ∃ f, Json.ofChars l.render.toList = .error f := by
    rw [toList_render]
    exact Json.ofChars_spread_deep .pretty 0 ⟨h.sorted, h.proper⟩ hi (Nat.lt_succ_of_le hd)
  refine ⟨.invalidText none f (f.line l.render.toList), ?_⟩
  rw [ofText, stripComments_render]
  simp only [hf]

/-! ## Files -/

theorem ofFile_eq_of_find (h : files'.find path = files.find path) (p : Priority) :
    ofFile files' path p = ofFile files path p := by
  simp only [ofFile, FileTree.readText, FileTree.read, h]

theorem ofFile_eq_ok (h : ofFile files path p = .ok l) : ∃ text l', ofText text p = .ok l' ∧
    l = { l' with source := some path } := by
  simp only [ofFile, bind, Except.bind] at h
  cases hread : files.readText path with
  | error e => rw [hread] at h; cases h
  | ok text =>
    rw [hread] at h
    cases htext : ofText text p with
    | error e => simp [Except.mapError, htext] at h
    | ok l' =>
      simp only [Except.mapError, htext] at h
      cases h
      exact ⟨text, l', htext, rfl⟩

theorem ofFile_of_find {content : List UInt8} {executable : Bool}
    (hfind : files.find path = .ok (.file content executable))
    (htext : Text.Utf8.decode? content = some text) :
    ofFile files path p =
      ((ofText text p).mapError (locate path)).map fun l => { l with source := some path } := by
  have hread : files.readText path = .ok text := by
    simp only [FileTree.readText, FileTree.read, hfind, bind, Except.bind, pure, Except.pure, htext]
  simp only [ofFile, hread, bind, Except.bind, Except.mapError]
  cases ofText text p <;> rfl

theorem write_of_made (made : Except OsError Unit × FileTree) {content : List UInt8}
    (h : (match made.1 with
      | .error e => (.error (.access path e), made.2)
      | .ok () => match made.2.write path content with
        | .error e => (.error (.access path e), made.2)
        | .ok files => (.ok (), files) : Except Error Unit × FileTree) = (.ok (), files')) :
    made.2.write path content = .ok files' := by
  split at h
  · cases h
  · split at h
    · cases h
    · next hwrite => cases h; exact hwrite

/-- A layer is saved by making directories and writing its text. -/
theorem save_eq_ok (h : l.save files path = (.ok (), files')) : ∃ made, Extends files made ∧
    made.write path (Text.Utf8.encode l.render) = .ok files' := by
  rw [save] at h
  cases hparent : Path.parent? path with
  | none =>
    rw [hparent] at h
    exact ⟨files, .refl files, write_of_made (.ok (), files) h⟩
  | some parent =>
    rw [hparent] at h
    exact ⟨_, FileTree.makeDirectories_extends files parent, write_of_made _ h⟩

theorem find_of_save (hname : EntryName name) (hpath : EndsWith path [name])
    (h : l.save files path = (.ok (), files')) :
    ∃ executable, files'.find path = .ok (.file (Text.Utf8.encode l.render) executable) := by
  obtain ⟨made, -, hwrite⟩ := save_eq_ok h
  exact FileTree.find_of_write hname hpath hwrite

theorem directory_of_save (h : l.save files path = (.ok (), files')) :
    files'.directory = files.directory := by
  obtain ⟨made, hextends, hwrite⟩ := save_eq_ok h
  obtain ⟨_, _, _, -, -, -, -, rfl⟩ := FileTree.write_eq_ok hwrite
  exact hextends.directory

theorem ofFile_of_save (hname : EntryName name) (hpath : EndsWith path [name])
    (h : l.save files path = (.ok (), files')) (p : Priority) :
    ofFile files' path p =
      ((ofText l.render p).mapError (locate path)).map fun l => { l with source := some path } := by
  obtain ⟨executable, hfind⟩ := find_of_save hname hpath h
  exact ofFile_of_find hfind (Text.Utf8.decode?_encode l.render)

/-- What is found in a directory of another name stays when a layer is saved. -/
theorem find_of_save_of_ne {path' : String} {node : FileNode} (hname : EntryName name)
    (habove : EntryName above) (hother : EntryName other) (hne : above ≠ other)
    (hpath : EndsWith path [above, name]) (hpath' : EndsWith path' [other, name])
    (h : l.save files path = (.ok (), files')) (hfind : files.find path' = .ok node) :
    files'.find path' = .ok node := by
  obtain ⟨made, hextends, hwrite⟩ := save_eq_ok h
  exact FileTree.find_of_write_of_ne hname habove hother hne hpath hpath' hwrite
    (FileTree.find_of_extends hname hpath'.last hextends hfind)

/-! ## Layers that are read again -/

/-- A text of the printer has no comments, and a layer that was saved is read from its file again:
for every path to which it could be saved, for every order in which its values are written, and for
the deepest values that can stand in the object of a file. -/
theorem reload_of_save :
    (∀ v : Json, stripComments v.pretty.toList = v.pretty.toList) ∧
      ∀ (l : Layer) (values : Dict Json) (files files' : FileTree) (path : String) (p : Priority),
        values.Sorted → l.values.Perm values →
        (∀ entry ∈ values, entry.2.Proper ∧ entry.2.Integral ∧ entry.2.depth ≤ 126) →
        l.save files path = (.ok (), files') →
        ofFile files' path p = .ok ⟨p, some path, values⟩ := by
  constructor
  · intro v
    rw [Json.pretty, String.toList_ofList, ← Json.spreadChars_pretty]
    exact stripComments_spread .pretty 0 v
  · intro l values files files' path p hsorted horder hvalues hsave
    -- A path that could be written ends with the name of an entry.
    obtain ⟨made, -, hwrite⟩ := save_eq_ok hsave
    obtain ⟨name, hname, hpath⟩ := FileTree.exists_entryName_of_write hwrite
    have htext : ofText l.render p = .ok ⟨p, none, values⟩ := by
      refine ofText_render_of_perm hsorted horder ?_ ?_ (Nat.lt_succ_of_le ?_)
      · exact Json.properMembers_iff.mpr fun entry h => (hvalues entry h).1
      · exact Json.integralMembers_iff.mpr fun entry h => (hvalues entry h).2.1
      · exact Json.depthMembers_le_iff.mpr fun entry h => (hvalues entry h).2.2
    rw [ofFile_of_save hname hpath hsave, htext]
    rfl

/-- A layer with the marks of comments and strings in a key and in a value. -/
def marked : Layer where
  priority := .user
  source := none
  values := [("b /* \"", .string "\\\" // */ \n"), ("a", .array [.number (.int (-1)), .object []])]

theorem reload_of_save_marked : ∃ files',
    marked.save ⟨[("/w", .directory)], "/w"⟩ "new/settings.json" = (.ok (), files') ∧
      ofFile files' "new/settings.json" .workspace =
        .ok ⟨.workspace, some "new/settings.json", marked.values.reverse⟩ := by
  have hsave : ∃ files', marked.save ⟨[("/w", .directory)], "/w"⟩ "new/settings.json" =
      (.ok (), files') := ⟨_, rfl⟩
  obtain ⟨files', hsave⟩ := hsave
  have hsorted : Dict.Sorted marked.values.reverse :=
    List.pairwise_pair.mpr (by decide : "a" < "b /* \"")
  have harray : (Json.array [.number (.int (-1)), .object []]).Proper :=
    ⟨⟨by decide, by decide⟩, ⟨.nil, trivial⟩, trivial⟩
  have hvalues : ∀ entry ∈ marked.values.reverse,
      entry.2.Proper ∧ entry.2.Integral ∧ entry.2.depth ≤ 126 :=
    List.forall_mem_cons.mpr ⟨⟨harray, ⟨rfl, trivial, trivial⟩, by decide⟩,
      List.forall_mem_singleton.mpr ⟨trivial, trivial, by decide⟩⟩
  exact ⟨files', hsave, reload_of_save.2 marked _ _ _ _ _ hsorted (List.reverse_perm _).symm hvalues
    hsave⟩

end AnalyzerClient.Settings.Layer
