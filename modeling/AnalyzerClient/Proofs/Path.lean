import AnalyzerClient.Path

/-!
# The pieces of a path

A path that is joined to a directory keeps its pieces behind those of the directory
(`Path.EndsWith.join`), and a name in a directory is a piece of its own (`Path.endsWith_names`).
-/

namespace AnalyzerClient.Path

variable {a b name path : String} {names : List String}

/-- A text that is one piece of a path. -/
structure IsName (name : String) : Prop where
  ne_nil : name.toList ≠ []
  noSlash : '/' ∉ name.toList

instance (name : String) : Decidable (IsName name) :=
  decidable_of_iff (name.toList ≠ [] ∧ '/' ∉ name.toList) ⟨fun h => ⟨h.1, h.2⟩, fun h => ⟨h.1, h.2⟩⟩

/-- The last pieces of a path. -/
def EndsWith (path : String) (names : List String) : Prop := ∃ front, pieces path = front ++ names

theorem pieces_append {xs : List Char} (h : path.toList = xs ++ '/' :: b.toList) :
    pieces path = (xs.splitOn '/').map String.ofList ++ pieces b := by
  rw [pieces, h, List.splitOn_append_cons_self, List.map_append, pieces]

theorem pieces_of_isName (h : IsName name) : pieces name = [name] := by
  rw [pieces, List.splitOn_eq_singleton h.noSlash, List.map_singleton, String.ofList_toList]

theorem isAbsolute_of_isName (h : IsName name) : isAbsolute name = false := by
  cases hcs : name.toList with
  | nil => exact absurd hcs h.ne_nil
  | cons c cs =>
    have hc : c ≠ '/' := fun he => h.noSlash (by rw [hcs, he]; exact List.mem_cons_self)
    simpa [isAbsolute, hcs] using hc

/-- What a relative path is joined to is nothing, or it ends with a slash. -/
theorem toList_join (hb : isAbsolute b = false) :
    (join a b).toList = b.toList ∨ ∃ xs, (join a b).toList = xs ++ '/' :: b.toList := by
  rw [join, hb, if_neg Bool.false_ne_true]
  split
  · next h =>
    rcases Bool.or_eq_true .. |>.mp h with h | h
    · have ha : a = "" := by simpa using h
      exact .inl (by rw [ha]; rfl)
    · obtain ⟨xs, hxs⟩ := List.getLast?_eq_some_iff.mp (beq_iff_eq.mp h)
      exact .inr ⟨xs, by rw [String.toList_append, hxs, List.append_assoc]; rfl⟩
  · exact .inr ⟨a.toList, by simp⟩

theorem EndsWith.join (h : EndsWith b names) (a : String) : EndsWith (join a b) names := by
  obtain ⟨front, hfront⟩ := h
  cases hb : isAbsolute b with
  | true => exact ⟨front, by rw [Path.join, hb, if_pos rfl, hfront]⟩
  | false =>
    rcases toList_join (a := a) hb with h | ⟨xs, hxs⟩
    · exact ⟨front, by rw [String.toList_inj.mp h, hfront]⟩
    · exact ⟨(xs.splitOn '/').map String.ofList ++ front, by
        rw [pieces_append hxs, hfront, List.append_assoc]⟩

theorem EndsWith.last (h : EndsWith path [a, b]) : EndsWith path [b] := by
  obtain ⟨front, hfront⟩ := h
  exact ⟨front ++ [a], by rw [hfront, List.append_cons]⟩

theorem EndsWith.ne_nil (h : EndsWith path [name]) (hname : IsName name) : path.toList ≠ [] := by
  intro hnil
  obtain ⟨front, hfront⟩ := h
  have hpieces : pieces path = [] ++ [""] := by rw [pieces, hnil]; rfl
  have hempty := (List.append_inj' (hfront.symm.trans hpieces) rfl).2
  exact hname.ne_nil (by rw [List.singleton_inj.mp hempty]; rfl)

theorem EndsWith.getLast?_ne (h : EndsWith path [name]) (hname : IsName name) :
    path.toList.getLast? ≠ some '/' := by
  intro hlast
  obtain ⟨front, hfront⟩ := h
  obtain ⟨xs, hxs⟩ := List.getLast?_eq_some_iff.mp hlast
  have hpieces : pieces path = (xs.splitOn '/').map String.ofList ++ [""] :=
    pieces_append (b := "") hxs
  have hempty := (List.append_inj' (hfront.symm.trans hpieces) rfl).2
  exact hname.ne_nil (by rw [List.singleton_inj.mp hempty]; rfl)

/-- A path that does not end with a slash ends with a name. -/
theorem exists_endsWith (hne : path.toList ≠ []) (hlast : path.toList.getLast? ≠ some '/') :
    ∃ name, IsName name ∧ EndsWith path [name] := by
  by_cases hslash : '/' ∈ path.toList
  · obtain ⟨back, front, hreverse, hback⟩ :=
      List.eq_append_cons_of_mem (List.mem_reverse.mpr hslash)
    have hchars : path.toList = front.reverse ++ '/' :: back.reverse := by
      rw [← List.reverse_reverse path.toList, hreverse]
      simp
    have hname : IsName (String.ofList back.reverse) := by
      refine ⟨fun hnil => hlast ?_, by simpa using hback⟩
      rw [hchars, ← String.toList_ofList (l := back.reverse), hnil]
      simp
    refine ⟨_, hname, (front.reverse.splitOn '/').map String.ofList, ?_⟩
    rw [← pieces_of_isName hname]
    exact pieces_append (by rw [hchars, String.toList_ofList])
  · have hname : IsName path := ⟨hne, hslash⟩
    exact ⟨path, hname, [], pieces_of_isName hname⟩

/-- A name in a directory that is itself a name in a directory. -/
theorem endsWith_names (directory : String) {above name : String} (habove : IsName above)
    (hname : IsName name) : EndsWith (join (join directory above) name) [above, name] := by
  have hdirectory : EndsWith (join directory above) [above] :=
    EndsWith.join ⟨[], pieces_of_isName habove⟩ directory
  have hnil : (join directory above) ≠ "" := fun h =>
    hdirectory.ne_nil habove (by rw [h]; rfl)
  have hjoin : join (join directory above) name = join directory above ++ "/" ++ name := by
    rw [join, isAbsolute_of_isName hname, if_neg Bool.false_ne_true, if_neg]
    simpa [hnil] using hdirectory.getLast?_ne habove
  obtain ⟨front, hfront⟩ := hdirectory
  refine ⟨front, ?_⟩
  have hchars : (join (join directory above) name).toList =
      (join directory above).toList ++ '/' :: name.toList := by
    rw [hjoin, String.toList_append, String.toList_append, List.append_assoc]; rfl
  have hpieces : ((join directory above).toList.splitOn '/').map String.ofList = front ++ [above] :=
    hfront
  rw [pieces_append hchars, pieces_of_isName hname, hpieces, List.append_assoc]
  rfl

end AnalyzerClient.Path
