import AnalyzerClient.Server.Launch
import Mathlib.Data.String.Basic

/-!
# The search for the server

A search path lists what stands between its colons (`Path.lists_directories`). The binary is the
first file among the configured path, the directory of installations and the directories of the
search path; all of these places are told when none of them is a file, and a file that is added
matters only in front of the one that was found (`resolve_first`).
-/

namespace AnalyzerClient

/-! ## Search paths -/

namespace Path

open String

theorem extract_piece (l m r : List Char) :
    Pos.Raw.extract (ofList (l ++ m ++ r)) ⟨utf8Len l⟩ ⟨utf8Len (l ++ m)⟩ = ofList m := by
  rw [utf8Len_append, extract_of_valid]

/-- A search for colons that stands inside of a piece, of which it went over `m`, behind `l`. -/
theorem splitOnAux_colon (l m r : List Char) (found : List String) :
    splitOnAux (ofList (l ++ m ++ r)) ":" ⟨utf8Len l⟩ ⟨utf8Len (l ++ m)⟩ 0 found =
      found.reverse ++ (List.splitOnPPrepend (· == ':') r m.reverse).map ofList := by
  induction r generalizing l m found with
  | nil =>
    rw [splitOnAux, if_pos ((atEnd_of_valid (l ++ m) []).mpr rfl), extract_piece]
    simp
  | cons d r ih =>
    have hend : ¬ Pos.Raw.atEnd (ofList (l ++ m ++ d :: r)) ⟨utf8Len (l ++ m)⟩ := by
      rw [atEnd_of_valid]; nofun
    have htext : l ++ m ++ d :: r = l ++ m ++ [d] ++ r := List.append_cons ..
    have hlength : utf8Len (l ++ m ++ [d]) = utf8Len (l ++ m) + d.utf8Size := by
      rw [utf8Len_append, utf8Len_cons, utf8Len_nil, Nat.zero_add]
    have hstart : Pos.Raw.unoffsetBy ⟨utf8Len (l ++ m)⟩ 0 = ⟨utf8Len (l ++ m)⟩ := rfl
    have hcolon : Pos.Raw.get ":" 0 = ':' := by decide
    rw [splitOnAux, if_neg hend, get_of_valid, List.headD_cons, hcolon, hstart, next_of_valid,
      List.splitOnPPrepend_cons_eq_if, ← hlength]
    by_cases hd : d = ':'
    · subst hd
      have hnext : Pos.Raw.next ":" 0 = ⟨1⟩ := by decide
      have hlast : Pos.Raw.atEnd ":" ⟨1⟩ = true := by decide
      have hback : Pos.Raw.unoffsetBy ⟨utf8Len (l ++ m ++ [':'])⟩ ⟨1⟩ = ⟨utf8Len (l ++ m)⟩ := by
        rw [hlength]; rfl
      have hrest := ih (l ++ m ++ [':']) [] (ofList m :: found)
      rw [List.append_nil, ← htext] at hrest
      simp only [hnext, hlast, if_true, hback, beq_self_eq_true]
      rw [extract_piece, hrest]
      simp
    · have hrest := ih l (m ++ [d]) found
      rw [← List.append_assoc, ← htext] at hrest
      rw [if_neg (by simpa using hd), if_neg (by simpa using hd), hrest]
      simp

theorem directories_some (text : String) :
    directories (some text) = (text.toList.splitOn ':').map ofList := by
  have hsplit := splitOnAux_colon [] [] text.toList []
  rw [directories, Option.map_some, Option.getD_some, splitOn, if_neg (by decide),
    List.splitOn_eq_splitOnP, List.splitOnP_eq_splitOnPPrepend]
  simpa using hsplit

/-- A search path lists these entries, in this order. -/
def Lists : Option String → List String → Prop
  | none, entries => entries = []
  | some text, entries =>
    entries ≠ [] ∧ ":".intercalate entries = text ∧ ∀ e ∈ entries, ':' ∉ e.toList

theorem not_mem_of_mem_splitOn {c : Char} {cs piece : List Char} (h : piece ∈ cs.splitOn c) :
    c ∉ piece := by
  induction cs generalizing piece with
  | nil =>
    rw [List.splitOn_nil, List.mem_singleton] at h
    exact h ▸ List.not_mem_nil
  | cons d cs ih =>
    obtain ⟨first, rest, hcs⟩ := List.exists_cons_of_ne_nil (List.splitOn_ne_nil c cs)
    rw [hcs] at ih
    rw [List.splitOn_cons_eq_if_modifyHead, hcs] at h
    split at h
    · next hd =>
      rcases List.mem_cons.mp h with rfl | h
      · exact List.not_mem_nil
      · exact ih h
    · next hd =>
      rcases List.mem_cons.mp h with rfl | h
      · rw [List.mem_cons]
        rintro (rfl | hc)
        · exact hd (beq_self_eq_true _)
        · exact ih List.mem_cons_self hc
      · exact ih (List.mem_cons_of_mem _ h)

theorem lists_directories (path : Option String) : Lists path (directories path) := by
  cases path with
  | none => rfl
  | some text =>
    have hchars (pieces : List (List Char)) : (pieces.map ofList).map String.toList = pieces := by
      rw [List.map_map]
      exact (List.map_congr_left fun _ _ => toList_ofList).trans (List.map_id _)
    rw [directories_some]
    refine ⟨?_, ?_, fun e he => ?_⟩
    · rw [Ne, List.map_eq_nil_iff]
      exact List.splitOn_ne_nil ':' text.toList
    · rw [← toList_inj, toList_intercalate, hchars]
      exact @List.intercalate_splitOn _ text.toList _ _ ':'
    · obtain ⟨piece, hpiece, rfl⟩ := List.mem_map.mp he
      rw [toList_ofList]
      exact not_mem_of_mem_splitOn hpiece

end Path

/-! ## Places -/

namespace Server

open AnalyzerClient.Settings (ServerSettings)

variable {isFile : String → Bool} {settings : ServerSettings} {install path : Option String}
  {places before : List String} {place : String}

/-- The first place that is a file, with the places in front of it. -/
structure FirstFile (isFile : String → Bool) (places before : List String) (place : String) :
    Prop where
  behind : ∃ after, places = before ++ place :: after
  file : isFile place = true
  noneBefore : ∀ p ∈ before, isFile p = false

/-- There is one first file. -/
theorem FirstFile.unique {before' : List String} {place' : String}
    (h : FirstFile isFile places before place) (h' : FirstFile isFile places before' place') :
    before' = before ∧ place' = place := by
  obtain ⟨after, hsplit⟩ := h.behind
  obtain ⟨after', hsplit'⟩ := h'.behind
  rcases List.append_eq_append_iff.mp (hsplit.symm.trans hsplit') with
    ⟨between, hbefore, hback⟩ | ⟨between, hbefore, hback⟩
  · cases between with
    | nil => exact ⟨hbefore.trans (List.append_nil _), (List.cons.inj hback).1.symm⟩
    | cons p between =>
      -- The first of the two files would stand in front of the second one.
      obtain rfl := (List.cons.inj hback).1
      exact absurd h.file (by simp [h'.noneBefore place (by simp [hbefore])])
  · cases between with
    | nil => exact ⟨(hbefore.trans (List.append_nil _)).symm, (List.cons.inj hback).1⟩
    | cons p between =>
      obtain rfl := (List.cons.inj hback).1
      exact absurd h'.file (by simp [h.noneBefore place' (by simp [hbefore])])

/-- The first file stays the first one exactly when no file is added in front of it. -/
theorem FirstFile.stays_iff (h : FirstFile isFile places before place) (added : String → Bool) :
    (∃ before', FirstFile (fun p => isFile p || added p) places before' place) ↔
      ∀ p ∈ before, added p = false := by
  constructor
  · rintro ⟨before', h'⟩
    have hnone : ∀ p ∈ before', isFile p = false := fun p hp =>
      (Bool.or_eq_false_iff.mp (h'.noneBefore p hp)).1
    obtain ⟨rfl, -⟩ := h.unique ⟨h'.behind, h.file, hnone⟩
    exact fun p hp => (Bool.or_eq_false_iff.mp (h'.noneBefore p hp)).2
  · intro hadded
    refine ⟨before, h.behind, ?_, fun p hp => ?_⟩
    · rw [h.file, Bool.true_or]
    · rw [h.noneBefore p hp, hadded p hp, Bool.or_false]

theorem resolve_eq_ok_iff : resolve isFile settings install path = .ok place ↔
    ∃ before, FirstFile isFile (candidates settings install path) before place := by
  have hfind : resolve isFile settings install path = .ok place ↔
      (candidates settings install path).find? isFile = some place := by
    rw [resolve]
    cases (candidates settings install path).find? isFile <;> simp
  rw [hfind, List.find?_eq_some_iff_append]
  constructor
  · rintro ⟨hfile, before, after, hsplit, hnone⟩
    exact ⟨before, ⟨after, hsplit⟩, hfile, fun p hp => by simpa using hnone p hp⟩
  · rintro ⟨before, ⟨after, hsplit⟩, hfile, hnone⟩
    exact ⟨hfile, before, after, hsplit, fun p hp => by simpa using hnone p hp⟩

theorem resolve_eq_error_iff {e : Protocol.Error} :
    resolve isFile settings install path = .error e ↔
      e = .serverNotFound serverName (candidates settings install path) ∧
        ∀ p ∈ candidates settings install path, isFile p = false := by
  rw [resolve]
  cases hfind : (candidates settings install path).find? isFile with
  | none =>
    have hnone : ∀ p ∈ candidates settings install path, isFile p = false := by
      simpa using List.find?_eq_none.mp hfind
    simp only [Except.error.injEq]
    exact ⟨fun he => ⟨he.symm, hnone⟩, fun h => h.1.symm⟩
  | some place =>
    have hplace := List.find?_some hfind
    simp only [reduceCtorEq, false_iff]
    rintro ⟨-, hnone⟩
    exact absurd hplace (by simp [hnone place (List.mem_of_find?_eq_some hfind)])

/-- The binary is the first place that is a file: the configured path, the server in the directory
of installations, the server in each directory of the search path, in the order of the path and as
often as it lists them. Without one, the error tells all of these places. A file that is added
behind the binary changes nothing; a place that is listed twice counts where it stands first. -/
theorem resolve_first (isFile : String → Bool) (settings : ServerSettings)
    (install path : Option String) :
    Path.Lists path (Path.directories path) ∧
      candidates settings install path = settings.path.toList ++
        (install.toList ++ Path.directories path).map (Path.join · serverName) ∧
      (∀ place, resolve isFile settings install path = .ok place ↔
        ∃ before, FirstFile isFile (candidates settings install path) before place) ∧
      (∀ e, resolve isFile settings install path = .error e ↔
        e = .serverNotFound serverName (candidates settings install path) ∧
          ∀ p ∈ candidates settings install path, isFile p = false) ∧
      ∀ before place, FirstFile isFile (candidates settings install path) before place →
        ∀ added : String → Bool,
          resolve (fun p => isFile p || added p) settings install path = .ok place ↔
            ∀ p ∈ before, added p = false := by
  refine ⟨Path.lists_directories path, rfl, fun place => resolve_eq_ok_iff,
    fun e => resolve_eq_error_iff, fun before place hfirst added => ?_⟩
  rw [resolve_eq_ok_iff]
  exact hfirst.stays_iff added

/-- Neither the configured path nor the server in the directory of installations is a file, and the
search path lists a directory twice. -/
theorem resolve_first_twice :
    let settings : ServerSettings := ⟨some "/opt/custom", []⟩
    let path := some "/a:/b:/a"
    resolve (fun p => p == "/b/webby-analyzer") settings (some "/data/bin") path =
        .ok "/b/webby-analyzer" ∧
      (∀ added : String → Bool,
        resolve (fun p => p == "/b/webby-analyzer" || added p) settings (some "/data/bin") path =
            .ok "/b/webby-analyzer" ↔
          ∀ p ∈ ["/opt/custom", "/data/bin/webby-analyzer", "/a/webby-analyzer"],
            added p = false) ∧
      resolve (fun _ => false) settings (some "/data/bin") path =
        .error (.serverNotFound "webby-analyzer"
          ["/opt/custom", "/data/bin/webby-analyzer", "/a/webby-analyzer", "/b/webby-analyzer",
            "/a/webby-analyzer"]) := by
  intro settings path
  have hplaces : candidates settings (some "/data/bin") path =
      ["/opt/custom", "/data/bin/webby-analyzer", "/a/webby-analyzer", "/b/webby-analyzer",
        "/a/webby-analyzer"] := by
    rw [candidates, Path.directories_some]
    decide
  have hfirst : FirstFile (fun p => p == "/b/webby-analyzer")
      (candidates settings (some "/data/bin") path)
      ["/opt/custom", "/data/bin/webby-analyzer", "/a/webby-analyzer"] "/b/webby-analyzer" :=
    ⟨⟨["/a/webby-analyzer"], hplaces⟩, by decide, by decide⟩
  obtain ⟨-, -, hok, -, hlater⟩ :=
    resolve_first (fun p => p == "/b/webby-analyzer") settings (some "/data/bin") path
  obtain ⟨-, -, -, herror, -⟩ := resolve_first (fun _ => false) settings (some "/data/bin") path
  exact ⟨(hok _).mpr ⟨_, hfirst⟩, hlater _ _ hfirst,
    (herror _).mpr ⟨by rw [hplaces]; rfl, fun _ _ => rfl⟩⟩

end Server

end AnalyzerClient
