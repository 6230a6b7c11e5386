import AnalyzerClient.Proofs.Json.RoundTrip
import AnalyzerClient.Proofs.Text.Blank
import AnalyzerClient.Proofs.Text.Line
import AnalyzerClient.Runnable.BuildOutput

/-!
# Searching a build's report again and again

A search stops at a line that is no text or that holds an executable (`Scan.Stops`), and the next
search begins behind that line. Searches that follow each other give the lines that stop a search
one by one, and no other line matters (`Scan.successive_enumerates`).
-/

namespace AnalyzerClient.Scan

open Json (isGap skipGap)
open Json.Draft (readValue)
open Text (isBlank isBlankText)
open Text.Line (chomp lines lines_nil lines_of_next? next? next?_eq_none)

variable {filter : ArtifactFilter} {line : List UInt8} {octets : List UInt8}

/-! ## The lines that stop a search -/

/-- A line stops a search, and this is the outcome: the line is no text, or it is a message about an
artifact of the right kind and name with an executable. -/
inductive Stops (filter : ArtifactFilter) (line : List UInt8) : Except ScanFailure String → Prop
  | unreadable {e : Text.Utf8.Error} (h : Text.Utf8.decode line = .error e) :
    Stops filter line (.error (.unreadable e))
  | executable {text path : String} {m : BuildMessage} (htext : Text.Utf8.decode line = .ok text)
    (hmessage : BuildMessage.ofText text = .ok m) (hreason : m.reason = "compiler-artifact")
    (hkind : ∀ kind, filter.kind = some kind → kind.name ∈ m.artifact.kinds)
    (hname : ∀ name, filter.name = some name → m.artifact.name = name)
    (hpath : m.executable = some path) (hne : path ≠ "") : Stops filter line (.ok path)

/-- The outcome of a line that stops a search. -/
def stop? (filter : ArtifactFilter) (line : List UInt8) : Option (Except ScanFailure String) :=
  match Text.Utf8.decode line with
  | .error e => some (.error (.unreadable e))
  | .ok text => ((BuildMessage.ofText text).toOption.bind (·.executableFor filter)).map .ok

theorem accepts_iff {a : Artifact} : filter.accepts a = true ↔
    (∀ kind, filter.kind = some kind → kind.name ∈ a.kinds) ∧
      ∀ name, filter.name = some name → a.name = name := by
  simp only [ArtifactFilter.accepts, Bool.and_eq_true, Option.all_eq_true, List.contains_iff_mem,
    beq_iff_eq]
  exact and_congr_right' (forall₂_congr fun _ _ => eq_comm)

theorem executableFor_eq_some_iff {m : BuildMessage} {path : String} :
    m.executableFor filter = some path ↔ (m.reason = "compiler-artifact" ∧
      filter.accepts m.artifact = true) ∧ m.executable = some path ∧ path ≠ "" := by
  rw [BuildMessage.executableFor]
  split
  · next h =>
    have hm : m.reason = "compiler-artifact" ∧ filter.accepts m.artifact = true := by
      simpa [BuildMessage.artifactReason] using h
    simp [hm, Option.filter_eq_some_iff]
  · next h =>
    have hm : ¬ (m.reason = "compiler-artifact" ∧ filter.accepts m.artifact = true) := by
      simpa [BuildMessage.artifactReason] using h
    simp [hm]

theorem stop?_eq_some_iff {outcome : Except ScanFailure String} :
    stop? filter line = some outcome ↔ Stops filter line outcome := by
  unfold stop?
  constructor
  · intro h
    split at h
    · next htext => cases h; exact .unreadable htext
    · next htext =>
      simp only [Option.map_eq_some_iff, Option.bind_eq_some_iff] at h
      obtain ⟨path, ⟨m, hmessage, hpath⟩, rfl⟩ := h
      obtain ⟨⟨hreason, haccepts⟩, hpath, hne⟩ := executableFor_eq_some_iff.mp hpath
      obtain ⟨hkind, hname⟩ := accepts_iff.mp haccepts
      cases hread : BuildMessage.ofText _ with
      | error f => rw [hread] at hmessage; cases hmessage
      | ok m' =>
        rw [hread] at hmessage
        cases hmessage
        exact .executable htext hread hreason hkind hname hpath hne
  · intro h
    cases h with
    | unreadable htext => rw [htext]
    | executable htext hmessage hreason hkind hname hpath hne =>
      have hfor := executableFor_eq_some_iff.mpr
        ⟨⟨hreason, accepts_iff.mpr ⟨hkind, hname⟩⟩, hpath, hne⟩
      simp [htext, hmessage, Except.toOption, hfor]

/-! ## Blank lines -/

/-- Blanks that are read for a value are at fault. -/
theorem readValue_of_blank (fuel depth : Nat) {cs : List Char} (h : ∀ c ∈ cs, isBlank c = true) :
    ∃ f, readValue .characters (fuel + 1) depth cs = (.fault f, none) := by
  have hrest : ∀ c ∈ skipGap cs, isBlank c = true := fun c hc =>
    h c ((List.dropWhile_sublist isGap).subset hc)
  cases hcs : skipGap cs with
  | nil =>
    rw [readValue, hcs]
    exact ⟨_, rfl⟩
  | cons c rest =>
    have hc : isBlank c = true := hrest c (by rw [hcs]; exact List.mem_cons_self)
    have hne : ∀ a : Char, isBlank a = false → c ≠ a := by
      intro a ha hca
      rw [hca, ha] at hc
      cases hc
    have hdigit : Text.Numeral.isDigit c = false := by
      apply Bool.eq_false_iff.mpr
      intro hd
      rw [Text.Numeral.isBlank_of_isDigit hd] at hc
      cases hc
    have hnumber : ¬ (decide (c = '-') || Text.Numeral.isDigit c) = true := by
      simp [hdigit, hne '-' (by decide)]
    rw [Json.readValue_of_scalar hcs (hne '[' (by decide)) (hne '{' (by decide)),
      Json.Draft.ofScalar, if_neg hnumber]
    · exact ⟨_, rfl⟩
    · exact hne '"' (by decide)
    · exact hne 'n' (by decide)
    · exact hne 't' (by decide)
    · exact hne 'f' (by decide)

/-- A blank text is no message. -/
theorem ofText_of_isBlankText {text : String} (h : isBlankText text = true) :
    ∃ f, BuildMessage.ofText text = .error f := by
  obtain ⟨f, hf⟩ := readValue_of_blank (3 * text.toList.length + 2) Json.Draft.maxDepth
    (List.all_eq_true.mp h)
  refine ⟨f, ?_⟩
  rw [BuildMessage.ofText, Json.Decoder.ofText, Json.Draft.ofText, hf]
  rfl

/-! ## One search -/

/-- The outcome of a search that stops at a line with a meaning. -/
def outcomeOf? : LineMeaning → Option (Except ScanFailure String)
  | .executable path => some (.ok path)
  | .unreadable e => some (.error (.unreadable e))
  | .malformed | .noise => none

theorem outcomeOf?_ofLine (filter : ArtifactFilter) (line : List UInt8) :
    outcomeOf? (LineMeaning.ofLine filter line) = stop? filter (chomp line) := by
  unfold LineMeaning.ofLine stop? Text.Line.text
  cases Text.Utf8.decode (chomp line) with
  | error e => rfl
  | ok text =>
    dsimp only
    split
    · next hblank =>
      obtain ⟨f, hf⟩ := ofText_of_isBlankText hblank
      rw [hf]
      rfl
    · cases BuildMessage.ofText text with
      | error f => rfl
      | ok m =>
        simp only [Except.toOption, Option.bind_some]
        cases m.executableFor filter <;> rfl

/-- The lines that stop a search, each with its outcome and the lines behind it. -/
def stops (filter : ArtifactFilter) :
    List (List UInt8) → List (Except ScanFailure String × List (List UInt8))
  | [] => []
  | line :: after =>
    match stop? filter line with
    | some outcome => (outcome, after) :: stops filter after
    | none => stops filter after

theorem stops_map_fst (filter : ArtifactFilter) (ls : List (List UInt8)) :
    (stops filter ls).map (·.1) = ls.filterMap (stop? filter) := by
  induction ls with
  | nil => rfl
  | cons line ls ih =>
    rw [stops]
    cases h : stop? filter line <;> simp [h, ih]

/-- A search finds the first line that stops it, and leaves the lines behind. -/
theorem findFrom_eq (filter : ArtifactFilter) (skipped : Nat) (octets : List UInt8) :
    ((findFrom filter skipped octets).outcome, lines (findFrom filter skipped octets).rest) =
        (stops filter (lines octets)).head?.getD (.error .notFound, []) ∧
      stops filter (lines (findFrom filter skipped octets).rest) =
        (stops filter (lines octets)).tail := by
  induction hn : octets.length using Nat.strongRecOn generalizing octets skipped with
  | ind n ih =>
    rw [findFrom]
    split
    · next hnext =>
      obtain rfl := next?_eq_none hnext
      simp [stops]
    · next line rest hnext =>
      have hlt := Text.Line.length_next? hnext
      have hrest := fun skipped => ih rest.length (hn ▸ hlt) skipped rest rfl
      rw [lines_of_next? hnext, stops, ← outcomeOf?_ofLine]
      cases LineMeaning.ofLine filter line with
      | executable path => exact ⟨rfl, rfl⟩
      | unreadable e => exact ⟨rfl, rfl⟩
      | malformed => exact hrest (skipped + 1)
      | noise => exact hrest skipped

/-! ## Searches one after the other -/

/-- The results of so many searches, each of which goes on where the one before it stopped. -/
def successive (filter : ArtifactFilter) : (count : Nat) → List UInt8 → List ScanResult
  | 0, _ => []
  | count + 1, octets =>
    let result := findExecutable filter octets
    result :: successive filter count result.rest

theorem map_successive (filter : ArtifactFilter) (count : Nat) (octets : List UInt8) :
    (successive filter count octets).map (fun r => (r.outcome, lines r.rest)) =
      (List.range count).map fun j =>
        (stops filter (lines octets))[j]?.getD (.error .notFound, []) := by
  induction count generalizing octets with
  | zero => rfl
  | succ count ih =>
    obtain ⟨hfirst, htail⟩ := findFrom_eq filter 0 octets
    have hrest := ih (findExecutable filter octets).rest
    rw [findExecutable, htail] at hrest
    rw [successive, List.map_cons, List.range_succ_eq_map, List.map_cons, List.map_map,
      findExecutable, hrest, hfirst, List.head?_eq_getElem?]
    simp only [List.getElem?_tail]
    rfl

/-- The outcome of every search is that of the next line that stops one. -/
theorem outcome_successive (filter : ArtifactFilter) (count : Nat) (octets : List UInt8) :
    (successive filter count octets).map (·.outcome) = (List.range count).map fun j =>
      ((lines octets).filterMap (stop? filter))[j]?.getD (.error .notFound) := by
  have hmap := congrArg (List.map (·.1)) (map_successive filter count octets)
  rw [List.map_map, List.map_map] at hmap
  refine hmap.trans (List.map_congr_left fun j _ => ?_)
  rw [← stops_map_fst, List.getElem?_map]
  cases h : (stops filter (lines octets))[j]? <;> simp [h]

/-- What each search leaves are the lines behind the one that stopped it. -/
theorem rest_successive (filter : ArtifactFilter) (count : Nat) (octets : List UInt8) :
    (successive filter count octets).map (fun r => lines r.rest) = (List.range count).map fun j =>
      ((stops filter (lines octets))[j]?.map (·.2)).getD [] := by
  have hmap := congrArg (List.map (·.2)) (map_successive filter count octets)
  rw [List.map_map, List.map_map] at hmap
  refine hmap.trans (List.map_congr_left fun j _ => ?_)
  cases h : (stops filter (lines octets))[j]? <;> simp [h]

/-- Searches that follow each other enumerate the lines that stop a search, and all other lines
count for nothing. -/
theorem successive_enumerates (filter : ArtifactFilter) (count : Nat) (octets : List UInt8) :
    (∀ line outcome, stop? filter line = some outcome ↔ Stops filter line outcome) ∧
      (successive filter count octets).map (·.outcome) = (List.range count).map (fun j =>
        ((lines octets).filterMap (stop? filter))[j]?.getD (.error .notFound)) ∧
      (successive filter count octets).map (fun r => lines r.rest) =
        (List.range count).map (fun j => ((stops filter (lines octets))[j]?.map (·.2)).getD []) ∧
      ∀ other, (lines other).filterMap (stop? filter) = (lines octets).filterMap (stop? filter) →
        (successive filter count other).map (·.outcome) =
          (successive filter count octets).map (·.outcome) := by
  refine ⟨fun _ _ => stop?_eq_some_iff, outcome_successive .., rest_successive .., ?_⟩
  intro other hother
  rw [outcome_successive, outcome_successive, hother]

/-- A report with an artifact behind a line that is no text. -/
def briefReport : List UInt8 := 0xFF :: 10 :: Text.Utf8.encode
  "\x7b\"reason\":\"compiler-artifact\",\"executable\":\"/x\"\x7d\n"

/-- The same with other lines around. -/
def wordyReport : List UInt8 :=
  Text.Utf8.encode "\r\n" ++ briefReport ++ Text.Utf8.encode "\x7b\x7d\nFinished"

theorem successive_enumerates_wordyReport :
    (lines briefReport).filterMap (stop? .all) = (lines wordyReport).filterMap (stop? .all) ∧
      (successive .all 3 briefReport).map (·.outcome) =
        (successive .all 3 wordyReport).map (·.outcome) ∧
      (successive .all 3 wordyReport).map (·.outcome) =
        [.error (.unreadable ⟨0, some 1⟩), .ok "/x", .error .notFound] := by
  have hbrief : (lines briefReport).filterMap (stop? .all) =
      [.error (.unreadable ⟨0, some 1⟩), .ok "/x"] := by decide +kernel
  have hwordy : (lines wordyReport).filterMap (stop? .all) =
      [.error (.unreadable ⟨0, some 1⟩), .ok "/x"] := by decide +kernel
  obtain ⟨-, houtcomes, -, hother⟩ := successive_enumerates .all 3 wordyReport
  have hsame := hbrief.trans hwordy.symm
  exact ⟨hsame, hother briefReport hsame, by rw [houtcomes, hwordy]; rfl⟩

end AnalyzerClient.Scan
