import AnalyzerClient.Proofs.Runnable.Scanning

/-!
# What is read of a build's output

A build writes to two pipes, and goes on only as long as both are read. All loops that read them
stop behind the first line that is no text, the loop that drains the report behind a search among
them. So a pipe is read to its end exactly when no line is garbage but the last one, on the report's
side of the lines behind the one that stopped the search; and all progress is shown exactly when
nothing behind the first line of garbage would have been (`Scan.unread_iff`).
-/

namespace AnalyzerClient

/-! ## Reading lines as texts -/

/-- The items behind the first one that satisfies `p`. -/
def behindFirst {α : Type} (p : α → Bool) (as : List α) : List α := (as.dropWhile (!p ·)).tail

@[simp] theorem behindFirst_nil {α : Type} (p : α → Bool) : behindFirst p [] = [] := rfl

theorem behindFirst_cons {α : Type} (p : α → Bool) (a : α) (as : List α) :
    behindFirst p (a :: as) = if p a then as else behindFirst p as := by
  rw [behindFirst, List.dropWhile_cons]
  cases p a <;> simp [behindFirst]

/-- Nothing stands behind the first item that satisfies `p` when no item but the last one does. -/
theorem behindFirst_eq_nil_iff {α : Type} (p : α → Bool) (as : List α) :
    behindFirst p as = [] ↔ ∀ a ∈ as.dropLast, p a = false := by
  induction as with
  | nil => simp
  | cons a as ih =>
    rw [behindFirst_cons]
    cases as with
    | nil => cases p a <;> simp
    | cons b as =>
      rw [List.dropLast_cons_cons, List.forall_mem_cons, ← ih]
      cases p a <;> simp

namespace Text.Line

variable {line rest bs : List UInt8}

/-- Whether a line is no text. -/
def isGarbage (line : List UInt8) : Bool := (Utf8.decode? line).isNone

theorem decode_eq_ok_iff {s : String} :
    Utf8.decode bs = .ok s ↔ Utf8.decode? bs = some s := by
  rw [Utf8.decode]
  cases Utf8.decode? bs <;> simp

theorem lines_eq_nil_iff : lines bs = [] ↔ bs = [] := by
  constructor
  · intro h
    cases hnext : next? bs with
    | none => exact next?_eq_none hnext
    | some next =>
      rw [lines_of_next? hnext] at h
      cases h
  · rintro rfl
    exact lines_nil

@[simp] theorem readTexts_nil : readTexts [] = ⟨[], none, []⟩ := by
  rw [readTexts]
  rfl

theorem readTexts_of_next? (h : next? bs = some (line, rest)) : readTexts bs =
    match text line with
    | .error e => ⟨[], some e, rest⟩
    | .ok s => { readTexts rest with texts := s :: (readTexts rest).texts } := by
  rw [readTexts]
  split
  · next hnone => cases h.symm.trans hnone
  · next hsome =>
    cases h.symm.trans hsome
    rfl

/-- The lines of a stream that are read as texts are those in front of the first one that is none,
and those behind it are left. -/
theorem readTexts_lines (bs : List UInt8) :
    (readTexts bs).texts = ((lines bs).takeWhile (!isGarbage ·)).filterMap Utf8.decode? ∧
      lines (readTexts bs).rest = behindFirst isGarbage (lines bs) := by
  induction hn : bs.length using Nat.strongRecOn generalizing bs with
  | ind n ih =>
    cases hnext : next? bs with
    | none =>
      obtain rfl := next?_eq_none hnext
      simp
    | some next =>
      obtain ⟨line, rest⟩ := next
      obtain ⟨htexts, hrest⟩ := ih rest.length (hn ▸ length_next? hnext) rest rfl
      rw [lines_of_next? hnext, behindFirst_cons, List.takeWhile_cons, readTexts_of_next? hnext]
      cases htext : text line with
      | error e =>
        have hgarbage : isGarbage (chomp line) = true := by
          rw [isGarbage, Option.isNone_iff_eq_none]
          refine Option.eq_none_iff_forall_ne_some.mpr fun s hs => ?_
          cases htext.symm.trans (decode_eq_ok_iff.mpr hs)
        simp [hgarbage]
      | ok s =>
        have hs : Utf8.decode? (chomp line) = some s := decode_eq_ok_iff.mp htext
        have hgarbage : isGarbage (chomp line) = false := by rw [isGarbage, hs]; rfl
        simp [hgarbage, hs, htexts, hrest]

theorem length_readTexts (bs : List UInt8) :
    (readTexts bs).texts.length = ((lines bs).takeWhile (!isGarbage ·)).length := by
  rw [(readTexts_lines bs).1, List.length_filterMap_eq_countP, List.countP_eq_length]
  intro line hline
  simpa [isGarbage] using List.mem_takeWhile_imp hline

theorem readTexts_rest_eq_nil_iff (bs : List UInt8) :
    (readTexts bs).rest = [] ↔ ∀ line ∈ (lines bs).dropLast, isGarbage line = false := by
  rw [← lines_eq_nil_iff, (readTexts_lines bs).2, behindFirst_eq_nil_iff]

end Text.Line

open Text.Line

/-! ## Progress -/

/-- The status that a line of progress stands for: its text without the blanks in front, unless it
is blank or no text. -/
def status? (line : List UInt8) : Option String :=
  ((Text.Utf8.decode? line).filter (!Text.isBlankText ·)).map Text.trimStart

theorem isEmpty_trimStart (s : String) : (Text.trimStart s).isEmpty = Text.isBlankText s := by
  rw [Bool.eq_iff_iff, String.isEmpty_iff, Text.trimStart, String.ofList_eq_empty_iff,
    Text.Chars.trimStart, List.dropWhile_eq_nil_iff, Text.isBlankText, List.all_eq_true]

/-- Progress is read like any other lines, and is shown as far as it is read. -/
theorem progressOf_eq (octets : List UInt8) : progressOf octets =
    ((readTexts octets).texts.filterMap fun s =>
      if Text.isBlankText s then none else some (Text.trimStart s), (readTexts octets).error) := by
  induction hn : octets.length using Nat.strongRecOn generalizing octets with
  | ind n ih =>
    rw [progressOf]
    split
    · next hnext =>
      obtain rfl := next?_eq_none hnext
      simp
    · next line rest hnext =>
      rw [readTexts_of_next? hnext]
      cases text line with
      | error e => rfl
      | ok s =>
        dsimp only
        rw [ih rest.length (hn ▸ length_next? hnext) rest rfl, isEmpty_trimStart]
        cases hblank : Text.isBlankText s <;> simp [hblank]

/-- The lines of progress that are shown stand in front of the first one that is garbage. -/
theorem progressOf_fst (octets : List UInt8) :
    (progressOf octets).1 = ((lines octets).takeWhile (!isGarbage ·)).filterMap status? := by
  rw [progressOf_eq, (readTexts_lines octets).1, List.filterMap_filterMap]
  refine List.filterMap_congr fun line _ => ?_
  rw [status?]
  cases Text.Utf8.decode? line with
  | none => rfl
  | some s => cases hblank : Text.isBlankText s <;> simp [hblank, Option.filter]

theorem status?_of_isGarbage {line : List UInt8} (h : isGarbage line = true) :
    status? line = none := by
  rw [status?, Option.isNone_iff_eq_none.mp h]
  rfl

/-- All lines that could be shown are shown exactly when none of them stands behind garbage. -/
theorem progressOf_fst_eq_iff (octets : List UInt8) :
    (progressOf octets).1 = (lines octets).filterMap status? ↔
      ∀ line ∈ behindFirst isGarbage (lines octets), status? line = none := by
  rw [progressOf_fst]
  induction lines octets with
  | nil => simp
  | cons line ls ih =>
    rw [behindFirst_cons, List.takeWhile_cons]
    cases hgarbage : isGarbage line with
    | true => simp [status?_of_isGarbage hgarbage, eq_comm]
    | false => cases hstatus : status? line <;> simp [hstatus, ih]

/-! ## The report -/

namespace Scan

variable {filter : ArtifactFilter}

/-- Whether a line stops a search. -/
def isStop (filter : ArtifactFilter) (line : List UInt8) : Bool := (stop? filter line).isSome

theorem isStop_iff {line : List UInt8} :
    isStop filter line = true ↔ ∃ outcome, Stops filter line outcome := by
  simp only [isStop, Option.isSome_iff_exists, stop?_eq_some_iff]

theorem stops_head?_getD (filter : ArtifactFilter) (ls : List (List UInt8)) :
    ((stops filter ls).head?.getD (.error .notFound, [])).2 = behindFirst (isStop filter) ls := by
  induction ls with
  | nil => rfl
  | cons line ls ih =>
    rw [stops, behindFirst_cons, isStop]
    cases stop? filter line with
    | none => exact ih
    | some outcome => rfl

theorem lines_rest_findExecutable (filter : ArtifactFilter) (octets : List UInt8) :
    lines (findExecutable filter octets).rest = behindFirst (isStop filter) (lines octets) := by
  rw [← stops_head?_getD, ← (findFrom_eq filter 0 octets).1, findExecutable]

/-- How many lines are read behind a search. -/
theorem readableLines_eq (octets : List UInt8) :
    readableLines octets = ((lines octets).takeWhile (!isGarbage ·)).length := by
  rw [← length_readTexts]
  induction hn : octets.length using Nat.strongRecOn generalizing octets with
  | ind n ih =>
    rw [readableLines]
    split
    · next hnext =>
      obtain rfl := next?_eq_none hnext
      simp
    · next line rest hnext =>
      rw [readTexts_of_next? hnext]
      cases text line with
      | error e => rfl
      | ok s => rw [ih rest.length (hn ▸ length_next? hnext) rest rfl]; rfl

theorem lines_unread (filter : ArtifactFilter) (octets : List UInt8) :
    lines (unread filter octets) =
      behindFirst isGarbage (behindFirst (isStop filter) (lines octets)) := by
  rw [unread, (readTexts_lines _).2, lines_rest_findExecutable]

/-- Behind a search a report is read to its end exactly if no line behind the one that stopped the
search is garbage but the last one. -/
theorem unread_eq_nil_iff (filter : ArtifactFilter) (octets : List UInt8) :
    unread filter octets = [] ↔
      ∀ line ∈ (behindFirst (isStop filter) (lines octets)).dropLast, isGarbage line = false := by
  rw [← lines_eq_nil_iff, lines_unread, behindFirst_eq_nil_iff]

end Scan

/-- Of the lines of a build's report behind the one that stops the search, those in front of the
first garbage are read, and those behind it never are, so that the report is read to its end exactly
if none of them but the last one is garbage.
Of its progress the lines behind the first garbage are never read, and all of it that could be shown
is shown exactly if none of these lines could be. -/
theorem output_read_iff (filter : ArtifactFilter) (report progress : List UInt8) :
    (Scan.readableLines (Scan.findExecutable filter report).rest =
        ((behindFirst (Scan.isStop filter) (lines report)).takeWhile (!isGarbage ·)).length ∧
      lines (Scan.unread filter report) =
        behindFirst isGarbage (behindFirst (Scan.isStop filter) (lines report)) ∧
      (Scan.unread filter report = [] ↔
        ∀ line ∈ (behindFirst (Scan.isStop filter) (lines report)).dropLast,
          isGarbage line = false)) ∧
    (lines (unreadProgress progress) = behindFirst isGarbage (lines progress) ∧
      (unreadProgress progress = [] ↔
        ∀ line ∈ (lines progress).dropLast, isGarbage line = false)) ∧
    ((progressOf progress).1 = (lines progress).filterMap status? ↔
      ∀ line ∈ behindFirst isGarbage (lines progress), status? line = none) := by
  refine ⟨⟨?_, Scan.lines_unread filter report, Scan.unread_eq_nil_iff filter report⟩,
    ⟨(readTexts_lines progress).2, readTexts_rest_eq_nil_iff progress⟩,
    progressOf_fst_eq_iff progress⟩
  rw [Scan.readableLines_eq, Scan.lines_rest_findExecutable]

/-- A report that goes on with garbage behind its only artifact. -/
def garbledReport : List UInt8 :=
  Text.Utf8.encode "\x7b\"reason\":\"compiler-artifact\",\"executable\":\"/x\"\x7d\n" ++
    [0xFF, 10] ++ Text.Utf8.encode "y\n"

/-- The executable is found, but the last line is never read. Of progress that begins with garbage
nothing is shown. -/
theorem output_read_iff_garbled :
    (Scan.findExecutable .all garbledReport).outcome = .ok "/x" ∧
      Scan.unread .all garbledReport ≠ [] ∧ unreadProgress [0xFF, 10, 120, 10] ≠ [] ∧
      status? [120] = some "x" ∧ (progressOf [0xFF, 10, 120, 10]).1 = [] ∧
      (progressOf [0xFF, 10, 120, 10]).1 ≠ (lines [0xFF, 10, 120, 10]).filterMap status? := by
  have hfound : (Scan.findExecutable .all garbledReport).outcome = .ok "/x" := by decide +kernel
  obtain ⟨⟨-, -, hreport⟩, ⟨-, hprogress⟩, hshown⟩ :=
    output_read_iff .all garbledReport [0xFF, 10, 120, 10]
  refine ⟨hfound, fun hnil => ?_, fun hnil => ?_, by decide +kernel, by decide +kernel,
    fun hall => ?_⟩
  · exact absurd (hreport.mp hnil) (by decide +kernel)
  · exact absurd (hprogress.mp hnil) (by decide +kernel)
  · exact absurd (hshown.mp hall) (by decide +kernel)

end AnalyzerClient
