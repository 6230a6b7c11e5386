import AnalyzerClient.Proofs.Json.Record
import AnalyzerClient.Proofs.Runnable.Scanning

/-!
# Noise in a build's report

A build's report may hold lines that are no messages about artifacts. Such a line is harmless unless
it is no text, which ends the search, or an array that can be read as a message, because a record
may be written as the array of its fields (`Scan.Disturbs`). A line that is put into a report
changes the outcome of a search exactly if the search comes to it, it is one of these, and the lines
behind it do not have the same outcome (`Scan.findExecutable_insert_iff`).
-/

namespace AnalyzerClient

open Json (Decoder Draft Record bind_eq_ok map_eq_ok)
open Json.Record (itemDraft? memberDraft?)

/-! ## What a message is read from -/

theorem Artifact.thorough_record : Artifact.record.Thorough :=
  ((Record.thorough_defaulted Decoder.thorough_string.list "kind" []).map Artifact.mk).seq
    (Record.thorough_defaulted Decoder.thorough_string "name" "")

namespace BuildMessage

variable {m : BuildMessage}

theorem thorough_record : record.Thorough :=
  (((Record.thorough_required Decoder.thorough_string "reason").map BuildMessage.mk).seq
    (Record.thorough_defaulted Artifact.thorough_record.decode "target" ⟨[], ""⟩)).seq
    (Record.thorough_defaulted Decoder.thorough_string.optional "executable" none)

/-- The fields that a message has its parts from. -/
theorem build_eq_ok {present : String → Option Draft} (h : record.build present = .ok m) :
    present "reason" = some (.string m.reason) ∧
      (∀ d, present "target" = some d → Artifact.record.decode d = .ok m.artifact) ∧
      ∀ path, m.executable = some path → present "executable" = some (.string path) := by
  obtain ⟨_, executable, hfront, hexecutable, rfl⟩ := Record.seq_build_eq_ok.mp h
  obtain ⟨_, artifact, hmk, hartifact, rfl⟩ := Record.seq_build_eq_ok.mp hfront
  obtain ⟨reason, hreason, rfl⟩ := Record.map_build_eq_ok.mp hmk
  obtain ⟨_, hd, hreason⟩ := Record.required_build_eq_ok.mp hreason
  obtain rfl := Decoder.string_eq_ok.mp hreason
  refine ⟨hd, ?_, ?_⟩
  · intro d htarget
    simpa [Record.defaulted, htarget] using hartifact
  · rintro path rfl
    rcases Record.defaulted_build_eq_ok.mp hexecutable with ⟨_, hd, hexecutable⟩ | ⟨-, hnone⟩
    · rw [hd, Decoder.optional_string_eq_some.mp hexecutable]
    · cases hnone

end BuildMessage

namespace Scan

open Text.Line (lines lines_append lines_append_of_ended withoutReturn)

variable {filter : ArtifactFilter} {text path : String} {outcome : Except ScanFailure String}
  {line before noise after : List UInt8}

/-- A text is a JSON object whose reason is that of messages about artifacts. -/
def ArtifactObject (text : String) : Prop :=
  ∃ members, Draft.ofText .characters text.toList = (.object members, none) ∧
    Draft.skipMembers members = .ok () ∧
    memberDraft? "reason" members = some (.string "compiler-artifact")

/-- A text is a JSON array of the reason of messages about artifacts, an artifact that passes the
filter, and an executable. -/
def ArtifactArray (filter : ArtifactFilter) (text path : String) : Prop :=
  ∃ target artifact, Draft.ofText .characters text.toList =
      (.array [.string "compiler-artifact", target, .string path], none) ∧
    Artifact.record.decode target = .ok artifact ∧ filter.accepts artifact = true ∧ path ≠ ""

/-- A line ends a search with this outcome, though it is no object about an artifact. -/
inductive Disturbs (filter : ArtifactFilter) (line : List UInt8) :
    Except ScanFailure String → Prop
  | unreadable {e : Text.Utf8.Error} (h : Text.Utf8.decode line = .error e) :
    Disturbs filter line (.error (.unreadable e))
  | array {text path : String} (htext : Text.Utf8.decode line = .ok text)
    (h : ArtifactArray filter text path) : Disturbs filter line (.ok path)

/-! ## Objects and arrays -/

theorem ofText_eq_ok {m : BuildMessage} (h : BuildMessage.ofText text = .ok m) :
    ∃ d, Draft.ofText .characters text.toList = (d, none) ∧
      BuildMessage.record.decode d = .ok m := by
  rw [BuildMessage.ofText, Decoder.ofText] at h
  rcases hdraft : Draft.ofText .characters text.toList with ⟨d, behind⟩
  rw [hdraft] at h
  obtain ⟨m', hdecode, hbehind⟩ := bind_eq_ok.mp h
  cases behind with
  | some f => cases hbehind
  | none =>
    cases hbehind
    exact ⟨d, rfl, hdecode⟩

/-- A message that holds an executable is written as an object or as an array of three items. -/
theorem artifact_cases {m : BuildMessage} (h : BuildMessage.ofText text = .ok m)
    (hfor : m.executableFor filter = some path) :
    ArtifactObject text ∨ ArtifactArray filter text path := by
  obtain ⟨⟨hreason, haccepts⟩, hpath, hne⟩ := executableFor_eq_some_iff.mp hfor
  obtain ⟨d, hdraft, hdecode⟩ := ofText_eq_ok h
  have hwhole := BuildMessage.thorough_record.decode d m hdecode
  rcases Record.decode_eq_ok hdecode with ⟨ms, rfl, -, hbuild⟩ | ⟨ds, rfl, hcheck, hbuild⟩
  · obtain ⟨hfirst, -⟩ := BuildMessage.build_eq_ok hbuild
    exact .inl ⟨ms, hdraft, hwhole, hreason ▸ hfirst⟩
  · obtain ⟨hfirst, hsecond, hthird⟩ := BuildMessage.build_eq_ok hbuild
    have hlength : ds.length ≤ 3 := Record.length_le_of_checkItems hcheck
    have hitem := hthird path hpath
    match ds, hlength with
    | [], _ | [_], _ | [_, _], _ => cases hitem
    | [d₀, d₁, d₂], _ =>
      obtain rfl : d₀ = .string m.reason := Option.some.inj hfirst
      obtain rfl : d₂ = .string path := Option.some.inj hitem
      exact .inr ⟨d₁, m.artifact, hreason ▸ hdraft, hsecond d₁ rfl, haccepts, hne⟩

/-- An array is read like the object with the same parts. -/
theorem ArtifactArray.exists_message (h : ArtifactArray filter text path) :
    ∃ m, BuildMessage.ofText text = .ok m ∧ m.executableFor filter = some path := by
  obtain ⟨target, artifact, hdraft, htarget, haccepts, hne⟩ := h
  refine ⟨⟨"compiler-artifact", artifact, some path⟩, ?_,
    executableFor_eq_some_iff.mpr ⟨⟨rfl, haccepts⟩, rfl, hne⟩⟩
  have hdecode : BuildMessage.record.decode
      (.array [.string "compiler-artifact", target, .string path]) =
        .ok ⟨"compiler-artifact", artifact, some path⟩ := by
    refine bind_eq_ok.mpr ⟨(), ?_, ?_⟩
    · refine bind_eq_ok.mpr ⟨(), rfl, bind_eq_ok.mpr ⟨(), ?_, rfl⟩⟩
      exact map_eq_ok.mpr ⟨artifact, htarget, rfl⟩
    · refine Record.seq_build_eq_ok.mpr ⟨_, some path, ?_, rfl, rfl⟩
      refine Record.seq_build_eq_ok.mpr ⟨_, artifact, rfl, ?_, rfl⟩
      exact Record.defaulted_build_eq_ok.mpr (.inl ⟨target, rfl, htarget⟩)
  rw [BuildMessage.ofText, Decoder.ofText, hdraft]
  exact bind_eq_ok.mpr ⟨_, hdecode, rfl⟩

/-- A line that is no object about an artifact stops a search only if it disturbs it. -/
theorem stop?_eq_some_iff_disturbs
    (h : ∀ text, Text.Utf8.decode line = .ok text → ¬ ArtifactObject text) :
    stop? filter line = some outcome ↔ Disturbs filter line outcome := by
  unfold stop?
  cases htext : Text.Utf8.decode line with
  | error e =>
    constructor
    · rintro ⟨⟩
      exact .unreadable htext
    · rintro (he | ⟨hok, -⟩)
      · rw [htext] at he
        cases he
        rfl
      · rw [htext] at hok
        cases hok
  | ok text =>
    constructor
    · intro hstop
      obtain ⟨path, hpath, rfl⟩ := Option.map_eq_some_iff.mp hstop
      obtain ⟨m, hm, hfor⟩ := Option.bind_eq_some_iff.mp hpath
      cases hmessage : BuildMessage.ofText text with
      | error f => rw [hmessage] at hm; cases hm
      | ok m' =>
        rw [hmessage] at hm
        cases hm
        exact .array htext ((artifact_cases hmessage hfor).resolve_left (h text htext))
    · rintro (he | ⟨hok, harray⟩)
      · rw [htext] at he
        cases he
      · rw [htext] at hok
        cases hok
        obtain ⟨m, hmessage, hfor⟩ := harray.exists_message
        simp [hmessage, Except.toOption, hfor]

/-! ## One more line -/

theorem outcome_findExecutable (filter : ArtifactFilter) (octets : List UInt8) :
    (findExecutable filter octets).outcome =
      ((lines octets).findSome? (stop? filter)).getD (.error .notFound) := by
  have hfirst := congrArg Prod.fst (findFrom_eq filter 0 octets).1
  rw [findExecutable, ← List.head?_filterMap, ← stops_map_fst, List.head?_map]
  refine hfirst.trans ?_
  cases (stops filter (lines octets)).head? <;> rfl

/-- A line that is no object about an artifact changes what a search finds exactly if the search
comes to it, the line disturbs it, and the lines behind would not have given the same. -/
theorem findExecutable_insert_iff (hbefore : ∀ b ∈ before.getLast?, b = 10) (hline : 10 ∉ noise)
    (hnoise : ∀ text, Text.Utf8.decode (withoutReturn noise) = .ok text → ¬ ArtifactObject text) :
    (findExecutable filter (before ++ noise ++ 10 :: after)).outcome =
        (findExecutable filter (before ++ after)).outcome ↔
      (∃ line ∈ lines before, ∃ outcome, Stops filter line outcome) ∨
        ∀ outcome, Disturbs filter (withoutReturn noise) outcome →
          (findExecutable filter after).outcome = outcome := by
  have hlines : lines (before ++ noise ++ 10 :: after) =
      lines before ++ withoutReturn noise :: lines after := by
    rw [List.append_assoc, lines_append_of_ended hbefore, lines_append hline]
  rw [outcome_findExecutable, outcome_findExecutable, outcome_findExecutable, hlines,
    lines_append_of_ended hbefore, List.findSome?_append, List.findSome?_append,
    List.findSome?_cons]
  cases hstop : (lines before).findSome? (stop? filter) with
  | some outcome =>
    obtain ⟨line, hmem, hline⟩ := List.exists_of_findSome?_eq_some hstop
    exact iff_of_true rfl (.inl ⟨line, hmem, outcome, stop?_eq_some_iff.mp hline⟩)
  | none =>
    have hnone : ¬ ∃ line ∈ lines before, ∃ outcome, Stops filter line outcome := by
      rintro ⟨line, hmem, outcome, hstops⟩
      have := List.findSome?_eq_none_iff.mp hstop line hmem
      rw [stop?_eq_some_iff.mpr hstops] at this
      cases this
    rw [or_iff_right hnone]
    simp only [← stop?_eq_some_iff_disturbs hnoise]
    cases stop? filter (withoutReturn noise) with
    | none => simp
    | some outcome => simp [eq_comm]

/-- A line that is an array of the parts of a message. -/
def arrayLine : String := "[\"compiler-artifact\",\x7b\x7d,\"/other\"]"

/-- A report of one executable. -/
def plainReport : List UInt8 := Text.Utf8.encode
  "\x7b\"reason\":\"compiler-artifact\",\"executable\":\"/x\"\x7d\n"

theorem findExecutable_insert_iff_arrayLine :
    (∀ b ∈ ([10] : List UInt8).getLast?, b = 10) ∧ 10 ∉ Text.Utf8.encode arrayLine ∧
      (∀ text, Text.Utf8.decode (withoutReturn (Text.Utf8.encode arrayLine)) = .ok text →
        ¬ ArtifactObject text) ∧
      (findExecutable .all ([10] ++ Text.Utf8.encode arrayLine ++ 10 :: plainReport)).outcome ≠
        (findExecutable .all ([10] ++ plainReport)).outcome := by
  have hbefore : ∀ b ∈ ([10] : List UInt8).getLast?, b = 10 := by simp
  have hline : 10 ∉ Text.Utf8.encode arrayLine := by decide +kernel
  have htext : Text.Utf8.decode (withoutReturn (Text.Utf8.encode arrayLine)) = .ok arrayLine := by
    decide +kernel
  have hdraft : Draft.ofText .characters arrayLine.toList =
      (.array [.string "compiler-artifact", .object [], .string "/other"], none) := by cbv
  have hobject : ∀ text, Text.Utf8.decode (withoutReturn (Text.Utf8.encode arrayLine)) =
      .ok text → ¬ ArtifactObject text := by
    rintro text ht ⟨members, hmembers, -⟩
    rw [htext] at ht
    cases ht
    rw [hdraft] at hmembers
    cases hmembers
  refine ⟨hbefore, hline, hobject, fun hsame => ?_⟩
  rcases (findExecutable_insert_iff hbefore hline hobject).mp hsame with
    ⟨line, hmem, outcome, hstops⟩ | hdisturbs
  · have hstop : ∀ line ∈ lines [10], stop? .all line = none := by decide +kernel
    cases (hstop line hmem).symm.trans (stop?_eq_some_iff.mpr hstops)
  · have hother : ArtifactArray .all arrayLine "/other" :=
      ⟨.object [], ⟨[], ""⟩, hdraft, by rfl, by rfl, by decide⟩
    have hfound : (findExecutable .all plainReport).outcome = .ok "/x" := by decide +kernel
    rw [hfound] at hdisturbs
    exact absurd (hdisturbs _ (.array htext hother)) (by decide)

end Scan

end AnalyzerClient
