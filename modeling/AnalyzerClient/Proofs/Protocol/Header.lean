import AnalyzerClient.Proofs.Protocol.Arrival

/-!
# Headers of any kind

A header is any number of lines that are not blank, and a blank one (`Frame.HeaderBlock`). Only
those lines matter whose name is that of the length, in any case and with any blanks around the line
and around the value (`Frame.HeaderLine.Gives`), and of these the last one counts. All others may
say anything. What the reader makes of such a header, and which octets it takes for it, is
`Frame.scan_headerBlock`.
-/

namespace AnalyzerClient.Protocol.Frame

open Text

/-! ## What is left of the stream -/

/-- Reads headers as `readHeaders` does, and tells which octets are behind the lines that were
taken. -/
def scanHeaders (closed : Bool) (length : Option Nat) (octets : List UInt8) :
    Headers × List UInt8 :=
  match h : Line.next? octets with
  | none => (if closed then .finished else .waiting, octets)
  | some (line, rest) =>
    have : rest.length < octets.length := Line.length_next? h
    if !closed && !isWhole line then (.waiting, octets)
    else
      match Utf8.decode line with
      | .error e => (.failed (.transport (.badLine e)), rest)
      | .ok text =>
        match Header.ofLine text with
        | .blank => (.length length rest, rest)
        | .length n => scanHeaders closed (some n) rest
        | .badLength text => (.failed (.protocol (.badLength text)), rest)
        | .other => scanHeaders closed length rest
  termination_by octets.length

/-- Reads a message as `read` does, and tells which octets are behind those that were taken. -/
def scan (closed : Bool) (octets : List UInt8) : Reading × List UInt8 :=
  match scanHeaders closed none octets with
  | (.finished, rest) => (.finished, rest)
  | (.failed e, rest) => (.failed e, rest)
  | (.waiting, rest) => (.waiting, rest)
  | (.length none _, rest) => (.failed (.protocol .missingLength), rest)
  | (.length (some n) _, rest) =>
    if maxLength ≤ n then (.breakdown n, rest)
    else if (rest.take n).length < n then
      (if closed then .failed (.transport .earlyEnd) else .waiting, [])
    else
      match Json.ofOctets (rest.take n) with
      | .ok value => (.message value (rest.drop n), rest.drop n)
      | .error fault => (.failed (.json fault), rest.drop n)

section Scan

variable {closed : Bool} {length m : Option Nat} {octets rest : List UInt8}

theorem scanHeaders_fst (closed : Bool) (length : Option Nat) (octets : List UInt8) :
    (scanHeaders closed length octets).1 = readHeaders closed length octets := by
  fun_induction scanHeaders closed length octets <;> rw [readHeaders] <;> grind

theorem scanHeaders_snd (h : (scanHeaders closed length octets).1 = .length m rest) :
    (scanHeaders closed length octets).2 = rest := by
  fun_induction scanHeaders closed length octets <;> grind

/-- `scan` is `read`, with what is left. -/
theorem scan_fst (closed : Bool) (octets : List UInt8) :
    (scan closed octets).1 = read closed octets := by
  have hfst := scanHeaders_fst closed none octets
  rw [scan, read, ← hfst]
  cases hscan : scanHeaders closed none octets with
  | mk headers rest =>
    cases headers with
    | length n behind =>
      have hsnd : (scanHeaders closed none octets).2 = behind :=
        scanHeaders_snd (m := n) (by rw [hscan])
      obtain rfl : rest = behind := by rwa [hscan] at hsnd
      grind
    | finished => rfl
    | failed e => rfl
    | waiting => rfl

/-- Behind a message, what is left is what `read` says. -/
theorem scan_of_message {v : Json} (h : read closed octets = .message v rest) :
    scan closed octets = (.message v rest, rest) := by
  rw [← scan_fst] at h
  refine Prod.ext h ?_
  rw [scan] at h ⊢
  grind

end Scan

/-! ## Lines -/

/-- What ends a line of a header. -/
inductive LineEnd where
  | newline
  | returnNewline

/-- The characters that end a line. -/
def LineEnd.chars : LineEnd → List Char
  | .newline => ['\n']
  | .returnNewline => ['\r', '\n']

/-- A line of a header: a text without a newline, and its end. -/
structure HeaderLine where
  text : List Char
  ending : LineEnd
  unbroken : '\n' ∉ text

namespace HeaderLine

variable {l : HeaderLine} {value : List Char} {n : Nat}

/-- The line with its end. -/
def chars (l : HeaderLine) : List Char := l.text ++ l.ending.chars

/-- The octets of the line and of its end. -/
def octets (l : HeaderLine) : List UInt8 := Utf8.encode (String.ofList l.chars)

/-- A line of white space only. -/
def IsBlank (l : HeaderLine) : Prop := ∀ c ∈ l.text, isBlank c = true

instance (l : HeaderLine) : Decidable l.IsBlank :=
  decidable_of_iff (l.text.all isBlank = true) List.all_eq_true

/-- The line gives the length, as `value`. -/
def Gives (l : HeaderLine) (value : List Char) : Prop :=
  ∃ name rest, Chars.trim l.text = name ++ ':' :: rest ∧ ':' ∉ name ∧
    eqIgnoringCase (String.ofList name) lengthHeader = true ∧ value = Chars.trim rest

/-- If the line gives the length, then as a number. -/
def Readable (l : HeaderLine) : Prop :=
  ∀ value, l.Gives value → ∃ n, Numeral.readWord? value = some n

theorem trim_chars (l : HeaderLine) : Chars.trim l.chars = Chars.trim l.text := by
  refine Chars.trim_append fun c hc => ?_
  cases hend : l.ending with
  | newline =>
    rw [hend] at hc
    rw [List.mem_singleton.mp hc]
    decide
  | returnNewline =>
    have hall : LineEnd.returnNewline.chars.all isBlank = true := by decide
    exact List.all_eq_true.mp hall c (hend ▸ hc)

/-- The octets of a line have one newline, at their end. -/
theorem exists_octets (l : HeaderLine) : ∃ line, 10 ∉ line ∧ l.octets = line ++ [10] := by
  obtain ⟨front, hfront, hchars⟩ : ∃ front, '\n' ∉ front ∧ l.chars = front ++ ['\n'] := by
    cases hend : l.ending with
    | newline => exact ⟨l.text, l.unbroken, by rw [chars, hend]; rfl⟩
    | returnNewline =>
      refine ⟨l.text ++ ['\r'], ?_, by rw [chars, hend, List.append_assoc]; rfl⟩
      rw [List.mem_append, not_or]
      exact ⟨l.unbroken, by decide⟩
  refine ⟨Utf8.encode (String.ofList front), fun hmem => hfront ?_, ?_⟩
  · simpa using Utf8.newline_mem_of_mem_encode hmem
  · rw [octets, hchars, String.ofList_append, Utf8.encode_append]
    rfl

/-! What the reader makes of a line. -/

theorem ofLine_of_isBlank (h : l.IsBlank) : Header.ofLine (String.ofList l.chars) = .blank := by
  rw [Header.ofLine, String.toList_ofList, l.trim_chars, Chars.trim_eq_nil_iff.mpr h]
  rfl

theorem ofLine_of_gives (h : l.Gives value) :
    Header.ofLine (String.ofList l.chars) = match Numeral.readWord? value with
      | some n => .length n
      | none => .badLength (String.ofList value) := by
  obtain ⟨name, rest, htext, hname, hlength, rfl⟩ := h
  rw [Header.ofLine, String.toList_ofList, l.trim_chars, htext]
  simp only [Chars.splitOnce_append hname, hlength]
  cases hvalue : Numeral.readWord? (Chars.trim rest) <;> simp

theorem ofLine_of_silent (h : ∀ value, ¬ l.Gives value) (hfilled : ¬ l.IsBlank) :
    Header.ofLine (String.ofList l.chars) = .other := by
  have hne : (Chars.trim l.text).isEmpty = false := by
    rw [List.isEmpty_eq_false_iff]
    exact fun hnil => hfilled (Chars.trim_eq_nil_iff.mp hnil)
  rw [Header.ofLine, String.toList_ofList, l.trim_chars, hne]
  cases hsplit : Chars.splitOnce ':' (Chars.trim l.text) with
  | none => rfl
  | some parts =>
    obtain ⟨htext, hname⟩ := Chars.eq_append_of_splitOnce hsplit
    have hother : eqIgnoringCase (String.ofList parts.1) lengthHeader = false :=
      Bool.eq_false_iff.mpr fun hlength =>
        h _ ⟨parts.1, parts.2, htext, hname, hlength, rfl⟩
    simp [hother]

theorem not_gives_of_other (h : Header.ofLine (String.ofList l.chars) = .other)
    (value : List Char) : ¬ l.Gives value := by
  intro hvalue
  rw [ofLine_of_gives hvalue] at h
  split at h <;> cases h

theorem readable_of_ofLine (header : Header) (h : Header.ofLine (String.ofList l.chars) = header)
    (hgood : ∀ text, header ≠ .badLength text) : l.Readable := by
  intro value hvalue
  rw [ofLine_of_gives hvalue] at h
  exact Option.ne_none_iff_exists'.mp fun hnone => hgood _ (by rw [← h, hnone])

/-- A line is taken from a stream whole, whatever stands behind it. -/
theorem scanHeaders_octets (l : HeaderLine) (closed : Bool) (length : Option Nat)
    (rest : List UInt8) :
    scanHeaders closed length (l.octets ++ rest) =
      match Header.ofLine (String.ofList l.chars) with
      | .blank => (.length length rest, rest)
      | .length n => scanHeaders closed (some n) rest
      | .badLength text => (.failed (.protocol (.badLength text)), rest)
      | .other => scanHeaders closed length rest := by
  obtain ⟨line, hline, hoctets⟩ := l.exists_octets
  have hnext : Line.next? (l.octets ++ rest) = some (l.octets, rest) := by
    rw [hoctets, List.append_assoc]
    exact Line.next?_append hline rest
  have hwhole : isWhole l.octets = true := by
    rw [isWhole, hoctets, List.getLast?_concat]
    rfl
  have htext : Utf8.decode l.octets = .ok (String.ofList l.chars) := Utf8.decode_encode _
  rw [scanHeaders]
  split
  · next hnone => rw [hnext] at hnone; cases hnone
  · next hsome =>
    cases hnext.symm.trans hsome
    rw [hwhole, htext, Bool.not_true, Bool.and_false]
    rfl

end HeaderLine

/-! ## Several lines -/

variable {lines front back : List HeaderLine} {l : HeaderLine} {value : List Char} {n : Nat}

/-- The octets of lines. -/
def lineOctets (lines : List HeaderLine) : List UInt8 := lines.flatMap HeaderLine.octets

theorem lineOctets_append (front back : List HeaderLine) :
    lineOctets (front ++ back) = lineOctets front ++ lineOctets back := List.flatMap_append

theorem lineOctets_cons (l : HeaderLine) (lines : List HeaderLine) :
    lineOctets (l :: lines) = l.octets ++ lineOctets lines := rfl

/-- No line gives the length. -/
def Silent (lines : List HeaderLine) : Prop := ∀ l ∈ lines, ∀ value, ¬ l.Gives value

/-- The last line that gives the length gives this number, and those before it give some number. -/
inductive Declares : List HeaderLine → Nat → Prop
  | last {front back : List HeaderLine} {l : HeaderLine} {value : List Char} {n : Nat}
      (earlier : ∀ k ∈ front, k.Readable) (gives : l.Gives value)
      (number : Numeral.readWord? value = some n) (later : Silent back) :
      Declares (front ++ l :: back) n

/-- The first line that gives the length as something else than a number. -/
inductive Misdeclares : List HeaderLine → List Char → Prop
  | first {front : List HeaderLine} {l : HeaderLine} {value : List Char}
      (earlier : ∀ k ∈ front, k.Readable) (gives : l.Gives value)
      (number : Numeral.readWord? value = none) (back : List HeaderLine) :
      Misdeclares (front ++ l :: back) value

/-- Every header is of one of the three kinds. -/
theorem declaration_cases (lines : List HeaderLine) :
    Silent lines ∨ (∃ n, Declares lines n) ∨ ∃ value, Misdeclares lines value := by
  induction lines with
  | nil => exact .inl nofun
  | cons l lines ih =>
    by_cases hgives : ∃ value, l.Gives value ∧ Numeral.readWord? value = none
    · obtain ⟨value, hvalue, hnone⟩ := hgives
      exact .inr (.inr ⟨value, @Misdeclares.first [] l value nofun hvalue hnone lines⟩)
    · have hreadable : l.Readable := fun value hvalue =>
        Option.ne_none_iff_exists'.mp fun hnone => hgives ⟨value, hvalue, hnone⟩
      have hearlier {front : List HeaderLine} (h : ∀ k ∈ front, k.Readable) :
          ∀ k ∈ l :: front, k.Readable := List.forall_mem_cons.mpr ⟨hreadable, h⟩
      rcases ih with
        hsilent | ⟨n, ⟨earlier, gives, number, later⟩⟩ | ⟨value, ⟨earlier, gives, number⟩⟩
      · by_cases hvalue : ∃ value, l.Gives value
        · obtain ⟨value, hvalue⟩ := hvalue
          obtain ⟨n, hn⟩ := hreadable value hvalue
          exact .inr (.inl ⟨n, @Declares.last [] lines l value n nofun hvalue hn hsilent⟩)
        · exact .inl (List.forall_mem_cons.mpr ⟨not_exists.mp hvalue, hsilent⟩)
      · exact .inr (.inl ⟨n, .last (hearlier earlier) gives number later⟩)
      · exact .inr (.inr ⟨value, .first (hearlier earlier) gives number _⟩)

/-- Lines that do not give the length are passed. -/
theorem scanHeaders_silent (hfilled : ∀ l ∈ lines, ¬ l.IsBlank) (h : Silent lines) (closed : Bool)
    (length : Option Nat) (rest : List UInt8) :
    scanHeaders closed length (lineOctets lines ++ rest) = scanHeaders closed length rest := by
  induction lines with
  | nil => rfl
  | cons l lines ih =>
    obtain ⟨hl, hlines⟩ := List.forall_mem_cons.mp hfilled
    obtain ⟨hsilent, hlater⟩ := List.forall_mem_cons.mp h
    rw [lineOctets_cons, List.append_assoc, l.scanHeaders_octets,
      HeaderLine.ofLine_of_silent hsilent hl]
    exact ih hlines hlater

/-- Lines that give the length as a number are passed, whatever length they leave behind. -/
theorem scanHeaders_readable (hfilled : ∀ l ∈ lines, ¬ l.IsBlank)
    (h : ∀ l ∈ lines, l.Readable) (closed : Bool) (length : Option Nat) :
    ∃ m, ∀ rest, scanHeaders closed length (lineOctets lines ++ rest) =
      scanHeaders closed m rest := by
  induction lines generalizing length with
  | nil => exact ⟨length, fun _ => rfl⟩
  | cons l lines ih =>
    obtain ⟨hl, hlines⟩ := List.forall_mem_cons.mp hfilled
    obtain ⟨hreadable, hlater⟩ := List.forall_mem_cons.mp h
    have hpasses : ∃ m, ∀ rest, scanHeaders closed length (l.octets ++ rest) =
        scanHeaders closed m rest := by
      by_cases hgives : ∃ value, l.Gives value
      · obtain ⟨value, hvalue⟩ := hgives
        obtain ⟨n, hn⟩ := hreadable value hvalue
        refine ⟨some n, fun rest => ?_⟩
        rw [l.scanHeaders_octets, HeaderLine.ofLine_of_gives hvalue, hn]
      · refine ⟨length, fun rest => ?_⟩
        rw [l.scanHeaders_octets, HeaderLine.ofLine_of_silent (not_exists.mp hgives) hl]
    obtain ⟨m, hm⟩ := hpasses
    obtain ⟨m', hm'⟩ := ih hlines hlater m
    refine ⟨m', fun rest => ?_⟩
    rw [lineOctets_cons, List.append_assoc, hm, hm']

theorem scanHeaders_declares (hfilled : ∀ l ∈ lines, ¬ l.IsBlank) (h : Declares lines n)
    (closed : Bool) (rest : List UInt8) :
    scanHeaders closed none (lineOctets lines ++ rest) = scanHeaders closed (some n) rest := by
  obtain ⟨earlier, gives, number, later⟩ := h
  rw [List.forall_mem_append, List.forall_mem_cons] at hfilled
  obtain ⟨hfront, -, hback⟩ := hfilled
  obtain ⟨m, hm⟩ := scanHeaders_readable hfront earlier closed none
  rw [lineOctets_append, lineOctets_cons, List.append_assoc, List.append_assoc, hm,
    HeaderLine.scanHeaders_octets, HeaderLine.ofLine_of_gives gives, number]
  exact scanHeaders_silent hback later closed (some n) rest

/-- The lines behind a length that is no number are not taken. -/
theorem scanHeaders_misdeclares (hfilled : ∀ l ∈ lines, ¬ l.IsBlank) (h : Misdeclares lines value)
    (closed : Bool) :
    ∃ left, left <:+ lineOctets lines ∧ ∀ rest, scanHeaders closed none (lineOctets lines ++ rest) =
      (.failed (.protocol (.badLength (String.ofList value))), left ++ rest) := by
  obtain @⟨front, l, value, earlier, gives, number, back⟩ := h
  obtain ⟨m, hm⟩ := scanHeaders_readable (List.forall_mem_append.mp hfilled).1 earlier closed none
  have hlines : lineOctets (front ++ l :: back) = lineOctets front ++ l.octets ++ lineOctets back :=
    by rw [lineOctets_append, lineOctets_cons, List.append_assoc]
  refine ⟨lineOctets back, hlines ▸ List.suffix_append _ _, fun rest => ?_⟩
  rw [hlines, List.append_assoc, List.append_assoc, hm, HeaderLine.scanHeaders_octets,
    HeaderLine.ofLine_of_gives gives, number]

/-! ## Whole headers -/

/-- A header: lines that are not blank, and a blank one. -/
structure HeaderBlock where
  lines : List HeaderLine
  stop : HeaderLine
  filled : ∀ l ∈ lines, ¬ l.IsBlank
  blank : stop.IsBlank

namespace HeaderBlock

/-- The octets of a header. -/
def octets (b : HeaderBlock) : List UInt8 := lineOctets b.lines ++ b.stop.octets

theorem scanHeaders_stop (b : HeaderBlock) (closed : Bool) (length : Option Nat)
    (behind : List UInt8) :
    scanHeaders closed length (b.stop.octets ++ behind) = (.length length behind, behind) := by
  rw [b.stop.scanHeaders_octets, HeaderLine.ofLine_of_isBlank b.blank]

/-- The headers come to the length that counts, whatever stands behind them. -/
theorem readHeaders_of_declares {b : HeaderBlock} (h : Declares b.lines n) (closed : Bool)
    (behind : List UInt8) :
    readHeaders closed none (b.octets ++ behind) = .length (some n) behind := by
  rw [← scanHeaders_fst, octets, List.append_assoc, scanHeaders_declares b.filled h,
    b.scanHeaders_stop]

end HeaderBlock

/-- What a header makes of the stream behind it. If its last length is that of a text of JSON, the
value of this text is read, and the reader stands right behind it. If it has no length, and if one
of its lengths is no number, the reader fails, and has not taken an octet from behind the header: it
fails even when nothing stands there and the stream is open. Every header is of one of these kinds.
-/
theorem scan_headerBlock (b : HeaderBlock) (closed : Bool) (behind : List UInt8) :
    (∀ body v, Declares b.lines body.length → Json.ofOctets body = .ok v →
      body.length < maxLength →
      read closed (b.octets ++ (body ++ behind)) = .message v behind ∧
      (scan closed (b.octets ++ (body ++ behind))).2 = behind) ∧
    (Silent b.lines →
      read closed (b.octets ++ behind) = .failed (.protocol .missingLength) ∧
      (scan closed (b.octets ++ behind)).2 = behind) ∧
    (∀ value, Misdeclares b.lines value →
      read closed (b.octets ++ behind) = .failed (.protocol (.badLength (String.ofList value))) ∧
      ∃ left, left <:+ b.octets ∧ (scan closed (b.octets ++ behind)).2 = left ++ behind) ∧
    (Silent b.lines ∨ (∃ n, Declares b.lines n) ∨ ∃ value, Misdeclares b.lines value) := by
  refine ⟨fun body v hdeclares hvalue hlength => ?_, fun hsilent => ?_, fun value hvalue => ?_,
    declaration_cases b.lines⟩
  · have hheaders := HeaderBlock.readHeaders_of_declares hdeclares closed (body ++ behind)
    have hread : read closed (b.octets ++ (body ++ behind)) = .message v behind := by
      refine read_eq_message.mpr ⟨_, _, hheaders, hlength, ?_, ?_, List.drop_left⟩
      · rw [List.length_append]
        exact Nat.le_add_right _ _
      · rw [List.take_left, hvalue]
    exact ⟨hread, by rw [scan_of_message hread]⟩
  · have hscan : scan closed (b.octets ++ behind) =
        (.failed (.protocol .missingLength), behind) := by
      rw [scan, HeaderBlock.octets, List.append_assoc, scanHeaders_silent b.filled hsilent,
        b.scanHeaders_stop]
    rw [← scan_fst, hscan]
    exact ⟨rfl, rfl⟩
  · obtain ⟨left, hleft, hlines⟩ := scanHeaders_misdeclares b.filled hvalue closed
    have hscan : scan closed (b.octets ++ behind) =
        (.failed (.protocol (.badLength (String.ofList value))),
          left ++ (b.stop.octets ++ behind)) := by
      rw [scan, HeaderBlock.octets, List.append_assoc, hlines]
    refine ⟨by rw [← scan_fst, hscan], left ++ b.stop.octets, ?_, by rw [hscan, List.append_assoc]⟩
    obtain ⟨taken, htaken⟩ := hleft
    exact ⟨taken, by rw [HeaderBlock.octets, ← htaken, List.append_assoc]⟩

/-- A header with a length that counts, behind one that does not and among lines that say nothing.
-/
def mixedBlock : HeaderBlock where
  lines :=
    [⟨"content-type: application/vscode-jsonrpc; charset=utf-8".toList, .returnNewline, by decide⟩,
      ⟨"no colon".toList, .newline, by decide⟩,
      ⟨"\u00a0content-LENGTH:\u200318446744073709551615".toList, .newline, by decide⟩,
      ⟨"Content-Length:+4 ".toList, .returnNewline, by decide⟩,
      ⟨"Content-Length : 7".toList, .returnNewline, by decide⟩,
      ⟨"X: Content-Length: x".toList, .newline, by decide⟩]
  stop := ⟨"\u3000 ".toList, .returnNewline, by decide⟩
  filled := by decide
  blank := by decide

theorem declares_mixedBlock : Declares mixedBlock.lines 4 := by
  have hgives : HeaderLine.Gives
      ⟨"Content-Length:+4 ".toList, .returnNewline, by decide +kernel⟩ "+4".toList := by
    refine ⟨"Content-Length".toList, "+4".toList, ?_, ?_, ?_, ?_⟩
    all_goals decide +kernel
  refine @Declares.last (mixedBlock.lines.take 3) (mixedBlock.lines.drop 4) _ _ 4 ?_ hgives
    (by decide +kernel) ?_
  · simp only [mixedBlock, List.take_succ_cons, List.take_zero, List.forall_mem_cons]
    refine ⟨?_, ?_, ?_, nofun⟩
    · exact HeaderLine.readable_of_ofLine .other (by decide +kernel) nofun
    · exact HeaderLine.readable_of_ofLine .other (by decide +kernel) nofun
    · exact HeaderLine.readable_of_ofLine (.length 18446744073709551615) (by decide +kernel) nofun
  · simp only [mixedBlock, List.drop_succ_cons, List.drop_zero]
    exact List.forall_mem_cons.mpr ⟨HeaderLine.not_gives_of_other (by decide +kernel),
      List.forall_mem_singleton.mpr (HeaderLine.not_gives_of_other (by decide +kernel))⟩

/-- A header without a length. -/
def typedBlock : HeaderBlock where
  lines := [⟨"Content-Type: x".toList, .returnNewline, by decide⟩]
  stop := ⟨[], .returnNewline, by decide⟩
  filled := by decide
  blank := by decide

theorem silent_typedBlock : Silent typedBlock.lines :=
  List.forall_mem_singleton.mpr (HeaderLine.not_gives_of_other (by decide +kernel))

/-- A header with two lengths that are no numbers. -/
def oddBlock : HeaderBlock where
  lines :=
    [⟨"Content-Length: 2".toList, .newline, by decide⟩,
      ⟨"Content-Length: 2:2".toList, .newline, by decide⟩,
      ⟨"Content-Length: x".toList, .newline, by decide⟩]
  stop := ⟨[], .newline, by decide⟩
  filled := by decide
  blank := by decide

theorem misdeclares_oddBlock : Misdeclares oddBlock.lines "2:2".toList := by
  have hgives : HeaderLine.Gives
      ⟨"Content-Length: 2:2".toList, .newline, by decide +kernel⟩ "2:2".toList := by
    refine ⟨"Content-Length".toList, " 2:2".toList, ?_, ?_, ?_, ?_⟩
    all_goals decide +kernel
  refine @Misdeclares.first (oddBlock.lines.take 1) _ _ ?_ hgives (by decide +kernel)
    (oddBlock.lines.drop 2)
  exact List.forall_mem_singleton.mpr
    (HeaderLine.readable_of_ofLine (.length 2) (by decide +kernel) nofun)

/-- The text of a letter of two octets. -/
theorem ofOctets_letter : Json.ofOctets (Utf8.encode "\"é\"") = .ok (.string "é") := by
  have hcompact : (Json.string "é").compact = "\"é\"" := by decide +kernel
  rw [← hcompact]
  exact ofOctets_encode_compact (v := .string "é") trivial trivial (by decide +kernel)

theorem scan_headerBlock_samples :
    Declares mixedBlock.lines 4 ∧ Silent typedBlock.lines ∧
      Misdeclares oddBlock.lines "2:2".toList ∧
      read false (mixedBlock.octets ++ (Utf8.encode "\"é\"" ++ [1, 2])) =
        .message (.string "é") [1, 2] ∧
      read false (typedBlock.octets ++ []) = .failed (.protocol .missingLength) ∧
      read false (oddBlock.octets ++ []) = .failed (.protocol (.badLength "2:2")) := by
  obtain ⟨hread, -, -, -⟩ := scan_headerBlock mixedBlock false [1, 2]
  obtain ⟨-, hmissing, -, -⟩ := scan_headerBlock typedBlock false []
  obtain ⟨-, -, hbad, -⟩ := scan_headerBlock oddBlock false []
  have hletter := hread (Utf8.encode "\"é\"") _ declares_mixedBlock ofOctets_letter
    (by decide +kernel)
  exact ⟨declares_mixedBlock, silent_typedBlock, misdeclares_oddBlock, hletter.1,
    (hmissing silent_typedBlock).1, (hbad _ misdeclares_oddBlock).1⟩

end AnalyzerClient.Protocol.Frame
