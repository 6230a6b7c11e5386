import AnalyzerClient.Proofs.Protocol.Frame
import Mathlib.Data.List.TakeWhile

/-!
# Streams that break off

A stream of framed messages may stop at any octet: inside the name of a header, between the digits
of a length, between a carriage return and its newline, inside a character. The messages whose
frames arrived whole are read, and what is left of the next frame is never taken for a message
(`Frame.BreaksOff`): as long as the stream is open the reader waits for more of it, and when the
stream is closed the reader reports its end or an error (`Frame.readAll_prefix`).
-/

namespace AnalyzerClient

namespace Text.Utf8

/-- Where every character takes one octet, the text can be cut at every octet. -/
theorem prefix_encode {s : String} (h : ∀ c ∈ s.toList, c.toNat < 128) {octets : List UInt8}
    (hcut : octets <+: encode s) :
    ∃ cs, cs <+: s.toList ∧ octets = encode (String.ofList cs) := by
  simp only [encode, String.toList_ofList] at hcut ⊢
  generalize s.toList = text at h hcut ⊢
  induction text generalizing octets with
  | nil => exact ⟨[], List.nil_prefix, List.prefix_nil.mp hcut⟩
  | cons c text ih =>
    obtain ⟨hc, htext⟩ := List.forall_mem_cons.mp h
    have hsize : c.utf8Size = 1 := by
      rw [Char.utf8Size_eq_one_iff, UInt32.le_iff_toNat_le]
      exact Nat.le_of_lt_succ hc
    rw [List.flatMap_cons, String.utf8EncodeChar_eq_singleton hsize, List.singleton_append,
      List.prefix_cons_iff] at hcut
    rcases hcut with rfl | ⟨octets, rfl, hcut⟩
    · exact ⟨[], List.nil_prefix, rfl⟩
    · obtain ⟨cs, hcs, rfl⟩ := ih htext hcut
      refine ⟨c :: cs, (List.prefix_cons_inj c).mpr hcs, ?_⟩
      rw [List.flatMap_cons, String.utf8EncodeChar_eq_singleton hsize, List.singleton_append]

end Text.Utf8

namespace Protocol.Frame

open Text

variable {octets rest : List UInt8} {n : Nat} {v : Json}

/-- A beginning of two lists ends in the first one or in the second one. -/
theorem prefix_append {front back : List UInt8} (h : octets <+: front ++ back) :
    octets <+: front ∨ ∃ more, octets = front ++ more ∧ more <+: back := by
  rcases List.prefix_or_prefix_of_prefix h (List.prefix_append front back) with hin | ⟨more, rfl⟩
  · exact .inl hin
  · exact .inr ⟨more, rfl, (List.prefix_append_right_inj front).mp h⟩

/-! ## Headers that break off -/

theorem ofLine_ne_blank {c : Char} (hc : isBlank c = false) (cs : List Char) :
    Header.ofLine (String.ofList (c :: cs)) ≠ .blank := by
  have htrim : Chars.trim (c :: cs) ≠ [] := by
    rw [Chars.trim, Chars.trimStart_of_head hc, Chars.trimEnd]
    intro hnil
    rw [List.reverse_eq_nil_iff, List.dropWhile_eq_nil_iff] at hnil
    have hblank := hnil c (List.mem_reverse.mpr List.mem_cons_self)
    rw [hc] at hblank
    cases hblank
  simp only [Header.ofLine, String.toList_ofList, List.isEmpty_iff, htrim, if_false]
  split
  · simp
  · split
    · split <;> simp
    · simp

theorem toNat_lt_of_mem_lengthLine {c : Char} (hc : c ∈ (lengthLine n).toList) :
    c.toNat < 128 := by
  have hname : ∀ c ∈ lengthHeader.toList, decide (c.toNat < 128) = true :=
    List.all_eq_true.mp (by decide)
  have hend : ∀ c ∈ ['\r', '\n'], decide (c.toNat < 128) = true := List.all_eq_true.mp (by decide)
  rw [toList_lengthLine, List.mem_append, List.mem_cons, List.mem_cons, List.mem_append] at hc
  rcases hc with hc | rfl | rfl | hc | hc
  · exact of_decide_eq_true (hname c hc)
  · decide
  · decide
  · have hdigit := Numeral.isDigit_iff.mp (Numeral.isDigit_of_mem_digits hc)
    omega
  · exact of_decide_eq_true (hend c hc)

/-- An open stream that stops inside a line of the headers is awaited. -/
theorem readHeaders_open (hoctets : 10 ∉ octets) (length : Option Nat) :
    readHeaders false length octets = .waiting := by
  rw [readHeaders]
  split
  · rfl
  · next line rest hnext =>
    have hne : octets ≠ [] := by rintro rfl; cases hnext
    rw [Line.next?_of_not_mem hoctets hne] at hnext
    cases hnext
    have hwhole : isWhole octets = false := by
      rw [isWhole, beq_eq_false_iff_ne]
      intro hlast
      exact hoctets (List.mem_of_getLast? hlast)
    rw [hwhole]
    rfl

theorem readHeaders_nil (length : Option Nat) : readHeaders true length [] = .finished := by
  rw [readHeaders]
  rfl

/-- A closed stream that stops inside the line with the length has no end of the headers, whatever
the line says so far. -/
theorem readHeaders_closed (hcut : octets <+: Utf8.encode (lengthLine n)) (hnone : 10 ∉ octets) :
    readHeaders true none octets = .finished ∨ ∃ e, readHeaders true none octets = .failed e := by
  by_cases hne : octets = []
  · rw [hne]
    exact .inl (readHeaders_nil none)
  · obtain ⟨cs, hcs, rfl⟩ := Utf8.prefix_encode (fun _ => toNat_lt_of_mem_lengthLine) hcut
    have hcons : cs ≠ [] := by rintro rfl; exact hne rfl
    obtain ⟨c, cs, rfl⟩ := List.exists_cons_of_ne_nil hcons
    have hhead : (lengthLine n).toList.head? = some 'C' := by
      rw [toList_lengthLine, List.head?_append]
      rfl
    have hc : c = 'C' := by
      obtain ⟨back, hback⟩ := hcs
      rw [← hback] at hhead
      exact Option.some.inj hhead
    -- a part of the name or of the number is read as some header, but never as the empty line
    have hblank : Header.ofLine (String.ofList (c :: cs)) ≠ .blank :=
      ofLine_ne_blank (hc ▸ by decide) cs
    rw [readHeaders_eq (Line.next?_of_not_mem hnone hne) (.inl rfl) (Utf8.decode_encode _)]
    cases hline : Header.ofLine (String.ofList (c :: cs)) with
    | blank => exact absurd hline hblank
    | length m => exact .inl (readHeaders_nil _)
    | badLength text => exact .inr ⟨_, rfl⟩
    | other => exact .inl (readHeaders_nil _)

/-! ## Frames that break off -/

/-- There is no message in front of the octets: an open stream is awaited, and a closed one is at
its end or has an error. -/
structure BreaksOff (octets : List UInt8) : Prop where
  waits : read false octets = .waiting
  ends : read true octets = .finished ∨ ∃ e, read true octets = .failed e

/-- The octets stop inside the line with the length, and perhaps between two of its digits. -/
theorem breaksOff_of_line (hcut : octets <+: Utf8.encode (lengthLine n))
    (hoctets : 10 ∉ octets) : BreaksOff octets where
  waits := by rw [read, readHeaders_open hoctets]
  ends := by
    rcases readHeaders_closed hcut hoctets with hheaders | ⟨e, hheaders⟩
    · left
      rw [read, hheaders]
    · right
      exact ⟨e, by rw [read, hheaders]⟩

theorem breaksOff_nil : BreaksOff [] :=
  breaksOff_of_line (n := 0) List.nil_prefix List.not_mem_nil

/-- The octets stop behind the line with the length. -/
theorem breaksOff_lengthLine (hlength : n < maxLength) :
    BreaksOff (Utf8.encode (lengthLine n)) := by
  have hcount : n < Word.count64 := Nat.lt_trans hlength (by decide)
  have hheaders (closed : Bool) := readHeaders_lengthLine closed hcount []
  simp only [List.append_nil] at hheaders
  constructor
  · rw [read, hheaders, readHeaders_open List.not_mem_nil]
  · left
    rw [read, hheaders, readHeaders_nil]

/-- Headers that are whole, with a text that is too short. -/
theorem read_short {closed : Bool} {text : List UInt8}
    (hheaders : readHeaders closed none octets = .length (some n) text) (hlength : n < maxLength)
    (hshort : text.length < n) :
    read closed octets = if closed then .failed (.transport .earlyEnd) else .waiting := by
  have htake : (text.take n).length < n := by
    rw [List.length_take]
    omega
  rw [read, hheaders]
  simp only [if_neg (Nat.not_le.mpr hlength), if_pos htake]

theorem ofOctets_nil : Json.ofOctets [] = .error ⟨.ended, 0⟩ := by
  have hdecode : Utf8.decode? [] = some "" := Utf8.decode?_encode ""
  have hdraft : Json.Draft.ofText .characters [] = (.fault ⟨.ended, 0⟩, none) := by
    simp [Json.Draft.ofText, Json.Draft.readValue, Json.skipGap, Json.Draft.ofScalar]
  simp only [Json.ofOctets, hdecode, Json.ofText, String.toList_empty, Json.ofChars,
    Json.ofUnits, hdraft]
  rfl

/-- The octets stop between the carriage return and the newline of the empty line. What a closed
stream has there counts as an empty line, and there is no text behind it. -/
theorem breaksOff_return (hlength : n < maxLength) :
    BreaksOff (Utf8.encode (lengthLine n) ++ [13]) := by
  have hcount : n < Word.count64 := Nat.lt_trans hlength (by decide)
  have hnext : Line.next? [13] = some ([13], []) := rfl
  have hblank : readHeaders true (some n) [13] = .length (some n) [] := by
    rw [readHeaders_eq hnext (.inl rfl) (Utf8.decode_encode "\r")]
    rfl
  constructor
  · rw [read, readHeaders_lengthLine false hcount, readHeaders_open (by decide)]
  · right
    have hheaders := (readHeaders_lengthLine true hcount [13]).trans hblank
    -- a length of zero would be enough text, but no value
    rcases Nat.eq_zero_or_pos n with rfl | hpos
    · refine ⟨.json ⟨.ended, 0⟩, ?_⟩
      rw [read, hheaders]
      simp only [List.take_nil, ofOctets_nil]
      rfl
    · exact ⟨_, read_short hheaders hlength hpos⟩

theorem breaksOff_text {text : List UInt8} (hlength : n < maxLength) (hshort : text.length < n) :
    BreaksOff (Utf8.encode (lengthLine n) ++ (Utf8.encode "\r\n" ++ text)) := by
  have hcount : n < Word.count64 := Nat.lt_trans hlength (by decide)
  constructor
  · exact read_short (readHeaders_encode false hcount text) hlength hshort
  · exact .inr ⟨_, read_short (readHeaders_encode true hcount text) hlength hshort⟩

/-- A part of a frame, but not all of it. The cases are the places at which a frame can be cut. -/
theorem breaksOff_of_prefix (hlength : (Utf8.encode v.compact).length < maxLength)
    (hcut : octets <+: encode v) (hne : octets ≠ encode v) : BreaksOff octets := by
  rw [encode_eq] at hcut hne
  generalize Utf8.encode v.compact = text at hlength hcut hne
  have hblank : Utf8.encode "\r\n" = [13, 10] := by decide
  rcases prefix_append hcut with hline | ⟨octets, rfl, hmore⟩
  · obtain ⟨line, hnewline, hencode⟩ := encode_lengthLine text.length
    rcases List.prefix_concat_iff.mp (hencode ▸ hline) with rfl | hfront
    · rw [← hencode]
      exact breaksOff_lengthLine hlength
    · exact breaksOff_of_line hline fun hmem => hnewline (hfront.mem hmem)
  · rw [hblank, List.cons_append, List.singleton_append] at hmore
    rcases List.prefix_cons_iff.mp hmore with rfl | ⟨octets, rfl, hreturn⟩
    · rw [List.append_nil]
      exact breaksOff_lengthLine hlength
    · rcases List.prefix_cons_iff.mp hreturn with rfl | ⟨octets, rfl, htext⟩
      · exact breaksOff_return hlength
      · have hshort : octets.length < text.length := by
          apply Nat.lt_of_le_of_ne htext.length_le
          intro hall
          apply hne
          rw [htext.eq_of_length hall, hblank]
          rfl
        have hbreaks := breaksOff_text hlength hshort
        rw [hblank] at hbreaks
        exact hbreaks

/-! ## Streams that break off -/

/-- A value whose frame is read. -/
structure Framable (v : Json) : Prop where
  proper : v.Proper
  integral : v.Integral
  depth : v.depth ≤ Json.Draft.maxDepth
  length : (Utf8.encode v.compact).length < maxLength

theorem Framable.read_encode (h : Framable v) (closed : Bool) (rest : List UInt8) :
    read closed (encode v ++ rest) = .message v rest :=
  Frame.read_encode closed h.proper h.integral h.depth h.length rest

/-- The octets of messages. -/
def stream (messages : List Json) : List UInt8 := messages.flatMap encode

@[simp] theorem stream_nil : stream [] = [] := rfl

@[simp] theorem stream_cons (v : Json) (messages : List Json) :
    stream (v :: messages) = encode v ++ stream messages := rfl

theorem stream_append (messages messages' : List Json) :
    stream (messages ++ messages') = stream messages ++ stream messages' := List.flatMap_append

variable {messages : List Json}

/-- A beginning of a stream consists of whole frames and of a part of the next one. -/
theorem prefix_stream (h : ∀ v ∈ messages, Framable v) (hcut : octets <+: stream messages) :
    ∃ k rest, k ≤ messages.length ∧ octets = stream (messages.take k) ++ rest ∧ BreaksOff rest ∧
      ∀ j ≤ messages.length, stream (messages.take j) <+: octets ↔ j ≤ k := by
  -- the first frame lies in the octets, or they end in it
  induction messages generalizing octets with
  | nil =>
    obtain rfl := List.prefix_nil.mp hcut
    refine ⟨0, [], Nat.le_refl 0, rfl, breaksOff_nil, fun j hj => ?_⟩
    simpa using Nat.le_zero.mp hj
  | cons v messages ih =>
    obtain ⟨hv, hmessages⟩ := List.forall_mem_cons.mp h
    by_cases hwhole : encode v <+: octets
    · obtain ⟨octets, rfl⟩ := hwhole
      obtain ⟨k, rest, hk, rfl, hrest, hmax⟩ :=
        ih hmessages ((List.prefix_append_right_inj _).mp hcut)
      refine ⟨k + 1, rest, Nat.succ_le_succ hk, ?_, hrest, fun j hj => ?_⟩
      · rw [List.take_succ_cons, stream_cons, List.append_assoc]
      · cases j with
        | zero => simp
        | succ j =>
          rw [List.take_succ_cons, stream_cons, List.prefix_append_right_inj,
            hmax j (Nat.le_of_succ_le_succ hj), Nat.succ_le_succ_iff]
    · have hpart : octets <+: encode v :=
        (List.prefix_or_prefix_of_prefix hcut (List.prefix_append _ _)).resolve_right hwhole
      have hne : octets ≠ encode v := by rintro rfl; exact hwhole (List.prefix_refl _)
      refine ⟨0, octets, Nat.zero_le _, rfl, breaksOff_of_prefix hv.length hpart hne,
        fun j hj => ?_⟩
      cases j with
      | zero => simp
      | succ j =>
        rw [List.take_succ_cons, stream_cons]
        refine ⟨fun hlong => absurd ((List.prefix_append _ _).trans hlong) hwhole, nofun⟩

/-- Messages are read from a closed stream up to the octets that hold none. -/
theorem readUpTo_stream (h : ∀ v ∈ messages, Framable v) (hrest : BreaksOff rest) {fuel : Nat}
    (hfuel : messages.length < fuel) :
    ∃ ending, (ending = .finished ∨ ∃ e, ending = .failed e) ∧
      readUpTo fuel (stream messages ++ rest) = (messages, ending) := by
  induction messages generalizing fuel with
  | nil =>
    obtain ⟨fuel, rfl⟩ := Nat.exists_eq_succ_of_ne_zero (Nat.ne_zero_of_lt hfuel)
    rw [stream_nil, List.nil_append, readUpTo]
    rcases hrest.ends with hends | ⟨e, hends⟩
    · exact ⟨.finished, .inl rfl, by rw [hends]⟩
    · exact ⟨.failed e, .inr ⟨e, rfl⟩, by rw [hends]⟩
  | cons v messages ih =>
    obtain ⟨fuel, rfl⟩ := Nat.exists_eq_succ_of_ne_zero (Nat.ne_zero_of_lt hfuel)
    obtain ⟨hv, hmessages⟩ := List.forall_mem_cons.mp h
    obtain ⟨ending, hending, hread⟩ := ih hmessages (Nat.lt_of_succ_lt_succ hfuel)
    refine ⟨ending, hending, ?_⟩
    rw [stream_cons, List.append_assoc, readUpTo, hv.read_encode]
    simp only [hread]

/-- Every message takes an octet, so that reading does not stop before the last one. -/
theorem length_le_stream (messages : List Json) : messages.length ≤ (stream messages).length := by
  induction messages with
  | nil => exact Nat.zero_le _
  | cons v messages ih =>
    have hframe := length_encode_pos v
    rw [stream_cons, List.length_append, List.length_cons]
    omega

/-- A stream of messages that breaks off at some octet. The messages that are read are those whose
frames lie in it, as many of the first ones as there is room for, and then the stream ends or the
reader fails. One by one: where the reader stands in front of a whole frame it reads that message,
whether or not the stream is closed. Where it stands in front of the octets behind the last whole
frame it reads none: it waits while the stream is open, and once the stream is closed it reports
the end or an error. -/
theorem readAll_prefix (h : ∀ v ∈ messages, Framable v) (hcut : octets <+: stream messages) :
    ∃ k rest ending, k ≤ messages.length ∧
      (∀ j ≤ messages.length, stream (messages.take j) <+: octets ↔ j ≤ k) ∧
      readAll octets = (messages.take k, ending) ∧
      (ending = .finished ∨ ∃ e, ending = .failed e) ∧
      octets = stream (messages.take k) ++ rest ∧
      (∀ closed front v back, messages.take k = front ++ v :: back →
        read closed (stream (v :: back) ++ rest) = .message v (stream back ++ rest)) ∧
      read false rest = .waiting ∧
      (read true rest = .finished ∨ ∃ e, read true rest = .failed e) := by
  obtain ⟨k, rest, hk, rfl, hrest, hmax⟩ := prefix_stream h hcut
  have hwhole : ∀ v ∈ messages.take k, Framable v := fun v hv => h v (List.mem_of_mem_take hv)
  have hfuel : (messages.take k).length < (stream (messages.take k) ++ rest).length + 1 := by
    have hle := length_le_stream (messages.take k)
    rw [List.length_append]
    omega
  obtain ⟨ending, hending, hread⟩ := readUpTo_stream hwhole hrest hfuel
  refine ⟨k, rest, ending, hk, hmax, hread, hending, rfl, ?_, hrest.waits, hrest.ends⟩
  intro closed front v back htake
  have hv : v ∈ messages.take k := by
    rw [htake]
    exact List.mem_append_right front List.mem_cons_self
  rw [stream_cons, List.append_assoc]
  exact (hwhole v hv).read_encode closed (stream back ++ rest)

/-- A character of two octets, and a list whose text has 13 octets. -/
def pair : List Json := [.string "é", .array [.string "one", .string "two"]]

/-- The stream breaks off between the two digits of the second length, so that a length of one octet
stands there. -/
theorem readAll_prefix_pair :
    (∀ v ∈ pair, Framable v) ∧ (stream pair).take 42 <+: stream pair ∧
      (stream pair).take 42 = encode (.string "é") ++ Utf8.encode "Content-Length: 1" ∧
      ∃ ending, readAll ((stream pair).take 42) = ([.string "é"], ending) := by
  have hframable : ∀ v ∈ pair, Framable v := by
    intro v hv
    simp only [pair, List.mem_cons, List.not_mem_nil, or_false] at hv
    rcases hv with rfl | rfl
    · exact ⟨trivial, trivial, by decide, length_encode_compact_lt (by decide +kernel)⟩
    · exact ⟨⟨trivial, trivial, trivial⟩, ⟨trivial, trivial, trivial⟩, by decide,
        length_encode_compact_lt (by decide +kernel)⟩
  have hcut : (stream pair).take 42 <+: stream pair := List.take_prefix 42 (stream pair)
  obtain ⟨k, rest, ending, hk, hmax, hread, -⟩ := readAll_prefix hframable hcut
  have hfirst : 1 ≤ k := (hmax 1 (by decide)).mp (by decide)
  have hsecond : ¬ 2 ≤ k := fun hle => absurd ((hmax 2 (by decide)).mpr hle) (by decide)
  obtain rfl : k = 1 := by omega
  exact ⟨hframable, hcut, by decide, ending, hread⟩

end Protocol.Frame

end AnalyzerClient
