import AnalyzerClient.Proofs.Json.RoundTrip
import AnalyzerClient.Proofs.Text.Blank
import AnalyzerClient.Proofs.Text.Line
import AnalyzerClient.Protocol.Frame

/-!
# Reading a framed message

The octets of a framed message are read as the message, and what stands behind them is left
(`Frame.read_encode`).
-/

namespace AnalyzerClient

namespace Text

/-! ## Numerals -/

namespace Numeral

theorem read?_digits {n bound : Nat} (h : n < bound) : read? bound (digits n) = some n := by
  have hdigit : ∀ c ∈ digits n, isDigit c = true := fun c hc => isDigit_of_mem_digits hc
  have hunsigned : unsigned (digits n) = digits n := by
    cases hds : digits n with
    | nil => rfl
    | cons c cs =>
      have hc : isDigit c = true := hdigit c (by rw [hds]; exact List.mem_cons_self)
      unfold unsigned
      split
      · next he => cases he; cases hc
      · rfl
  have hall : (digits n).all isDigit = true := List.all_eq_true.mpr hdigit
  rw [read?, hunsigned, value_digits, hall, if_neg (by simpa using digits_ne_nil n), if_pos h]

end Numeral

/-! ## Octets of texts -/

namespace Utf8

theorem encode_append (s t : String) : encode (s ++ t) = encode s ++ encode t := by
  simp [encode]

theorem decode_encode (s : String) : decode (encode s) = .ok s := by
  rw [decode, decode?_encode]

/-- No character has more than four octets. -/
theorem length_encode_le (s : String) : (encode s).length ≤ 4 * s.toList.length := by
  rw [encode, List.length_flatMap]
  induction s.toList with
  | nil => exact Nat.le_refl _
  | cons c cs ih =>
    have hc : (String.utf8EncodeChar c).length ≤ 4 := by
      rw [String.length_utf8EncodeChar]
      exact c.utf8Size_le_four
    rw [List.map_cons, List.sum_cons, List.length_cons]
    omega

/-- A newline among the octets of a text is one of its characters. -/
theorem newline_mem_of_mem_encode {s : String} (h : 10 ∈ encode s) : '\n' ∈ s.toList := by
  obtain ⟨c, hc, hb⟩ := List.mem_flatMap.mp h
  have hval : c.toNat = c.val.toNat := rfl
  have hnewline : c.toNat = 10 := by
    simp only [String.utf8EncodeChar] at hb
    -- the octets of a longer character are all 128 or more
    split at hb
    · have hoctet : 10 = c.val.toNat % 256 := congrArg UInt8.toNat (List.mem_singleton.mp hb)
      omega
    · split at hb
      · simp [← UInt8.toNat_inj] at hb
        omega
      · split at hb
        · simp [← UInt8.toNat_inj] at hb
          omega
        · simp [← UInt8.toNat_inj] at hb
          omega
  rwa [← show c = '\n' from Char.toNat_inj.mp hnewline]

/-- A character of a line that takes one octet. -/
def isLineChar (c : Char) : Bool := c.toNat < 128 && c ≠ '\n'

theorem not_mem_encode {s : String} (h : ∀ c ∈ s.toList, isLineChar c = true) : 10 ∉ encode s := by
  intro hmem
  have hnewline : isLineChar '\n' = true := h '\n' (newline_mem_of_mem_encode hmem)
  exact absurd hnewline (by decide)

end Utf8

end Text

namespace Protocol.Frame

open Text
open Json (spreadChars_compact)

/-- The line with the length of a message. -/
def lengthLine (n : Nat) : String := lengthHeader ++ ": " ++ Numeral.render n ++ "\r\n"

theorem toList_lengthLine (n : Nat) :
    (lengthLine n).toList =
      lengthHeader.toList ++ ':' :: ' ' :: (Numeral.digits n ++ ['\r', '\n']) := by
  simp [lengthLine, Numeral.render]

theorem isLineChar_of_isDigit {c : Char} (h : Numeral.isDigit c = true) :
    Utf8.isLineChar c = true := by
  have hne : c ≠ '\n' := by rintro rfl; cases h
  simpa [Utf8.isLineChar, hne] using Nat.lt_of_le_of_lt (Numeral.isDigit_iff.mp h).2 (by decide)

theorem encode_lengthLine (n : Nat) :
    ∃ line, 10 ∉ line ∧ Utf8.encode (lengthLine n) = line ++ [10] := by
  refine ⟨Utf8.encode (lengthHeader ++ ": " ++ Numeral.render n ++ "\r"), ?_, ?_⟩
  · refine Utf8.not_mem_encode fun c hc => ?_
    have hfront : (lengthHeader ++ ": ").toList.all Utf8.isLineChar = true := by decide
    rw [String.toList_append, String.toList_append, Numeral.render, String.toList_ofList] at hc
    rcases List.mem_append.mp hc with hc | hc
    · rcases List.mem_append.mp hc with hc | hc
      · exact List.all_eq_true.mp hfront c hc
      · exact isLineChar_of_isDigit (Numeral.isDigit_of_mem_digits hc)
    · rw [List.mem_singleton.mp hc]; decide
  · rw [lengthLine, Utf8.encode_append, Utf8.encode_append _ "\r", List.append_assoc]
    rfl

theorem ofLine_lengthLine {n : Nat} (h : n < Word.count64) :
    Header.ofLine (lengthLine n) = .length n := by
  obtain ⟨ds, c, hds⟩ := (List.eq_nil_or_concat _).resolve_left (Numeral.digits_ne_nil n)
  rw [List.concat_eq_append] at hds
  have hblank : ∀ d ∈ Numeral.digits n, isBlank d = false := fun d hd =>
    Numeral.isBlank_of_isDigit (Numeral.isDigit_of_mem_digits hd)
  have hlast : isBlank c = false := hblank c (by rw [hds]; simp)
  have htrim : Chars.trim (lengthLine n).toList =
      lengthHeader.toList ++ ':' :: ' ' :: Numeral.digits n := by
    have hstart : Chars.trimStart (lengthLine n).toList = (lengthLine n).toList := by
      rw [toList_lengthLine]
      exact Chars.trimStart_of_head (by decide)
    have hassoc : (lengthLine n).toList =
        ((lengthHeader.toList ++ ':' :: ' ' :: ds) ++ [c]) ++ ['\r', '\n'] := by
      rw [toList_lengthLine, hds]; simp
    have hend : ∀ c ∈ ['\r', '\n'], isBlank c = true := List.all_eq_true.mp (by decide)
    rw [Chars.trim, hstart, hassoc, Chars.trimEnd_append hend, Chars.trimEnd_concat hlast,
      hds]
    simp
  have hvalue : Chars.trim (' ' :: Numeral.digits n) = Numeral.digits n := by
    have hstart : Chars.trimStart (' ' :: Numeral.digits n) = Numeral.digits n := by
      rw [Chars.trimStart, List.dropWhile_cons_of_pos (by decide)]
      cases hcs : Numeral.digits n with
      | nil => rfl
      | cons d cs =>
        exact Chars.trimStart_of_head (hblank d (by rw [hcs]; exact List.mem_cons_self))
    rw [Chars.trim, hstart, hds, Chars.trimEnd_concat hlast]
  have hsplit : Chars.splitOnce ':' (lengthHeader.toList ++ ':' :: ' ' :: Numeral.digits n) =
      some (lengthHeader.toList, ' ' :: Numeral.digits n) := Chars.splitOnce_append (by decide) _
  have hname : eqIgnoringCase (String.ofList lengthHeader.toList) lengthHeader = true := by decide
  rw [Header.ofLine, htrim]
  simp only [hsplit, hname, hvalue, Numeral.readWord?, Numeral.read?_digits h]
  rfl

/-- What is made of the first line of headers, and of the lines behind it. -/
theorem readHeaders_line {closed : Bool} {length : Option Nat} {octets line rest : List UInt8}
    (hnext : Line.next? octets = some (line, rest))
    (hwhole : closed = true ∨ isWhole line = true) :
    readHeaders closed length octets = match Utf8.decode line with
      | .error e => .failed (.transport (.badLine e))
      | .ok text =>
        match Header.ofLine text with
        | .blank => .length length rest
        | .length n => readHeaders closed (some n) rest
        | .badLength text => .failed (.protocol (.badLength text))
        | .other => readHeaders closed length rest := by
  rw [readHeaders]
  split
  · next hnone => rw [hnext] at hnone; cases hnone
  · next hsome =>
    cases hnext.symm.trans hsome
    have hgo : (!closed && !isWhole line) = false := by
      rcases hwhole with rfl | hwhole
      · rfl
      · rw [hwhole, Bool.not_true, Bool.and_false]
    rw [hgo]
    rfl

theorem readHeaders_eq {closed : Bool} {length : Option Nat} {octets line rest : List UInt8}
    {text : String} (hnext : Line.next? octets = some (line, rest))
    (hwhole : closed = true ∨ isWhole line = true) (htext : Utf8.decode line = .ok text) :
    readHeaders closed length octets = match Header.ofLine text with
      | .blank => .length length rest
      | .length n => readHeaders closed (some n) rest
      | .badLength text => .failed (.protocol (.badLength text))
      | .other => readHeaders closed length rest := by
  rw [readHeaders_line hnext hwhole, htext]

/-- The line with the length is read, whatever stands behind it. -/
theorem readHeaders_lengthLine (closed : Bool) {n : Nat} (h : n < Word.count64)
    (rest : List UInt8) :
    readHeaders closed none (Utf8.encode (lengthLine n) ++ rest) =
      readHeaders closed (some n) rest := by
  obtain ⟨line, hline, hencode⟩ := encode_lengthLine n
  have hnext : Line.next? (Utf8.encode (lengthLine n) ++ rest) =
      some (Utf8.encode (lengthLine n), rest) := by
    rw [hencode, List.append_assoc]
    exact Line.next?_append hline _
  have hwhole : isWhole (Utf8.encode (lengthLine n)) = true := by
    rw [isWhole, hencode, List.getLast?_concat]; rfl
  rw [readHeaders_eq hnext (.inr hwhole) (Utf8.decode_encode _), ofLine_lengthLine h]

theorem readHeaders_encode (closed : Bool) {n : Nat} (h : n < Word.count64) (rest : List UInt8) :
    readHeaders closed none (Utf8.encode (lengthLine n) ++ (Utf8.encode "\r\n" ++ rest)) =
      .length (some n) rest := by
  have hnext : Line.next? (Utf8.encode "\r\n" ++ rest) = some (Utf8.encode "\r\n", rest) :=
    Line.next?_append (show (10 : UInt8) ∉ [13] by decide) rest
  rw [readHeaders_lengthLine closed h,
    readHeaders_eq hnext (.inr (by decide)) (Utf8.decode_encode _)]
  rfl

/-- A frame is the line with the length, an empty line, and the text. -/
theorem encode_eq (v : Json) :
    encode v = Utf8.encode (lengthLine (Utf8.encode v.compact).length) ++
      (Utf8.encode "\r\n" ++ Utf8.encode v.compact) := by
  have hrender : render v = lengthLine (Utf8.encode v.compact).length ++ "\r\n" ++ v.compact :=
    String.toList_inj.mp (by simp [render, lengthLine])
  rw [encode, hrender, Utf8.encode_append, Utf8.encode_append, List.append_assoc]

theorem length_encode_pos (v : Json) : 0 < (encode v).length := by
  obtain ⟨line, -, hencode⟩ := encode_lengthLine (Utf8.encode v.compact).length
  rw [encode_eq, hencode]
  simp only [List.length_append, List.length_singleton]
  omega

/-- A value with few characters has a length that memory can hold. -/
theorem length_encode_compact_lt {v : Json} (h : 4 * v.compactChars.length < maxLength) :
    (Utf8.encode v.compact).length < maxLength := by
  refine Nat.lt_of_le_of_lt (Utf8.length_encode_le _) ?_
  rwa [Json.compact, String.toList_ofList]

/-- A message that no memory can hold is not read. -/
theorem read_of_maxLength_le (closed : Bool) {n : Nat} (hlength : maxLength ≤ n)
    (h : n < Word.count64) (rest : List UInt8) :
    read closed (Utf8.encode (lengthLine n) ++ (Utf8.encode "\r\n" ++ rest)) = .breakdown n := by
  rw [read, readHeaders_encode closed h]
  exact if_pos hlength

/-- What is read from a frame is the value of its text. -/
theorem read_frame (closed : Bool) {v : Json}
    (hlength : (Utf8.encode v.compact).length < maxLength) (rest : List UInt8) :
    read closed (encode v ++ rest) = match Json.ofOctets (Utf8.encode v.compact) with
      | .ok value => .message value rest
      | .error fault => .failed (.json fault) := by
  have hencode : encode v ++ rest = Utf8.encode (lengthLine (Utf8.encode v.compact).length) ++
      (Utf8.encode "\r\n" ++ (Utf8.encode v.compact ++ rest)) := by
    rw [encode_eq, List.append_assoc, List.append_assoc]
  have hcount : (Utf8.encode v.compact).length < Word.count64 :=
    Nat.lt_trans hlength (by decide)
  rw [read, hencode, readHeaders_encode closed hcount]
  cases hvalue : Json.ofOctets (Utf8.encode v.compact) <;>
    simp only [if_neg (Nat.not_le.mpr hlength), List.take_left', List.drop_left',
      if_neg (Nat.lt_irrefl _), hvalue]

theorem ofOctets_compact (v : Json) :
    Json.ofOctets (Utf8.encode v.compact) = Json.ofChars v.compactChars := by
  rw [Json.ofOctets, Utf8.decode?_encode]
  simp only [Json.ofText, Json.compact, String.toList_ofList]

theorem ofOctets_encode_compact {v : Json} (hp : v.Proper) (hi : v.Integral)
    (hd : v.depth ≤ Json.Draft.maxDepth) : Json.ofOctets (Utf8.encode v.compact) = .ok v := by
  rw [ofOctets_compact, ← spreadChars_compact 0]
  exact Json.ofChars_spread hp hi hd

/-- A framed message is read. -/
theorem read_encode (closed : Bool) {v : Json} (hp : v.Proper) (hi : v.Integral)
    (hd : v.depth ≤ Json.Draft.maxDepth) (hlength : (Utf8.encode v.compact).length < maxLength)
    (rest : List UInt8) : read closed (encode v ++ rest) = .message v rest := by
  rw [read_frame closed hlength, ofOctets_encode_compact hp hi hd]

end Protocol.Frame

end AnalyzerClient
