import AnalyzerClient.Proofs.Client.Prompt
import AnalyzerClient.Proofs.CommandLine.Overflow
import AnalyzerClient.Proofs.Json.Numeral
import AnalyzerClient.Proofs.Json.Record
import AnalyzerClient.Proofs.Protocol.Location
import AnalyzerClient.Proofs.Text.Blank

/-!
# Coordinates that are shown

Positions count from zero, and the user sees them counted from one. What is shown for a position
leads back to it (`Protocol.Position.ofCursor_of_shown`); the last line and the last column that
there are cannot be shown. The command that asks for matching braces sends the position of its
cursor and shows the positions of the reply (`CommandLine.dispatch_matchingBrace`).
-/

namespace AnalyzerClient

namespace Text.Numeral

theorem digits_injective : Function.Injective digits := by
  intro m n h
  have hvalue := congrArg value h
  rwa [value_digits, value_digits] at hvalue

theorem colon_not_mem_digits (n : Nat) : ':' ∉ digits n := by
  intro h
  have hdigit := isDigit_of_mem_digits h
  cases hdigit

end Text.Numeral

namespace Json.Decoder

variable {α : Type} {d : Draft} {ds : List Draft} {n bound : Nat}

theorem lt_of_natBelow (h : natBelow bound d = .ok n) : n < bound := by
  obtain ⟨k, hk, rfl⟩ := map_eq_ok.mp h
  unfold intBetween at hk
  split at hk
  · split at hk
    · next hrange =>
      cases hk
      omega
    · cases hk
  · cases hk

theorem decode_of_ofJson {decode : Decoder α} {v : Json} {a : α} (h : decode.ofJson v = .ok a) :
    decode (Draft.ofJson v) = .ok a := by
  rw [ofJson] at h
  cases hdecode : decode (Draft.ofJson v) with
  | error f => rw [hdecode] at h; cases h
  | ok a' => rw [hdecode] at h; cases h; rfl

/-- What is true of whatever a decoder gives is true of all items. -/
theorem forall_of_list {decode : Decoder α} {P : α → Prop} (hP : ∀ d a, decode d = .ok a → P a)
    {as : List α} (h : list decode d = .ok as) : ∀ a ∈ as, P a := by
  have hitems (ds : List Draft) (as : List α) (h : items decode ds = .ok as) : ∀ a ∈ as, P a := by
    induction ds generalizing as with
    | nil =>
      cases h
      nofun
    | cons d ds ih =>
      obtain ⟨a, ha, h⟩ := bind_eq_ok.mp h
      obtain ⟨as, has, h⟩ := bind_eq_ok.mp h
      cases h
      exact List.forall_mem_cons.mpr ⟨hP d a ha, ih as has⟩
  cases d with
  | array ds => exact hitems ds as h
  | _ => cases h

end Json.Decoder

namespace Protocol.Position

open Text (Numeral.render)
open Json (Decoder.lt_of_natBelow Record.decode_eq_ok Record.seq_build_eq_ok
  Record.map_build_eq_ok Record.required_build_eq_ok)

variable {p : Position} {line column : Nat}

theorem fits_of_decode (d : Json.Draft) (p : Position) (h : decode d = .ok p) : p.Fits := by
  obtain ⟨present, hbuild⟩ : ∃ present, record.build present = .ok p := by
    rcases Record.decode_eq_ok h with ⟨ms, -, -, hbuild⟩ | ⟨ds, -, -, hbuild⟩
    · exact ⟨_, hbuild⟩
    · exact ⟨_, hbuild⟩
  obtain ⟨make, character, hmake, hcharacter, rfl⟩ := Record.seq_build_eq_ok.mp hbuild
  obtain ⟨line, hline, rfl⟩ := Record.map_build_eq_ok.mp hmake
  obtain ⟨d₁, -, hfirst⟩ := Record.required_build_eq_ok.mp hline
  obtain ⟨d₂, -, hsecond⟩ := Record.required_build_eq_ok.mp hcharacter
  exact ⟨Decoder.lt_of_natBelow hfirst, Decoder.lt_of_natBelow hsecond⟩

theorem pairText_inj {line' column' : Nat} :
    pairText line column = pairText line' column' ↔ line = line' ∧ column = column' := by
  constructor
  · intro h
    have split (l k : Nat) : Text.Chars.splitOnce ':' (pairText l k).toList =
        some (Text.Numeral.digits l, Text.Numeral.digits k) := by
      have htext : (pairText l k).toList =
          Text.Numeral.digits l ++ ':' :: Text.Numeral.digits k := by
        simp [pairText, Numeral.render]
      rw [htext, Text.Chars.splitOnce_append (Text.Numeral.colon_not_mem_digits l)]
    have hparts := (split line column).symm.trans (h ▸ split line' column')
    obtain ⟨hline, hcolumn⟩ := Prod.mk.inj (Option.some.inj hparts)
    exact ⟨Text.Numeral.digits_injective hline, Text.Numeral.digits_injective hcolumn⟩
  · rintro ⟨rfl, rfl⟩
    rfl

theorem shown_eq_ok_iff : p.shown = .ok (pairText line column) ↔
    (p.line + 1 < Word.count32 ∧ p.character + 1 < Word.count32) ∧
      line = p.line + 1 ∧ column = p.character + 1 := by
  rw [shown]
  split_ifs with hline hcharacter
  · rw [Except.ok.injEq, pairText_inj]
    exact ⟨fun h => ⟨⟨hline, hcharacter⟩, h.1.symm, h.2.symm⟩, fun h => ⟨h.2.1.symm, h.2.2.symm⟩⟩
  · exact iff_of_false (by rintro ⟨⟩) fun h => hcharacter h.1.2
  · exact iff_of_false (by rintro ⟨⟩) fun h => hline h.1.1

/-- What is shown is a line and a column of 32 bits, and leads back to the position. -/
theorem ofCursor_of_shown (h : p.shown = .ok (pairText line column)) :
    line < Word.count32 ∧ column < Word.count32 ∧ ofCursor line column = p := by
  obtain ⟨⟨hline, hcharacter⟩, rfl, rfl⟩ := shown_eq_ok_iff.mp h
  exact ⟨hline, hcharacter, rfl⟩

/-- The position of a cursor is the only one that is shown as the cursor. -/
theorem shown_eq_iff (hline : 1 ≤ line) (hline' : line < Word.count32) (hcolumn : 1 ≤ column)
    (hcolumn' : column < Word.count32) :
    p.shown = .ok (pairText line column) ↔ p = ofCursor line column := by
  rw [shown_eq_ok_iff]
  obtain ⟨l, k⟩ := p
  simp only [ofCursor, Position.mk.injEq]
  omega

end Protocol.Position

namespace CommandLine

open Protocol (Message.notificationJson Position Request)

variable {α : Type} {settings : Settings.Config} {cursor : Cursor} {c : Console} {x x' : Exchange}
  {document : DocumentPosition} {positions : List Position}

theorem decodeResult_of_request {r : Request α} {a : α}
    (h : ExchangeM.request r x = some (.ok a, x')) :
    ∃ raw, ExchangeM.decodeResult r raw = .ok a := by
  rw [ExchangeM.request, ExchangeM.bind_eq_some] at h
  obtain ⟨sent, x₁, -, h⟩ := h
  cases sent with
  | error e => cases h
  | ok id =>
    dsimp only at h
    rw [ExchangeM.settle_bind_run, ExchangeM.bind_eq_some] at h
    obtain ⟨raw, x₂, -, h⟩ := h
    exact ⟨raw, (Prod.mk.inj (Option.some.inj h)).1⟩

/-- The command that asks for matching braces shows a line and a column of 32 bits for each position
of the reply, which lead back to the position, up to the first position with the greatest number of
32 bits, at which the program breaks down. It sends the position of its cursor; this is the one
position that is shown as the cursor, when the cursor counts from one. -/
theorem dispatch_matchingBrace
    (hopen : (SessionM.openFile cursor.file cursor.line cursor.column).run c.exchange =
      some (.ok document, x))
    (hreply : ExchangeM.request (.matchingBrace document.uri [document.position]) x =
      some (.ok positions, x')) :
    (∃ text result, Shows positions text result ∧
      dispatch settings (.matchingBrace cursor) c =
        some (result, { c with exchange := x', output := c.output ++ text }) ∧
      (result = .ok () ↔
        ∀ p ∈ positions, p.line + 1 < Word.count32 ∧ p.character + 1 < Word.count32)) ∧
    (∀ p ∈ positions, p.Fits ∧ ∀ line column, p.shown = .ok (Position.pairText line column) →
      line < Word.count32 ∧ column < Word.count32 ∧ Position.ofCursor line column = p) ∧
    document.position = .ofCursor cursor.line cursor.column ∧
    (1 ≤ cursor.line → cursor.line < Word.count32 → 1 ≤ cursor.column →
      cursor.column < Word.count32 → ∀ p : Position,
        (p.shown = .ok (Position.pairText cursor.line cursor.column) ↔ p = document.position)) := by
  have hposition := (document_of_openFile hopen).2
  obtain ⟨text, result, hshows, hrun⟩ := dispatch_matchingBrace_eq hopen hreply
  refine ⟨⟨text, result, hshows, hrun, hshows.eq_ok_iff⟩, fun p hp => ⟨?_, fun line column h => ?_⟩,
    hposition, fun hline hline' hcolumn hcolumn' p => ?_⟩
  · obtain ⟨raw, hraw⟩ := decodeResult_of_request hreply
    obtain ⟨value, -, hvalue⟩ := ExchangeM.decodeResult_eq_ok hraw
    exact Json.Decoder.forall_of_list Position.fits_of_decode
      (Json.Decoder.decode_of_ofJson hvalue) p hp
  · exact Position.ofCursor_of_shown h
  · rw [hposition]
    exact Position.shown_eq_iff hline hline' hcolumn hcolumn'

/-- A client with a running server, which replies with the place of
a cursor and with the last line there is. -/
def matching : Exchange where
  client :=
    { Client.new (.analyzer "wa") with
      state := .running, readers := [0], transport := some 0, process := some 0 }
  links := [⟨Peer.started ⟨"wa", [], [], none⟩ [[.reply (.object [("result",
    .array [(⟨6, 4⟩ : Position).toJson, (⟨4294967295, 0⟩ : Position).toJson])])]], true⟩]
  scripts := []
  machine := ⟨⟨[("/w", .directory), ("/w/a.wby", .file [97] false)], "/w"⟩, [], 1⟩

/-- The place of a cursor in the document of this client. -/
def matchingDocument : DocumentPosition := ⟨⟨"file:///w/a.wby"⟩, "webby", ⟨6, 4⟩⟩

/-- What this server sends as its result. -/
def matchingReply : Json := .object [("result",
  .array [(⟨6, 4⟩ : Position).toJson, (⟨4294967295, 0⟩ : Position).toJson])]

theorem framable_matchingReply :
    Protocol.Frame.Framable (Peer.complete (.ofInt 1) matchingReply) := by
  have hcomplete : Peer.complete (.ofInt 1) matchingReply = .mkObject [("result",
      .array [(⟨6, 4⟩ : Position).toJson, (⟨4294967295, 0⟩ : Position).toJson]),
      ("jsonrpc", .string "2.0"), ("id", .ofInt 1)] := rfl
  rw [hcomplete]
  refine ⟨?_, ?_, by decide, Protocol.Frame.length_encode_compact_lt (by decide +kernel)⟩
  · apply Json.proper_mkObject
    simp only [List.forall_mem_cons]
    refine ⟨⟨?_, ?_, trivial⟩, trivial, ⟨by decide, by decide⟩, nofun⟩
    all_goals
      apply Json.proper_mkObject
      simp only [List.forall_mem_cons]
      exact ⟨⟨by decide, by decide⟩, ⟨by decide, by decide⟩, nofun⟩
  · apply Json.integral_mkObject
    simp only [List.forall_mem_cons]
    refine ⟨⟨?_, ?_, trivial⟩, trivial, rfl, nofun⟩
    all_goals
      apply Json.integral_mkObject
      simp only [List.forall_mem_cons]
      exact ⟨rfl, rfl, nofun⟩

/-- What the command asks this server. -/
def matchingRequest : Request (List Position) :=
  .matchingBrace matchingDocument.uri [matchingDocument.position]

/-- This client when it has told its server of a document. -/
def matchingTold (params : Json) : Exchange :=
  (matching.written 0 (Message.notificationJson Protocol.openMethod params)).react.react

theorem alone_matching :
    matching.Alone ⟨Peer.started ⟨"wa", [], [], none⟩ [[.reply matchingReply]], true⟩ :=
  ⟨rfl, rfl, rfl, rfl, Nat.one_pos, fun _ => rfl⟩

theorem idle_matching : matching.Idle (.analyzer "wa") matching.machine 1 [] := by
  refine ⟨⟨_, alone_matching, ⟨rfl, ?_⟩, rfl, rfl⟩, rfl, rfl, rfl⟩
  exact List.forall_mem_singleton.mpr (List.forall_mem_singleton.mpr rfl)

theorem told_matching (params : Json) :
    matching.told (Message.notificationJson Protocol.openMethod params) =
      matchingTold params :=
  (alone_matching.written _).settle_nothing rfl rfl

theorem openFile_matching : ∃ params, (SessionM.openFile "a.wby" 7 5).run matching =
    some (.ok matchingDocument, matchingTold params) := by
  obtain ⟨result, hopen⟩ := openFile_eq idle_matching rfl "a.wby" 7 5
  have hne : openCall (.analyzer "wa") matching.machine "a.wby" ≠ [] := by
    refine openCallAt_ne_nil_iff.mpr ⟨?_, ⟨"a", rfl⟩, ?_⟩
    all_goals decide +kernel
  obtain ⟨params, hcalls⟩ := (opened_cases (.matchingBrace ⟨"a.wby", 7, 5⟩) (.analyzer "wa")
    matching.machine).resolve_left hne
  have hplace : ((SessionM.openFile "a.wby" 7 5).run matching).map (·.1.toOption) =
      some (some matchingDocument) := by decide +kernel
  have htold : tell (openCall (.analyzer "wa") matching.machine "a.wby") matching =
      matchingTold params :=
    (congrArg (tell · matching) hcalls).trans (told_matching params)
  rw [htold] at hopen
  rw [hopen] at hplace
  cases result with
  | error f => cases hplace
  | ok document =>
    cases hplace
    exact ⟨params, hopen⟩

theorem request_matchingTold (params : Json) :
    ∃ x', ExchangeM.request matchingRequest (matchingTold params) =
      some (.ok [⟨6, 4⟩, ⟨4294967295, 0⟩], x') := by
  have hidle : (matchingTold params).Idle (.analyzer "wa") matching.machine 1
      [Message.notificationJson Protocol.openMethod params] := by
    rw [← told_matching]
    exact idle_matching.told Protocol.Message.isCall_notificationJson
      (Protocol.Message.isExit_notificationJson open_ne_exit)
  obtain ⟨hreacts, -⟩ := (alone_matching.written _).react
  obtain ⟨c, hregister, hasked⟩ := hidle.asked_eq_of_reply matchingRequest.params
    hreacts.react.1 rfl rfl rfl rfl (by decide : matchingRequest.method ≠ _) framable_matchingReply
  cases hregister
  have houtcome : ExchangeM.outcome ((matchingTold params).asked matchingRequest.method
      matchingRequest.params).client matchingRequest.method 1 =
        some (.ok (.array [(⟨6, 4⟩ : Position).toJson, (⟨4294967295, 0⟩ : Position).toJson])) := by
    rw [hasked]
    rfl
  rw [hidle.request_of_open rfl, houtcome]
  exact ⟨_, rfl⟩

theorem matching_replies : ∃ x x',
    (SessionM.openFile "a.wby" 7 5).run matching = some (.ok matchingDocument, x) ∧
    ExchangeM.request (.matchingBrace matchingDocument.uri [matchingDocument.position]) x =
      some (.ok [⟨6, 4⟩, ⟨4294967295, 0⟩], x') := by
  obtain ⟨params, hopen⟩ := openFile_matching
  obtain ⟨x', hrequest⟩ := request_matchingTold params
  exact ⟨matchingTold params, x', hopen, hrequest⟩

/-- The last line there is has no number that could be shown, and the program breaks down at it. -/
theorem dispatch_matchingBrace_last : ∃ c',
    dispatch Settings.Store.initial.config (.matchingBrace ⟨"a.wby", 7, 5⟩)
      ⟨matching, fun _ _ => {}, [], [], [], []⟩ = some (.error (.breakdown .line), c') ∧
    c'.output = Text.Utf8.encode "7:5\n" ∧
    ∀ p : Position, p.shown = .ok (Position.pairText 7 5) ↔ p = ⟨6, 4⟩ := by
  obtain ⟨x, x', hopen, hreply⟩ := matching_replies
  obtain ⟨⟨text, result, hshows, hrun, -⟩, -, -, hcursor⟩ := @dispatch_matchingBrace
    Settings.Store.initial.config ⟨"a.wby", 7, 5⟩ ⟨matching, fun _ _ => {}, [], [], [], []⟩ x x' _ _
    hopen hreply
  have hcursor := hcursor (by decide) (by decide) (by decide) (by decide)
  have htext : [] ++ (Text.Utf8.encode (Position.pairText 7 5 ++ "\n") ++ []) =
    Text.Utf8.encode "7:5\n" := by decide +kernel
  cases hshows with
  | line hgreatest => exact absurd (by decide) hgreatest
  | character _ hgreatest => exact absurd (by decide) hgreatest
  | next _ _ hrest =>
    cases hrest with
    | line => exact ⟨_, hrun, htext, hcursor⟩
    | character hline => exact absurd hline (by decide)
    | next hline => exact absurd hline (by decide)

end CommandLine

end AnalyzerClient
