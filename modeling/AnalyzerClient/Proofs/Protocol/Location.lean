import AnalyzerClient.Proofs.Json.Codec
import AnalyzerClient.Protocol.Location

/-!
# Places that are decoded again

Positions, ranges and links are decoded from their values, whatever the order of the members, when
the numbers have 32 bits. The URL of a link is read from its text, so that the link is decoded
exactly when that text is a URL, and it is the same link when the URL is the same
(`LocationLink.decode_eq_ok_iff`).
-/

namespace AnalyzerClient

namespace Protocol

open Json (Decoder Draft Record DistinctKeys)

variable {α : Type} {toJson : α → Json} {o : Option α} {name key : String}

/-! ## Members that may be left out -/

@[simp] theorem get?_member? : Dict.get? (member? name toJson o) key =
    if key = name then o.map toJson else none := by
  cases o with
  | none => simp [member?]
  | some a => by_cases h : key = name <;> simp [member?, Dict.get?_cons, h]

theorem textual_of_mem_member? {n : Nat} {p : String × Json} (hp : p ∈ member? name toJson o)
    (h : ∀ a ∈ o, (toJson a).Textual n) : p.2.Textual n := by
  obtain ⟨a, ha, rfl⟩ := Option.map_eq_some_iff.mp (Option.mem_toList.mp hp)
  exact h a ha

theorem keys_member?_sublist : ((member? name toJson o).map Prod.fst).Sublist [name] := by
  cases o with
  | none => exact List.nil_sublist _
  | some a => exact .refl _

/-! ## Positions and ranges -/

/-- The numbers of a position have 32 bits. -/
structure Position.Fits (p : Position) : Prop where
  line : p.line < Word.count32
  character : p.character < Word.count32

/-- The positions of a range fit. -/
def Range.Fits (r : Range) : Prop := r.start.Fits ∧ r.stop.Fits

instance (p : Position) : Decidable p.Fits :=
  decidable_of_iff (p.line < Word.count32 ∧ p.character < Word.count32)
    ⟨fun h => ⟨h.1, h.2⟩, fun h => ⟨h.line, h.character⟩⟩

instance (r : Range) : Decidable r.Fits := inferInstanceAs (Decidable (_ ∧ _))

/-- The ranges of a link fit. -/
structure LocationLink.Fits (l : LocationLink) : Prop where
  origin : ∀ r ∈ l.originRange, r.Fits
  range : l.range.Fits
  selection : l.selection.Fits

namespace Position

variable {p : Position}

theorem reads_decode (h : p.Fits) : Decoder.Reads decode p.toJson p := by
  have hrecord : record.Reads [("line", .ofNat p.line), ("character", .ofNat p.character)] p :=
    ((Record.reads_required rfl (Decoder.reads_nat32 h.line)).map Position.mk).seq
      (Record.reads_required rfl (Decoder.reads_nat32 h.character))
  exact hrecord.decode_mkObject (.of_sublist ["line", "character"] (.refl _) (by decide))

theorem textual_toJson (h : p.Fits) : p.toJson.Textual 1 := by
  refine Json.textual_mkObject ?_
  simp only [List.forall_mem_cons]
  exact ⟨Json.textual_ofNat32 h.line, Json.textual_ofNat32 h.character, nofun⟩

end Position

namespace Range

variable {r : Range}

theorem reads_decode (h : r.Fits) : Decoder.Reads decode r.toJson r := by
  have hrecord : record.Reads [("start", r.start.toJson), ("end", r.stop.toJson)] r :=
    ((Record.reads_required rfl (Position.reads_decode h.1)).map Range.mk).seq
      (Record.reads_required rfl (Position.reads_decode h.2))
  exact hrecord.decode_mkObject (.of_sublist ["start", "end"] (.refl _) (by decide))

theorem textual_toJson (h : r.Fits) : r.toJson.Textual 2 := by
  refine Json.textual_mkObject ?_
  simp only [List.forall_mem_cons]
  exact ⟨Position.textual_toJson h.1, Position.textual_toJson h.2, nofun⟩

end Range

/-! ## Links -/

theorem reads_decodeUri {uri uri' : Uri} (h : Uri.parse? uri.text = some uri') :
    Decoder.Reads decodeUri (uriToJson uri) uri' := by
  intro w hw
  rw [Json.reordered_string.mp hw]
  simp only [decodeUri, Draft.ofJson, Decoder.string, bind, Except.bind, h]

theorem exists_parse?_of_decodeUri {uri uri' : Uri} {w : Json} (hw : (uriToJson uri).Reordered w)
    (h : decodeUri (Draft.ofJson w) = .ok uri') : Uri.parse? uri.text = some uri' := by
  rw [Json.reordered_string.mp hw] at h
  simp only [decodeUri, Draft.ofJson, Decoder.string, bind, Except.bind] at h
  split at h
  · next hparse => rw [hparse, Except.ok.inj h]
  · cases h

namespace LocationLink

variable {l l' : LocationLink} {w : Json}

/-- The members of a link. -/
def members (l : LocationLink) : List (String × Json) :=
  member? "originSelectionRange" Range.toJson l.originRange ++ [
    ("targetUri", uriToJson l.uri),
    ("targetRange", l.range.toJson),
    ("targetSelectionRange", l.selection.toJson)]

theorem distinctKeys_members (l : LocationLink) : DistinctKeys l.members := by
  refine .of_sublist (["originSelectionRange"] ++
    ["targetUri", "targetRange", "targetSelectionRange"]) ?_ (by decide)
  rw [members, List.map_append]
  exact keys_member?_sublist.append (.refl _)

theorem get?_targetUri (l : LocationLink) :
    Dict.get? l.members "targetUri" = some (uriToJson l.uri) := by simp [members, Dict.get?_cons]

/-- The link with the URL that its URL's text is read as. -/
def reread? (l : LocationLink) : Option LocationLink :=
  (Uri.parse? l.uri.text).map fun uri => { l with uri := uri }

theorem reads_decode (hl : l.Fits) (h : l.reread? = some l') :
    Decoder.Reads decode l.toJson l' := by
  obtain ⟨uri, huri, rfl⟩ := Option.map_eq_some_iff.mp h
  have horigin : Dict.get? l.members "originSelectionRange" =
      l.originRange.map Range.toJson := by simp [members, Dict.get?_cons]
  have hrange : Dict.get? l.members "targetRange" = some l.range.toJson := by
    simp [members, Dict.get?_cons]
  have hselection : Dict.get? l.members "targetSelectionRange" = some l.selection.toJson := by
    simp [members, Dict.get?_cons]
  have hrecord : record.Reads l.members { l with uri := uri } :=
    ((((Record.reads_optional_skipped horigin (fun r hr => Range.reads_decode (hl.origin r hr))
      nofun).map LocationLink.mk).seq
      (Record.reads_required l.get?_targetUri (reads_decodeUri huri))).seq
      (Record.reads_required hrange (Range.reads_decode hl.range))).seq
      (Record.reads_required hselection (Range.reads_decode hl.selection))
  exact hrecord.decode_mkObject l.distinctKeys_members

/-- A link that is decoded has a URL that can be read. -/
theorem isSome_reread?_of_decode (hw : l.toJson.Reordered w)
    (h : decode (Draft.ofJson w) = .ok l') : l.reread?.isSome := by
  obtain ⟨ns, hns, rfl⟩ := hw.exists_arranged l.distinctKeys_members
  obtain ⟨ms, hms, -, hbuild⟩ | ⟨ds, hds, -⟩ := Record.decode_eq_ok h
  · cases hms
    obtain ⟨_, _, hbuild, -⟩ := Record.seq_build_eq_ok.mp hbuild
    obtain ⟨_, _, hbuild, -⟩ := Record.seq_build_eq_ok.mp hbuild
    obtain ⟨_, uri, -, huri, -⟩ := Record.seq_build_eq_ok.mp hbuild
    obtain ⟨d, hd, huri⟩ := Record.required_build_eq_ok.mp huri
    obtain ⟨w, hw, hpresent⟩ := hns.shows.exists_eq_some l.get?_targetUri
    cases hd.symm.trans hpresent
    rw [reread?, exists_parse?_of_decodeUri hw huri]
    rfl
  · cases hds

/-- A link is decoded from its value exactly when its URL can be read, and has that URL then. -/
theorem decode_eq_ok_iff (hl : l.Fits) (hw : l.toJson.Reordered w) :
    decode (Draft.ofJson w) = .ok l' ↔ l.reread? = some l' := by
  refine ⟨fun h => ?_, fun h => reads_decode hl h w hw⟩
  obtain ⟨l'', hl''⟩ := Option.isSome_iff_exists.mp (isSome_reread?_of_decode hw h)
  rw [hl'', Except.ok.inj ((reads_decode hl hl'' w hw).symm.trans h)]

theorem reread?_eq_self_iff : l.reread? = some l ↔ Uri.parse? l.uri.text = some l.uri := by
  cases l
  simp [reread?]

theorem textual_toJson (hl : l.Fits) : l.toJson.Textual 3 := by
  refine Json.textual_mkObject fun p hp => ?_
  rcases List.mem_append.mp hp with hp | hp
  · exact textual_of_mem_member? hp fun r hr => Range.textual_toJson (hl.origin r hr)
  · simp only [List.mem_cons, List.not_mem_nil, or_false] at hp
    rcases hp with rfl | rfl | rfl
    · exact Json.textual_string _
    · exact Range.textual_toJson hl.range
    · exact Range.textual_toJson hl.selection

end LocationLink

end Protocol

end AnalyzerClient
