import AnalyzerClient.Proofs.Protocol.Location
import AnalyzerClient.Runnable.Command
import AnalyzerClient.Runnable.Wire

/-!
# Runnables that are decoded again

A runnable is decoded from its value and from its text with all that it was encoded from, but for
the URL of its link, which is read from the URL's text (`Runnable.decode_eq_ok_iff`). The task is
the same in any case. What is decoded as a runnable has a label, the name of a kind, and arguments
with a directory (`Runnable.Complete`).
-/

namespace AnalyzerClient

open Json (Decoder Draft DistinctKeys Fault Record)
open Protocol (member? LocationLink)

/-! ## Tasks -/

namespace BuildTask

variable {t : BuildTask}

/-- The variables of a task are a dictionary. -/
def Fits (t : BuildTask) : Prop := ∀ d ∈ t.environment, Dict.Sorted d

/-- The members of a task. -/
def members (t : BuildTask) : List (String × Json) :=
  member? "workspaceRoot" .string t.workspaceRoot ++ [
    ("executableArgs", .ofStrings t.executableArgs),
    ("webbyArgs", .ofStrings t.toolArgs)] ++
    member? "overrideWebby" .string t.overrideTool ++
    member? "environment" .ofDict t.environment ++ [("cwd", .string t.directory)]

theorem distinctKeys_members (t : BuildTask) : DistinctKeys t.members := by
  refine .of_sublist (["workspaceRoot"] ++ ["executableArgs", "webbyArgs"] ++ ["overrideWebby"] ++
    ["environment"] ++ ["cwd"]) ?_ (by decide)
  simp only [members, List.map_append]
  exact (((Protocol.keys_member?_sublist.append (.refl _)).append
    Protocol.keys_member?_sublist).append Protocol.keys_member?_sublist).append (.refl _)

theorem reads_decode (h : t.Fits) : Decoder.Reads record.decode t.toJson t := by
  have hworkspaceRoot : Dict.get? t.members "workspaceRoot" = t.workspaceRoot.map .string := by
    simp [members, Dict.get?_cons]
  have hexecutableArgs : Dict.get? t.members "executableArgs" =
      some (.ofStrings t.executableArgs) := by simp [members, Dict.get?_cons]
  have htoolArgs : Dict.get? t.members "webbyArgs" = some (.ofStrings t.toolArgs) := by
    simp [members, Dict.get?_cons]
  have hoverrideTool : Dict.get? t.members "overrideWebby" = t.overrideTool.map .string := by
    simp [members, Dict.get?_cons]
  have henvironment : Dict.get? t.members "environment" = t.environment.map .ofDict := by
    simp [members, Dict.get?_cons]
  have hdirectory : Dict.get? t.members "cwd" = some (.string t.directory) := by
    simp [members, Dict.get?_cons]
  have hrecord : record.Reads t.members t :=
    ((((((Record.reads_defaultedOptional hworkspaceRoot (fun s _ => Decoder.reads_string s)
      nofun).map BuildTask.mk).seq
      (Record.reads_defaulted hexecutableArgs (Decoder.reads_strings _))).seq
      (Record.reads_defaulted htoolArgs (Decoder.reads_strings _))).seq
      (Record.reads_defaultedOptional hoverrideTool (fun s _ => Decoder.reads_string s) nofun)).seq
      (Record.reads_defaultedOptional henvironment (fun d hd => Decoder.reads_texts (h d hd))
        nofun)).seq
      (Record.reads_required hdirectory (Decoder.reads_string _))
  exact hrecord.decode_mkObject t.distinctKeys_members

theorem textual_of_mem_members {p : String × Json} (hp : p ∈ t.members) : p.2.Textual 1 := by
  simp only [members, List.mem_append, List.mem_cons, List.not_mem_nil, or_false] at hp
  rcases hp with (((hp | rfl | rfl) | hp) | hp) | rfl
  · exact Protocol.textual_of_mem_member? hp fun s _ => Json.textual_string s
  · exact Json.textual_ofStrings _
  · exact Json.textual_ofStrings _
  · exact Protocol.textual_of_mem_member? hp fun s _ => Json.textual_string s
  · exact Protocol.textual_of_mem_member? hp fun d _ => Json.textual_ofDict d
  · exact Json.textual_string _

end BuildTask

namespace ShellTask

variable {t : ShellTask}

/-- The variables of a task are a dictionary. -/
def Fits (t : ShellTask) : Prop := ∀ d ∈ t.environment, Dict.Sorted d

/-- The members of a task. -/
def members (t : ShellTask) : List (String × Json) :=
  [("program", .string t.program), ("args", .ofStrings t.args)] ++
    member? "environment" .ofDict t.environment ++ [("cwd", .string t.directory)]

theorem distinctKeys_members (t : ShellTask) : DistinctKeys t.members := by
  refine .of_sublist (["program", "args"] ++ ["environment"] ++ ["cwd"]) ?_ (by decide)
  simp only [members, List.map_append]
  exact ((List.Sublist.refl _).append Protocol.keys_member?_sublist).append (.refl _)

theorem reads_decode (h : t.Fits) : Decoder.Reads record.decode t.toJson t := by
  have hprogram : Dict.get? t.members "program" = some (.string t.program) := by
    simp [members, Dict.get?_cons]
  have hargs : Dict.get? t.members "args" = some (.ofStrings t.args) := by
    simp [members, Dict.get?_cons]
  have henvironment : Dict.get? t.members "environment" = t.environment.map .ofDict := by
    simp [members, Dict.get?_cons]
  have hdirectory : Dict.get? t.members "cwd" = some (.string t.directory) := by
    simp [members, Dict.get?_cons]
  have hrecord : record.Reads t.members t :=
    ((((Record.reads_required hprogram (Decoder.reads_string _)).map ShellTask.mk).seq
      (Record.reads_defaulted hargs (Decoder.reads_strings _))).seq
      (Record.reads_defaultedOptional henvironment (fun d hd => Decoder.reads_texts (h d hd))
        nofun)).seq
      (Record.reads_required hdirectory (Decoder.reads_string _))
  exact hrecord.decode_mkObject t.distinctKeys_members

theorem textual_of_mem_members {p : String × Json} (hp : p ∈ t.members) : p.2.Textual 1 := by
  simp only [members, List.mem_append, List.mem_cons, List.not_mem_nil, or_false] at hp
  rcases hp with ((rfl | rfl) | hp) | rfl
  · exact Json.textual_string _
  · exact Json.textual_ofStrings _
  · exact Protocol.textual_of_mem_member? hp fun d _ => Json.textual_ofDict d
  · exact Json.textual_string _

end ShellTask

namespace Task

variable {t : Task} {ns : List (String × Json)} {w : Json} {name : String}

/-- The variables of a task are a dictionary. -/
def Fits : Task → Prop
  | .build task => task.Fits
  | .shell task => task.Fits

theorem Kind.ofName?_eq_some_iff {kind : Kind} :
    Kind.ofName? name = some kind ↔ name = kind.name := by
  constructor
  · intro h
    unfold Kind.ofName? at h
    split at h <;> cases h <;> rfl
  · rintro rfl
    cases kind <;> rfl

theorem reads_decodeArgs (h : t.Fits) : Decoder.Reads (decodeArgs t.kind) t.argsToJson t := by
  cases t with
  | build task => exact fun w hw => Json.map_eq_ok.mpr ⟨task, task.reads_decode h w hw, rfl⟩
  | shell task => exact fun w hw => Json.map_eq_ok.mpr ⟨task, task.reads_decode h w hw, rfl⟩

theorem textual_argsToJson (t : Task) : t.argsToJson.Textual 2 := by
  cases t with
  | build task => exact Json.textual_mkObject fun _ hp => task.textual_of_mem_members hp
  | shell task => exact Json.textual_mkObject fun _ hp => task.textual_of_mem_members hp

theorem filter_ofMembers (hns : DistinctKeys ns) (name : String) :
    (Draft.ofMembers ns).filter (fun (key, _) => key.toOption == some name) =
      ((Dict.get? ns name).map fun w => (.ok name, Draft.ofJson w)).toList := by
  induction ns with
  | nil => rfl
  | cons p ns ih =>
    obtain ⟨k, w⟩ := p
    rw [Dict.get?_cons, Draft.ofMembers, List.filter_cons, ih hns.tail]
    by_cases hk : name = k
    · subst hk
      have hnone : Dict.get? ns name = none := Dict.get?_eq_none fun p hp he =>
        (List.nodup_cons.mp hns).1 (List.mem_map.mpr ⟨p, hp, he⟩)
      simp [hnone, Except.toOption]
    · simp [hk, Ne.symm hk, Except.toOption]

theorem onlyMember_ofMembers (hns : DistinctKeys ns) (h : Dict.get? ns name = some w) :
    onlyMember name (Draft.ofJson (.object ns)) = .ok (Draft.ofJson w) := by
  rw [Draft.ofJson, onlyMember, filter_ofMembers hns, h]
  rfl

end Task

/-! ## Runnables -/

namespace Runnable

variable {r r' : Runnable} {w : Json}

/-- What is encoded of a runnable fits. -/
structure Fits (r : Runnable) : Prop where
  link : ∀ l ∈ r.location, l.Fits
  task : r.task.Fits

/-- The members of a runnable. -/
def members (r : Runnable) : List (String × Json) :=
  [("label", .string r.label)] ++ member? "location" LocationLink.toJson r.location ++ [
    ("kind", .string r.task.kind.name), ("args", r.task.argsToJson)]

theorem distinctKeys_members (r : Runnable) : DistinctKeys r.members := by
  refine .of_sublist (["label"] ++ ["location"] ++ ["kind", "args"]) ?_ (by decide)
  simp only [members, List.map_append]
  exact ((List.Sublist.refl _).append Protocol.keys_member?_sublist).append (.refl _)

theorem get?_location (r : Runnable) :
    Dict.get? r.members "location" = r.location.map LocationLink.toJson := by
  simp [members, Dict.get?_cons]

/-- The runnable with the URL that its link's URL is read as. -/
def reread? (r : Runnable) : Option Runnable :=
  match r.location with
  | none => some r
  | some l => l.reread?.map fun l => { r with location := some l }

theorem reread?_eq_some_iff : r.reread? = some r' ↔ r'.label = r.label ∧ r'.task = r.task ∧
    (r.location = none ∧ r'.location = none ∨
      ∃ l l', r.location = some l ∧ l.reread? = some l' ∧ r'.location = some l') := by
  obtain ⟨label, location, task⟩ := r
  obtain ⟨label', location', task'⟩ := r'
  cases location with
  | none => simp only [reread?]; grind
  | some l => simp only [reread?, Option.map_eq_some_iff]; grind

theorem reads_record (hr : r.Fits) (h : r.reread? = some r') :
    record.Reads r.members (Runnable.mk r'.label r'.location) := by
  obtain ⟨hlabel, -, hlocation⟩ := reread?_eq_some_iff.mp h
  have hlabelMember : Dict.get? r.members "label" = some (.string r.label) := by
    simp [members, Dict.get?_cons]
  have hlink : Record.Reads (.defaultedOptional "location" LocationLink.decode) r.members
      r'.location := by
    have hget := r.get?_location
    rcases hlocation with ⟨hnone, hnone'⟩ | ⟨l, l', hl, hl', hsome⟩
    · rw [hnone] at hget
      rw [hnone']
      exact Record.reads_defaultedOptional_none hget
    · rw [hl] at hget
      rw [hsome]
      exact Record.reads_defaultedOptional_some hget
        (LocationLink.reads_decode (hr.link l hl) hl') nofun
  rw [hlabel]
  exact ((Record.reads_required hlabelMember (Decoder.reads_string _)).map Runnable.mk).seq hlink

theorem reads_task (hr : r.Fits) : Decoder.Reads Task.decode r.toJson r.task := by
  intro w hw
  obtain ⟨ns, hns, rfl⟩ := hw.exists_arranged r.distinctKeys_members
  have hkind : Dict.get? r.members "kind" = some (.string r.task.kind.name) := by
    simp [members, Dict.get?_cons]
  have hargs : Dict.get? r.members "args" = some r.task.argsToJson := by
    simp [members, Dict.get?_cons]
  obtain ⟨kind, hkind, hkind'⟩ := hns.exists_get? hkind
  obtain ⟨args, hargs, hargs'⟩ := hns.exists_get? hargs
  have hread : Decoder.namedWith Decoder.unitOrEmpty Task.Kind.ofName? (Draft.ofJson kind) =
      .ok r.task.kind :=
    Decoder.reads_namedWith (Task.Kind.ofName?_eq_some_iff.mpr rfl) kind hkind
  simp only [Task.decode, Task.onlyMember_ofMembers hns.distinct hkind',
    Task.onlyMember_ofMembers hns.distinct hargs', bind, Except.bind, hread,
    Task.reads_decodeArgs hr.task args hargs]

theorem reads_decode (hr : r.Fits) (h : r.reread? = some r') :
    Decoder.Reads decode r.toJson r' := by
  intro w hw
  have hother (p : String × Json) (_ : p ∈ r.members) (_ : ∀ f ∈ record.fields, f.name ≠ p.1) :
      Decoder.Reads (fun d => d.value.map fun _ => ()) p.2 () := by
    intro v _
    obtain ⟨u, hu⟩ := Json.exists_value_ofJson v
    exact Json.map_eq_ok.mpr ⟨u, hu, rfl⟩
  have hrecord := (reads_record hr h).decodeObject_mkObject r.distinctKeys_members hother w hw
  simp only [decode, hrecord, reads_task hr w hw, bind, Except.bind, Except.mapError]
  rw [← (reread?_eq_some_iff.mp h).2.1]
  rfl

/-- A runnable that is decoded has a link with a URL that can be read, if it has a link. -/
theorem isSome_reread?_of_decode (hw : r.toJson.Reordered w)
    (h : decode (Draft.ofJson w) = .ok r') : r.reread?.isSome := by
  cases hl : r.location with
  | none => simp [reread?, hl]
  | some l =>
    obtain ⟨ns, hns, rfl⟩ := hw.exists_arranged r.distinctKeys_members
    obtain ⟨f, hrecord, -⟩ := Json.bind_eq_ok.mp h
    obtain ⟨-, -, hbuild⟩ := Json.bind_eq_ok.mp hrecord
    obtain ⟨_, location, -, hlocation, -⟩ := Record.seq_build_eq_ok.mp hbuild
    obtain ⟨w, hw, hpresent⟩ := hns.shows.exists_eq_some (r.get?_location.trans (by rw [hl]; rfl))
    rcases Record.defaulted_build_eq_ok.mp hlocation with ⟨d, hd, hlink⟩ | ⟨hmissing, -⟩
    · cases hd.symm.trans hpresent
      rw [Decoder.optional_ofJson (nofun : l.toJson ≠ .null) hw] at hlink
      obtain ⟨l', hl', -⟩ := Json.map_eq_ok.mp hlink
      have hsome := LocationLink.isSome_reread?_of_decode hw hl'
      obtain ⟨l'', hl''⟩ := Option.isSome_iff_exists.mp hsome
      simp [reread?, hl, hl'']
    · exact absurd (hmissing.symm.trans hpresent) nofun

/-- A runnable is decoded from its value exactly when the URL of its link can be read, and is the
same but for that URL then. -/
theorem decode_eq_ok_iff (hr : r.Fits) (hw : r.toJson.Reordered w) :
    decode (Draft.ofJson w) = .ok r' ↔ r.reread? = some r' := by
  refine ⟨fun h => ?_, fun h => reads_decode hr h w hw⟩
  obtain ⟨r'', hr''⟩ := Option.isSome_iff_exists.mp (isSome_reread?_of_decode hw h)
  rw [hr'', Except.ok.inj ((reads_decode hr hr'' w hw).symm.trans h)]

theorem reread?_eq_self_iff :
    r.reread? = some r ↔ ∀ l ∈ r.location, Uri.parse? l.uri.text = some l.uri := by
  rw [reread?_eq_some_iff]
  cases hl : r.location with
  | none => simp
  | some l => simp [← LocationLink.reread?_eq_self_iff]

theorem textual_toJson (hr : r.Fits) : r.toJson.Textual 4 := by
  refine Json.textual_mkObject fun p hp => ?_
  change p ∈ r.members at hp
  simp only [members, List.mem_append, List.mem_cons, List.not_mem_nil, or_false] at hp
  rcases hp with (rfl | hp) | rfl | rfl
  · exact Json.textual_string _
  · exact Protocol.textual_of_mem_member? hp fun l hl => LocationLink.textual_toJson (hr.link l hl)
  · exact Json.textual_string _
  · exact (Task.textual_argsToJson _).mono (by decide)

end Runnable

/-! ## What a runnable must have -/

namespace Task

variable {d : Draft} {kind : Kind} {t : Task}

/-- A draft gives the name of a kind: the name itself, or an object with the name as its only
member, which has nothing to say. -/
def Kind.Named (kind : Kind) (d : Draft) : Prop :=
  d = .string kind.name ∨
    ∃ content, Decoder.unitOrEmpty content = .ok () ∧ d = .object [(.ok kind.name, content)]

/-- A draft gives the directory of a task, and the program of one that is not the build tool's. An
array gives them at the places of the fields. -/
def Given (d : Draft) : Task → Prop
  | .build task => (∃ ms, d = .object ms ∧
        Record.memberDraft? "cwd" ms = some (.string task.directory)) ∨
      ∃ ds, d = .array ds ∧ ds[5]? = some (.string task.directory)
  | .shell task => (∃ ms, d = .object ms ∧
        Record.memberDraft? "program" ms = some (.string task.program) ∧
        Record.memberDraft? "cwd" ms = some (.string task.directory)) ∨
      ∃ ds, d = .array ds ∧ ds[0]? = some (.string task.program) ∧
        ds[3]? = some (.string task.directory)

theorem Kind.named_of_decode
    (h : Decoder.namedWith Decoder.unitOrEmpty Kind.ofName? d = .ok kind) : kind.Named d := by
  unfold Decoder.namedWith at h
  split at h
  · split at h
    · next hname =>
      cases h
      exact .inl (by rw [Kind.ofName?_eq_some_iff.mp hname])
    · cases h
  · next k content ms =>
    obtain ⟨name, hk, h'⟩ := Json.bind_eq_ok.mp h
    subst hk
    cases hname : Kind.ofName? name with
    | none => rw [hname] at h'; cases h'
    | some a =>
      rw [hname] at h'
      obtain ⟨⟨⟩, hcontent, h''⟩ := Json.bind_eq_ok.mp h'
      split at h''
      · cases h''
        rw [Kind.ofName?_eq_some_iff.mp hname]
        exact .inr ⟨content, hcontent, rfl⟩
      · cases h''
      · cases h''
  · cases h

theorem present_of_build {task : BuildTask} {present : String → Option Draft}
    (h : BuildTask.record.build present = .ok task) :
    present "cwd" = some (.string task.directory) := by
  obtain ⟨_, _, h₁, hdirectory, rfl⟩ := Record.seq_build_eq_ok.mp h
  obtain ⟨_, _, h₂, -, rfl⟩ := Record.seq_build_eq_ok.mp h₁
  obtain ⟨_, _, h₃, -, rfl⟩ := Record.seq_build_eq_ok.mp h₂
  obtain ⟨_, _, h₄, -, rfl⟩ := Record.seq_build_eq_ok.mp h₃
  obtain ⟨_, _, h₅, -, rfl⟩ := Record.seq_build_eq_ok.mp h₄
  obtain ⟨_, -, rfl⟩ := Record.map_build_eq_ok.mp h₅
  exact Record.present_of_required_string hdirectory

theorem present_of_shell {task : ShellTask} {present : String → Option Draft}
    (h : ShellTask.record.build present = .ok task) :
    present "program" = some (.string task.program) ∧
      present "cwd" = some (.string task.directory) := by
  obtain ⟨_, _, h₁, hdirectory, rfl⟩ := Record.seq_build_eq_ok.mp h
  obtain ⟨_, _, h₂, -, rfl⟩ := Record.seq_build_eq_ok.mp h₁
  obtain ⟨_, _, h₃, -, rfl⟩ := Record.seq_build_eq_ok.mp h₂
  obtain ⟨_, hprogram, rfl⟩ := Record.map_build_eq_ok.mp h₃
  exact ⟨Record.present_of_required_string hprogram,
    Record.present_of_required_string hdirectory⟩

theorem given_of_decodeArgs (h : decodeArgs kind d = .ok t) : t.kind = kind ∧ Given d t := by
  cases kind with
  | build =>
    obtain ⟨task, htask, rfl⟩ := Json.map_eq_ok.mp h
    refine ⟨rfl, ?_⟩
    obtain ⟨ms, rfl, -, hbuild⟩ | ⟨ds, rfl, -, hbuild⟩ := Record.decode_eq_ok htask
    · exact .inl ⟨ms, rfl, present_of_build hbuild⟩
    · exact .inr ⟨ds, rfl, (Record.itemDraft?_eq rfl).symm.trans (present_of_build hbuild)⟩
  | shell =>
    obtain ⟨task, htask, rfl⟩ := Json.map_eq_ok.mp h
    refine ⟨rfl, ?_⟩
    obtain ⟨ms, rfl, -, hbuild⟩ | ⟨ds, rfl, -, hbuild⟩ := Record.decode_eq_ok htask
    · exact .inl ⟨ms, rfl, present_of_shell hbuild⟩
    · obtain ⟨hprogram, hdirectory⟩ := present_of_shell hbuild
      exact .inr ⟨ds, rfl, (Record.itemDraft?_eq rfl).symm.trans hprogram,
        (Record.itemDraft?_eq rfl).symm.trans hdirectory⟩

end Task

namespace Runnable

variable {d : Draft} {r : Runnable}

/-- A draft is an object that has the label of a runnable, the name of its kind, and arguments with
what they cannot lack. -/
def Complete (d : Draft) (r : Runnable) : Prop :=
  ∃ ms kind args, d = .object ms ∧
    Record.memberDraft? "label" ms = some (.string r.label) ∧
    Task.onlyMember "kind" d = .ok kind ∧ r.task.kind.Named kind ∧
    Task.onlyMember "args" d = .ok args ∧ Task.Given args r.task

theorem complete_of_decode (h : decode d = .ok r) : Complete d r := by
  obtain ⟨f, hrecord, h⟩ := Json.bind_eq_ok.mp h
  obtain ⟨task, htask, hr⟩ := Json.bind_eq_ok.mp h
  obtain rfl : f task = r := Except.ok.inj hr
  cases d with
  | object ms =>
    obtain ⟨-, -, hbuild⟩ := Json.bind_eq_ok.mp hrecord
    obtain ⟨g, location, hlabel, -, rfl⟩ := Record.seq_build_eq_ok.mp hbuild
    obtain ⟨label, hlabel', rfl⟩ := Record.map_build_eq_ok.mp hlabel
    cases htask' : Task.decode (.object ms) with
    | error f => rw [htask'] at htask; cases htask
    | ok task' =>
      rw [htask'] at htask
      obtain rfl : task' = task := Except.ok.inj htask
      obtain ⟨kindDraft, hkindDraft, htask'⟩ := Json.bind_eq_ok.mp htask'
      obtain ⟨kind, hkind, htask'⟩ := Json.bind_eq_ok.mp htask'
      obtain ⟨args, hargs, htask'⟩ := Json.bind_eq_ok.mp htask'
      obtain ⟨rfl, hgiven⟩ := Task.given_of_decodeArgs htask'
      exact ⟨ms, kindDraft, args, rfl, Record.present_of_required_string hlabel', hkindDraft,
        Task.Kind.named_of_decode hkind, hargs, hgiven⟩
  | _ => cases hrecord

/-- A runnable is decoded from its value and from its text, whatever the order of the members, and
what is decoded differs from it at most in the URL of the link. What is decoded is complete. -/
theorem decode_encoded {w : Json} (hr : r.Fits) (hw : r.toJson.Reordered w)
    (g : Json.Spacing) :
    (∀ r', decode (Draft.ofJson w) = .ok r' ↔ r.reread? = some r') ∧
    (∀ r', Decoder.ofText decode (String.ofList (Json.spreadChars g 0 w)) = .ok r' ↔
      r.reread? = some r') ∧
    (r.reread? = some r ↔ ∀ l ∈ r.location, Uri.parse? l.uri.text = some l.uri) ∧
    (∀ r', r.reread? = some r' → r'.label = r.label ∧ r'.task = r.task ∧
      r'.program = r.program ∧ r'.directory = r.directory ∧ r'.environment = r.environment ∧
      r'.task.runTokens = r.task.runTokens ∧ r'.commandLine = r.commandLine ∧
      r'.task.debugTokens = r.task.debugTokens) ∧
    ∀ d r', decode d = .ok r' → Complete d r' := by
  have htext : Decoder.ofText decode (String.ofList (Json.spreadChars g 0 w)) =
      decode (Draft.ofJson w) :=
    Decoder.ofText_spread decode g ((hw.textual (textual_toJson hr)).mono (by decide))
  refine ⟨fun r' => decode_eq_ok_iff hr hw, fun r' => ?_, reread?_eq_self_iff, fun r' h => ?_,
    fun d r' => complete_of_decode⟩
  · rw [htext, decode_eq_ok_iff hr hw]
  · obtain ⟨hlabel, htask, -⟩ := reread?_eq_some_iff.mp h
    have hprogram : r'.program = r.program := by rw [program, program, htask]
    refine ⟨hlabel, htask, hprogram, ?_, ?_, by rw [htask], ?_, by rw [htask]⟩
    · rw [directory, directory, htask]
    · rw [environment, environment, htask]
    · rw [commandLine, commandLine, hprogram, htask]

/-- A runnable with a link is decoded from its value and from its compact text. -/
theorem decode_encoded_linked :
    let r : Runnable := ⟨"test a", some ⟨none, ⟨"file:///a"⟩, ⟨⟨1, 2⟩, ⟨3, 4⟩⟩, ⟨⟨1, 2⟩, ⟨1, 3⟩⟩⟩,
      .shell ⟨"sh", [], some [("A", ""), ("B", "1")], "/"⟩⟩
    r.Fits ∧ r.toJson.Reordered r.toJson ∧ decode (Draft.ofJson r.toJson) = .ok r ∧
      Decoder.ofText decode r.toJson.compact = .ok r := by
  intro r
  have hr : r.Fits := by
    refine ⟨fun l hl => ?_, fun d hd => ?_⟩
    · obtain rfl := Option.some.inj hl
      exact ⟨nofun, by decide, by decide⟩
    · obtain rfl := Option.some.inj hd
      exact List.pairwise_pair.mpr (by decide)
  have hself : r.reread? = some r := by decide +kernel
  have hw := Json.reordered_refl r.toJson
  obtain ⟨hvalue, htext, -⟩ := decode_encoded hr hw .compact
  rw [Json.spreadChars_compact] at htext
  exact ⟨hr, hw, (hvalue r).mpr hself, (htext r).mpr hself⟩

/-- Links may have URLs that are read as others, and a kind may be named by an object. -/
theorem decode_encoded_misread :
    (∃ r : Runnable, r.Fits ∧ (∀ l ∈ r.location, ∃ text, Uri.parse? text = some l.uri) ∧
      decode (Draft.ofJson r.toJson) ≠ .ok r) ∧
    ∃ v : Json, (decode (Draft.ofJson v)).isOk = true ∧
      ∀ kind : Task.Kind, v.member? "kind" ≠ some (.string kind.name) := by
  constructor
  · let link : LocationLink := ⟨none, ⟨"file://h/C:/x"⟩, ⟨⟨0, 0⟩, ⟨0, 0⟩⟩, ⟨⟨0, 0⟩, ⟨0, 0⟩⟩⟩
    let r : Runnable := ⟨"l", some link, .shell ⟨"p", [], none, "/"⟩⟩
    have hr : r.Fits := by
      refine ⟨fun l hl => ?_, nofun⟩
      obtain rfl := Option.some.inj hl
      exact ⟨nofun, by decide, by decide⟩
    refine ⟨r, hr, fun l hl => ?_, fun h => ?_⟩
    · obtain rfl := Option.some.inj hl
      exact ⟨"file://h//C:/x", by decide +kernel⟩
    · have hself := (decode_eq_ok_iff hr (Json.reordered_refl _)).mp h
      exact absurd hself (by decide +kernel)
  · refine ⟨.mkObject [("label", .string "l"), ("kind", .mkObject [("shell", .null)]),
      ("args", .mkObject [("program", .string "p"), ("cwd", .string "/")])], by decide +kernel, ?_⟩
    intro kind
    cases kind <;> exact nofun

end Runnable

end AnalyzerClient
