import AnalyzerClient.Proofs.Runnable.Scanning

/-!
# What the arguments of a build say of its artifact

The first flag for a kind gives the kind, and what stands behind it the name; a library, and what no
flag selects, has the name behind the first flag for a package (`ArtifactFilter.Inferred`). These
rules determine the filter (`ArtifactFilter.ofArgs_inferred`).
-/

namespace AnalyzerClient

variable {args behind : List String} {arg : String} {kind : ArtifactKind} {f : ArtifactFilter}

namespace ArtifactKind

/-- The flag that selects a kind. -/
def flag : ArtifactKind → String
  | .bin => "--bin"
  | .lib => "--lib"
  | .test => "--test"
  | .exampleProgram => "--example"
  | .bench => "--bench"

theorem ofName?_eq_some_iff {text : String} : ofName? text = some kind ↔ text = kind.name := by
  constructor
  · intro h
    unfold ofName? at h
    split at h <;> cases h <;> rfl
  · rintro rfl
    cases kind <;> rfl

theorem name_injective : Function.Injective ArtifactKind.name := by
  intro k kind hname
  have hkind : ofName? k.name = some kind := ofName?_eq_some_iff.mpr hname
  exact Option.some.inj ((ofName?_eq_some_iff.mpr rfl).symm.trans hkind)

theorem ofFlag?_eq_some_iff : ofFlag? arg = some kind ↔ arg = kind.flag := by
  constructor
  · intro h
    unfold ofFlag? at h
    split at h
    · next name hname =>
      have htext : name = kind.name.toList := by
        rw [← ofName?_eq_some_iff.mp h, String.toList_ofList]
      rw [htext] at hname
      refine String.toList_inj.mp (hname.trans ?_)
      cases kind <;> rfl
    · cases h
  · rintro rfl
    cases kind <;> rfl

end ArtifactKind

namespace ArtifactFilter

/-- The first flag for a kind, and what stands behind it. -/
def FirstFlag (args : List String) (kind : ArtifactKind) (behind : List String) : Prop :=
  ∃ before, args = before ++ kind.flag :: behind ∧ ∀ k : ArtifactKind, k.flag ∉ before

/-- What stands behind the first flag for a package. -/
def FirstPackage (args behind : List String) : Prop :=
  ∃ before, args = before ++ packageFlag :: behind ∧ packageFlag ∉ before

/-- What the arguments of a build say of its artifact. -/
structure Inferred (args : List String) (f : ArtifactFilter) : Prop where
  unflagged : (∀ kind : ArtifactKind, kind.flag ∉ args) → f.kind = none
  flagged : ∀ kind behind, FirstFlag args kind behind → f.kind = some kind
  named : ∀ kind behind, FirstFlag args kind behind → kind ≠ .lib → f.name = behind.head?
  unpackaged : f.kind = none ∨ f.kind = some .lib → packageFlag ∉ args → f.name = none
  packaged : f.kind = none ∨ f.kind = some .lib →
    ∀ behind, FirstPackage args behind → f.name = behind.head?

/-! ## Searching for flags -/

theorem firstKind?_eq_none (h : ∀ kind : ArtifactKind, kind.flag ∉ args) :
    firstKind? args = none := by
  induction args with
  | nil => rfl
  | cons arg args ih =>
    rw [firstKind?]
    split
    · next kind hkind =>
      refine absurd ?_ (h kind)
      rw [ArtifactKind.ofFlag?_eq_some_iff.mp hkind]
      exact List.mem_cons_self
    · exact ih fun kind hmem => h kind (List.mem_cons_of_mem _ hmem)

theorem FirstFlag.firstKind?_eq (h : FirstFlag args kind behind) :
    firstKind? args = some (kind, behind.head?) := by
  obtain ⟨before, rfl, hbefore⟩ := h
  induction before with
  | nil => rw [List.nil_append, firstKind?, ArtifactKind.ofFlag?_eq_some_iff.mpr rfl]
  | cons arg before ih =>
    rw [List.cons_append, firstKind?]
    split
    · next k hk =>
      refine absurd ?_ (hbefore k)
      rw [ArtifactKind.ofFlag?_eq_some_iff.mp hk]
      exact List.mem_cons_self
    · exact ih fun k hmem => hbefore k (List.mem_cons_of_mem _ hmem)

theorem exists_firstFlag (h : kind.flag ∈ args) : ∃ kind behind, FirstFlag args kind behind := by
  induction args with
  | nil => cases h
  | cons arg args ih =>
    cases hflag : ArtifactKind.ofFlag? arg with
    | some k =>
      obtain rfl := ArtifactKind.ofFlag?_eq_some_iff.mp hflag
      exact ⟨k, args, [], rfl, fun _ => List.not_mem_nil⟩
    | none =>
      have harg : ∀ k : ArtifactKind, k.flag ≠ arg := by
        rintro k rfl
        rw [ArtifactKind.ofFlag?_eq_some_iff.mpr rfl] at hflag
        cases hflag
      obtain ⟨k, behind, before, rfl, hbefore⟩ := ih (List.mem_of_ne_of_mem (harg kind) h)
      refine ⟨k, behind, arg :: before, rfl, fun k' hmem => ?_⟩
      rcases List.mem_cons.mp hmem with heq | hmem
      · exact harg k' heq
      · exact hbefore k' hmem

theorem packageName?_eq_none (h : packageFlag ∉ args) : packageName? args = none := by
  induction args with
  | nil => rfl
  | cons arg args ih =>
    obtain ⟨hne, hargs⟩ := not_or.mp (mt List.mem_cons.mpr h)
    rw [packageName?, if_neg (Ne.symm hne), ih hargs]

theorem FirstPackage.packageName?_eq (h : FirstPackage args behind) :
    packageName? args = behind.head? := by
  obtain ⟨before, rfl, hbefore⟩ := h
  induction before with
  | nil => rw [List.nil_append, packageName?, if_pos rfl]
  | cons arg before ih =>
    obtain ⟨hne, hrest⟩ := not_or.mp (mt List.mem_cons.mpr hbefore)
    rw [List.cons_append, packageName?, if_neg (Ne.symm hne), ih hrest]

theorem exists_firstPackage (h : packageFlag ∈ args) : ∃ behind, FirstPackage args behind := by
  obtain ⟨before, behind, hargs, hbefore⟩ := List.eq_append_cons_of_mem h
  exact ⟨behind, before, hargs, hbefore⟩

/-! ## The filter -/

theorem ofArgs_of_unflagged (h : ∀ kind : ArtifactKind, kind.flag ∉ args) :
    ofArgs args = ⟨none, packageName? args⟩ := by
  rw [ofArgs, firstKind?_eq_none h]

theorem FirstFlag.ofArgs_lib (h : FirstFlag args .lib behind) :
    ofArgs args = ⟨some .lib, packageName? args⟩ := by
  rw [ofArgs, h.firstKind?_eq]

theorem FirstFlag.ofArgs_eq (h : FirstFlag args kind behind) (hkind : kind ≠ .lib) :
    ofArgs args = ⟨some kind, behind.head?⟩ := by
  rw [ofArgs, h.firstKind?_eq]
  cases kind <;> first | rfl | exact absurd rfl hkind

/-- No flag selects a kind, the first one selects a library, or it selects another kind. -/
theorem flag_cases (args : List String) :
    (∀ kind : ArtifactKind, kind.flag ∉ args) ∨ (∃ behind, FirstFlag args .lib behind) ∨
      ∃ kind behind, kind ≠ .lib ∧ FirstFlag args kind behind := by
  by_cases h : ∀ kind : ArtifactKind, kind.flag ∉ args
  · exact .inl h
  · obtain ⟨k, hk⟩ := not_forall_not.mp h
    obtain ⟨kind, behind, hfirst⟩ := exists_firstFlag hk
    by_cases hlib : kind = .lib
    · exact .inr (.inl ⟨behind, hlib ▸ hfirst⟩)
    · exact .inr (.inr ⟨kind, behind, hlib, hfirst⟩)

theorem FirstFlag.mem (h : FirstFlag args kind behind) : kind.flag ∈ args := by
  obtain ⟨before, rfl, -⟩ := h
  exact List.mem_append_right _ List.mem_cons_self

theorem FirstFlag.kind_unique {kind' : ArtifactKind} {behind' : List String}
    (h : FirstFlag args kind behind) (h' : FirstFlag args kind' behind') :
    kind = kind' ∧ behind.head? = behind'.head? :=
  Prod.mk.inj (Option.some.inj (h.firstKind?_eq.symm.trans h'.firstKind?_eq))

theorem inferred_ofArgs (args : List String) : Inferred args (ofArgs args) := by
  rcases flag_cases args with hnone | ⟨after, hlib⟩ | ⟨kind, after, hne, hfirst⟩
  · rw [ofArgs_of_unflagged hnone]
    have hflag (k : ArtifactKind) (behind : List String) : ¬ FirstFlag args k behind :=
      fun h => hnone k h.mem
    exact ⟨fun _ => rfl, fun k behind h => absurd h (hflag k behind),
      fun k behind h => absurd h (hflag k behind), fun _ => packageName?_eq_none,
      fun _ _ h => h.packageName?_eq⟩
  · rw [hlib.ofArgs_lib]
    refine ⟨fun h => absurd hlib.mem (h .lib), ?_, ?_, fun _ => packageName?_eq_none,
      fun _ _ h => h.packageName?_eq⟩
    · intro k behind h
      rw [(hlib.kind_unique h).1]
    · intro k behind h hk
      exact absurd (hlib.kind_unique h).1.symm hk
  · rw [hfirst.ofArgs_eq hne]
    have hkind : ¬ (some kind = none ∨ some kind = some ArtifactKind.lib) := by simpa using hne
    refine ⟨fun h => absurd hfirst.mem (h kind), ?_, ?_, fun h => absurd h hkind,
      fun h => absurd h hkind⟩
    · intro k behind h
      rw [(hfirst.kind_unique h).1]
    · intro k behind h _
      exact (hfirst.kind_unique h).2

theorem Inferred.name_eq (h : Inferred args f) (hkind : f.kind = none ∨ f.kind = some .lib) :
    f.name = packageName? args := by
  by_cases hpackage : packageFlag ∈ args
  · obtain ⟨behind, hfirst⟩ := exists_firstPackage hpackage
    rw [h.packaged hkind behind hfirst, hfirst.packageName?_eq]
  · rw [h.unpackaged hkind hpackage, packageName?_eq_none hpackage]

theorem Inferred.eq_ofArgs (h : Inferred args f) : f = ofArgs args := by
  obtain ⟨fkind, fname⟩ := f
  rcases flag_cases args with hnone | ⟨after, hlib⟩ | ⟨kind, after, hne, hfirst⟩
  · obtain rfl : fkind = none := h.unflagged hnone
    rw [ofArgs_of_unflagged hnone, ← h.name_eq (.inl rfl)]
  · obtain rfl : fkind = some .lib := h.flagged _ _ hlib
    rw [hlib.ofArgs_lib, ← h.name_eq (.inr rfl)]
  · obtain rfl : fkind = some kind := h.flagged _ _ hfirst
    rw [hfirst.ofArgs_eq hne, ← h.named _ _ hfirst hne]

/-- The first flag by its place. -/
theorem firstFlag_of_getElem? {i : Nat} (hi : args[i]? = some kind.flag)
    (hbefore : ∀ j < i, ∀ k : ArtifactKind, args[j]? ≠ some k.flag) :
    FirstFlag args kind (args.drop (i + 1)) := by
  obtain ⟨hlt, hget⟩ := List.getElem?_eq_some_iff.mp hi
  refine ⟨args.take i, ?_, ?_⟩
  · rw [← hget, ← List.drop_eq_getElem_cons hlt, List.take_append_drop]
  · intro k hmem
    obtain ⟨j, hj⟩ := List.mem_iff_getElem?.mp hmem
    rw [List.getElem?_take] at hj
    split at hj
    · next hji => exact hbefore j hji k hj
    · cases hj

/-- The arguments up to the one behind the first flag decide, unless it selects a library. -/
theorem ofArgs_congr_of_take {other : List String} {i : Nat} (hi : args[i]? = some kind.flag)
    (hbefore : ∀ j < i, ∀ k : ArtifactKind, args[j]? ≠ some k.flag) (hkind : kind ≠ .lib)
    (hother : other.take (i + 2) = args.take (i + 2)) : ofArgs other = ofArgs args := by
  have hget : ∀ j < i + 2, other[j]? = args[j]? := by
    intro j hj
    have := congrArg (·[j]?) hother
    simpa [List.getElem?_take, hj] using this
  have hfirst := firstFlag_of_getElem? hi hbefore
  have hotherFirst : FirstFlag other kind (other.drop (i + 1)) := by
    apply firstFlag_of_getElem?
    · rw [hget i (by omega), hi]
    · intro j hj k
      rw [hget j (by omega)]
      exact hbefore j hj k
  rw [hfirst.ofArgs_eq hkind, hotherFirst.ofArgs_eq hkind, List.head?_drop, List.head?_drop,
    hget (i + 1) (by omega)]

/-- The arguments of a build determine the filter by these rules; behind a first flag that does not
select a library only its name counts; and an artifact passes if it has the kind and the name that
are known. -/
theorem ofArgs_inferred :
    (∀ args f, Inferred args f ↔ f = ofArgs args) ∧
      (∀ args other i (kind : ArtifactKind), kind ≠ .lib → args[i]? = some kind.flag →
        (∀ j < i, ∀ k : ArtifactKind, args[j]? ≠ some k.flag) →
        other.take (i + 2) = args.take (i + 2) → ofArgs other = ofArgs args) ∧
      ∀ (f : ArtifactFilter) (a : Artifact), f.accepts a = true ↔
        (∀ kind, f.kind = some kind → kind.name ∈ a.kinds) ∧
          ∀ name, f.name = some name → a.name = name := by
  refine ⟨fun args f => ⟨Inferred.eq_ofArgs, ?_⟩, ?_, fun f a => Scan.accepts_iff⟩
  · rintro rfl
    exact inferred_ofArgs args
  · intro args other i kind hkind hi hbefore hother
    exact ofArgs_congr_of_take hi hbefore hkind hother

theorem ofArgs_inferred_bin :
    ["run", "--bin", "app", "--lib", "--package", "core"][1]? = some ArtifactKind.bin.flag ∧
      (∀ j < 1, ∀ k : ArtifactKind,
        ["run", "--bin", "app", "--lib", "--package", "core"][j]? ≠ some k.flag) ∧
      ofArgs ["run", "--bin", "app"] =
        ofArgs ["run", "--bin", "app", "--lib", "--package", "core"] ∧
      ofArgs ["run", "--bin", "app"] = ⟨some .bin, some "app"⟩ := by
  have hbefore : ∀ j < 1, ∀ k : ArtifactKind,
      ["run", "--bin", "app", "--lib", "--package", "core"][j]? ≠ some k.flag := by
    intro j hj k
    obtain rfl := Nat.lt_one_iff.mp hj
    cases k <;> decide
  exact ⟨rfl, hbefore,
    ofArgs_inferred.2.1 _ _ 1 .bin (by decide) rfl hbefore rfl, by decide⟩

end ArtifactFilter

end AnalyzerClient
