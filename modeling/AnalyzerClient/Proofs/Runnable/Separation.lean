import AnalyzerClient.Proofs.Runnable.Inference
import AnalyzerClient.Runnable.Command

/-!
# What stands behind the separator

The filter for the artifact is inferred from all arguments of the build, those of the executable
behind the separator included. These are harmless only if the arguments in front settle what is
looked for (`ArtifactFilter.Settles`, `ArtifactFilter.ofArgs_separated`).
-/

namespace AnalyzerClient.ArtifactFilter

variable {front behind after : List String} {kind : ArtifactKind} {f g : ArtifactFilter}

/-- Arguments select a kind, and if it is the library, they name a package too. -/
def Settles (front : List String) : Prop :=
  ∃ kind after, FirstFlag front kind after ∧ (kind = .lib → packageFlag ∈ front)

/-! ## Filters that accept the same -/

/-- An artifact that is no more than a filter asks for. -/
def sample (f : ArtifactFilter) (name : String) : Artifact :=
  ⟨(f.kind.map (·.name)).toList, f.name.getD name⟩

theorem accepts_sample (f : ArtifactFilter) (name : String) : f.accepts (f.sample name) = true := by
  rw [Scan.accepts_iff, sample]
  constructor
  · intro kind hkind
    simp [hkind]
  · intro n hn
    simp [hn]

theorem kind_of_accepts (h : ∀ a, f.accepts a = true → g.accepts a = true)
    (hkind : g.kind = some kind) : f.kind = some kind := by
  obtain ⟨hmem, -⟩ := Scan.accepts_iff.mp (h _ (accepts_sample f ""))
  have hname : kind.name ∈ (f.kind.map (·.name)).toList := hmem kind hkind
  obtain ⟨k, hk, hname⟩ := Option.map_eq_some_iff.mp (Option.mem_toList.mp hname)
  rw [hk, ArtifactKind.name_injective hname]

theorem name_of_accepts (h : ∀ a, f.accepts a = true → g.accepts a = true) {name : String}
    (hname : g.name = some name) : f.name = some name := by
  have hsample (other : String) : f.name.getD other = name :=
    (Scan.accepts_iff.mp (h _ (accepts_sample f other))).2 name hname
  cases hf : f.name with
  | none =>
    rw [hf] at hsample
    exact absurd ((hsample "").trans (hsample "'").symm) (by decide)
  | some n =>
    rw [hf] at hsample
    rw [← hsample "", Option.getD_some]

/-- Filters that accept the same artifacts are the same. -/
theorem eq_of_accepts (h : ∀ a, f.accepts a = g.accepts a) : f = g := by
  have hfg : ∀ a, f.accepts a = true → g.accepts a = true := fun a ha => h a ▸ ha
  have hgf : ∀ a, g.accepts a = true → f.accepts a = true := fun a ha => (h a).symm ▸ ha
  obtain ⟨fkind, fname⟩ := f
  obtain ⟨gkind, gname⟩ := g
  congr 1
  · exact Option.ext fun kind => ⟨kind_of_accepts hgf, kind_of_accepts hfg⟩
  · exact Option.ext fun name => ⟨name_of_accepts hgf, name_of_accepts hfg⟩

/-! ## Searching past the separator -/

theorem head?_separated (front behind : List String) :
    (front ++ argsSeparator :: behind).head? = (front ++ [argsSeparator]).head? := by
  cases front <;> rfl

theorem flag_ne_separator (kind : ArtifactKind) : kind.flag ≠ argsSeparator := by
  cases kind <;> decide

theorem FirstFlag.append (h : FirstFlag front kind after) (rest : List String) :
    FirstFlag (front ++ rest) kind (after ++ rest) := by
  obtain ⟨before, rfl, hbefore⟩ := h
  exact ⟨before, List.append_assoc .., hbefore⟩

theorem unflagged_separated (hfront : ∀ k : ArtifactKind, k.flag ∉ front)
    (hbehind : ∀ k : ArtifactKind, k.flag ∉ behind) (k : ArtifactKind) :
    k.flag ∉ front ++ argsSeparator :: behind := by
  intro hmem
  rcases List.mem_append.mp hmem with hmem | hmem
  · exact hfront k hmem
  · rcases List.mem_cons.mp hmem with heq | hmem
    · exact flag_ne_separator k heq
    · exact hbehind k hmem

theorem FirstFlag.separated (h : FirstFlag behind kind after)
    (hfront : ∀ k : ArtifactKind, k.flag ∉ front) :
    FirstFlag (front ++ argsSeparator :: behind) kind after := by
  obtain ⟨before, rfl, hbefore⟩ := h
  exact ⟨front ++ argsSeparator :: before, by simp, unflagged_separated hfront hbefore⟩

theorem packageName?_of_mem (h : packageFlag ∈ front) (behind : List String) :
    packageName? (front ++ argsSeparator :: behind) =
      packageName? (front ++ [argsSeparator]) := by
  obtain ⟨after, before, rfl, hbefore⟩ := exists_firstPackage h
  have hfirst (rest : List String) :
      FirstPackage (before ++ packageFlag :: after ++ rest) (after ++ rest) :=
    ⟨before, List.append_assoc .., hbefore⟩
  rw [(hfirst _).packageName?_eq, (hfirst _).packageName?_eq, head?_separated]

theorem packageName?_of_not_mem (h : packageFlag ∉ front) (behind : List String) :
    packageName? (front ++ argsSeparator :: behind) = packageName? behind := by
  induction front with
  | nil => rw [List.nil_append, packageName?, if_neg (by decide)]
  | cons arg front ih =>
    obtain ⟨hne, hfront⟩ := not_or.mp (mt List.mem_cons.mpr h)
    rw [List.cons_append, packageName?, if_neg (Ne.symm hne), ih hfront]

/-- No argument stands behind a flag for a package. -/
theorem packageName?_eq_none_iff :
    packageName? behind = none ↔ ¬ ∃ name, [packageFlag, name] <:+: behind := by
  by_cases h : packageFlag ∈ behind
  · obtain ⟨after, hfirst⟩ := exists_firstPackage h
    rw [hfirst.packageName?_eq]
    obtain ⟨before, rfl, hbefore⟩ := hfirst
    cases after with
    | nil =>
      refine iff_of_true rfl ?_
      rintro ⟨name, front, rest, hsplit⟩
      have hlast := congrArg List.dropLast hsplit
      rw [List.dropLast_concat] at hlast
      refine hbefore (hlast ▸ ?_)
      simp
    | cons name rest =>
      refine iff_of_false nofun (not_not.mpr ⟨name, before, rest, ?_⟩)
      simp
  · refine iff_of_true (packageName?_eq_none h) ?_
    rintro ⟨name, hpair⟩
    exact h (hpair.subset List.mem_cons_self)

theorem packageName?_separated_iff (front behind : List String) :
    packageName? (front ++ argsSeparator :: behind) = packageName? (front ++ [argsSeparator]) ↔
      ((∃ name, [packageFlag, name] <:+: behind) → packageFlag ∈ front) := by
  by_cases h : packageFlag ∈ front
  · exact iff_of_true (packageName?_of_mem h behind) fun _ => h
  · rw [packageName?_of_not_mem h, packageName?_of_not_mem h]
    exact packageName?_eq_none_iff.trans (imp_iff_not h).symm

/-! ## The filter of separated arguments -/

/-- What stands behind the separator changes nothing if it has no flag for a kind where there is
none in front, and names no package where there is none in front either, unless the kind in front
has a name of its own. -/
theorem ofArgs_separated_iff (front behind : List String) :
    ofArgs (front ++ argsSeparator :: behind) = ofArgs (front ++ [argsSeparator]) ↔
      ((∃ kind : ArtifactKind, kind.flag ∈ behind) → ∃ kind : ArtifactKind, kind.flag ∈ front) ∧
      ((∃ name, [packageFlag, name] <:+: behind) → packageFlag ∈ front ∨
        ∃ kind after, kind ≠ .lib ∧ FirstFlag front kind after) := by
  rcases flag_cases front with hnone | ⟨after, hlib⟩ | ⟨kind, after, hne, hfirst⟩
  · have hnamed : ¬ ∃ kind after, kind ≠ .lib ∧ FirstFlag front kind after := by
      rintro ⟨kind, after, -, h⟩
      exact hnone kind h.mem
    have hbare := ofArgs_of_unflagged (unflagged_separated hnone fun _ => List.not_mem_nil)
    rw [or_iff_left hnamed, ← packageName?_separated_iff, hbare]
    by_cases hbehind : ∀ k : ArtifactKind, k.flag ∉ behind
    · rw [ofArgs_of_unflagged (unflagged_separated hnone hbehind)]
      simp [hbehind]
    · obtain ⟨k, hk⟩ := not_forall_not.mp hbehind
      obtain ⟨kind, after, hfirst⟩ := exists_firstFlag hk
      have hkind := (inferred_ofArgs _).flagged _ _ (hfirst.separated hnone)
      refine iff_of_false ?_ fun hsame => ?_
      · intro heq
        rw [heq] at hkind
        cases hkind
      · obtain ⟨k', hk'⟩ := hsame.1 ⟨k, hk⟩
        exact hnone k' hk'
  · have hnamed : ¬ ∃ kind after, kind ≠ .lib ∧ FirstFlag front kind after := by
      rintro ⟨kind, after, hne, h⟩
      exact hne (hlib.kind_unique h).1.symm
    rw [or_iff_left hnamed, ← packageName?_separated_iff, (hlib.append _).ofArgs_lib,
      (hlib.append _).ofArgs_lib]
    have hflag : ∃ kind : ArtifactKind, kind.flag ∈ front := ⟨.lib, hlib.mem⟩
    simp [hflag]
  · rw [(hfirst.append _).ofArgs_eq hne, (hfirst.append _).ofArgs_eq hne, head?_separated]
    exact iff_of_true rfl ⟨fun _ => ⟨kind, hfirst.mem⟩, fun _ => .inr ⟨kind, after, hne, hfirst⟩⟩

theorem settles_of_ofArgs_eq (h : ∀ behind, ofArgs (front ++ argsSeparator :: behind) =
    ofArgs (front ++ [argsSeparator])) : Settles front := by
  obtain ⟨hkind, -⟩ := (ofArgs_separated_iff front ["--bin"]).mp (h _)
  obtain ⟨k, hk⟩ := hkind ⟨.bin, List.mem_singleton_self _⟩
  obtain ⟨kind, after, hfirst⟩ := exists_firstFlag hk
  refine ⟨kind, after, hfirst, ?_⟩
  rintro rfl
  obtain ⟨-, hpackage⟩ := (ofArgs_separated_iff front [packageFlag, "core"]).mp (h _)
  refine (hpackage ⟨"core", List.infix_rfl⟩).resolve_right ?_
  rintro ⟨kind, after, hne, h⟩
  exact hne (hfirst.kind_unique h).1.symm

theorem Settles.ofArgs_eq (h : Settles front) (behind : List String) :
    ofArgs (front ++ argsSeparator :: behind) = ofArgs (front ++ [argsSeparator]) := by
  obtain ⟨kind, after, hfirst, hpackage⟩ := h
  refine (ofArgs_separated_iff front behind).mpr ⟨fun _ => ⟨kind, hfirst.mem⟩, fun _ => ?_⟩
  by_cases hlib : kind = .lib
  · exact .inl (hpackage hlib)
  · exact .inr ⟨kind, after, hlib, hfirst⟩

/-- What stands behind the separator changes the filter, and with it the artifacts that it accepts,
exactly by a flag for a kind or a package that the arguments in front leave open. Whatever it is,
the filter stays the same, and the accepted artifacts do, exactly if the arguments in front settle
what is looked for. -/
theorem ofArgs_separated (front : List String) :
    (∀ behind, ofArgs (front ++ argsSeparator :: behind) = ofArgs (front ++ [argsSeparator]) ↔
        ((∃ kind : ArtifactKind, kind.flag ∈ behind) →
          ∃ kind : ArtifactKind, kind.flag ∈ front) ∧
        ((∃ name, [packageFlag, name] <:+: behind) → packageFlag ∈ front ∨
          ∃ kind after, kind ≠ .lib ∧ FirstFlag front kind after)) ∧
      ((∀ behind behind', ofArgs (front ++ argsSeparator :: behind) =
        ofArgs (front ++ argsSeparator :: behind')) ↔ Settles front) ∧
      ((∀ behind behind' a, (ofArgs (front ++ argsSeparator :: behind)).accepts a =
        (ofArgs (front ++ argsSeparator :: behind')).accepts a) ↔ Settles front) := by
  have hsettles : (∀ behind behind', ofArgs (front ++ argsSeparator :: behind) =
      ofArgs (front ++ argsSeparator :: behind')) ↔ Settles front :=
    ⟨fun h => settles_of_ofArgs_eq fun behind => h behind [],
      fun h behind behind' => (h.ofArgs_eq behind).trans (h.ofArgs_eq behind').symm⟩
  refine ⟨ofArgs_separated_iff front, hsettles, Iff.trans ?_ hsettles⟩
  constructor
  · intro h behind behind'
    exact eq_of_accepts (h behind behind')
  · intro h behind behind' a
    rw [h behind behind']

theorem ofArgs_separated_bench :
    ofArgs ["test", "--", "--bench"] ≠ ofArgs ["test", "--"] ∧
      ofArgs ["test", "--lib", "--", "--package", "core"] ≠ ofArgs ["test", "--lib", "--"] := by
  constructor
  · intro h
    obtain ⟨hkind, -⟩ := ((ofArgs_separated ["test"]).1 ["--bench"]).mp h
    obtain ⟨kind, hmem⟩ := hkind ⟨.bench, List.mem_singleton_self _⟩
    cases kind <;> exact absurd hmem (by decide)
  · intro h
    obtain ⟨-, hpackage⟩ := ((ofArgs_separated ["test", "--lib"]).1 ["--package", "core"]).mp h
    rcases hpackage ⟨"core", List.infix_rfl⟩ with hmem | ⟨kind, after, hne, hfirst⟩
    · exact absurd hmem (by decide)
    · have hlib : FirstFlag ["test", "--lib"] .lib [] :=
        ⟨["test"], rfl, fun k => by cases k <;> decide⟩
      exact hne (hlib.kind_unique hfirst).1.symm

end AnalyzerClient.ArtifactFilter
