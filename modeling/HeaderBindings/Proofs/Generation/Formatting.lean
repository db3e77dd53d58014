import HeaderBindings.Proofs.Generation.Run
import HeaderBindings.Proofs.Storage.Tree
import Mathlib.Control.Monad.Basic

/-!
# Formatting decides nothing

Runs with different formatters are compared on files where it does not depend on octets which
writes succeed.  Each way in which one run can end is a way in which the other one can end
(`Generator.Ends.withFormatter_error`, `Generator.Ends.withFormatter_ok`), with a report that
differs in nothing but whether the formatter accepted the files.  The main statement is
`run_withFormatter`.
-/

namespace HeaderBindings

/-- The report of a run that differs in what its formatter accepts. -/
def Report.accepting (r : Report) (api funcs : Bool) : Report :=
  { r with api := ⟨r.api.path, api⟩, funcs := ⟨r.funcs.path, funcs⟩ }

namespace Generator

/-- The same run with another formatter. -/
def withFormatter (g : Generator) (f : Formatter) : Generator := { g with formatter := f }

section
variable {σ : Type} [FileAccess (StateM σ)] {g : Generator} {s s' : σ}

/-! ## 1. The two runs end alike -/

theorem Ends.withFormatter_error {e : GenerationError} (h : g.Ends s (.error e) s')
    (hw : IgnoresBytes σ) (f : Formatter) : ∃ s'', (g.withFormatter f).Ends s (.error e) s'' := by
  cases h with
  | unread hread => exact ⟨_, .unread hread⟩
  | barren hfinds hbarren => exact ⟨_, .barren hfinds hbarren⟩
  | noDirectory hfinds henough hdirs => exact ⟨_, .noDirectory hfinds henough hdirs⟩
  | @apiUnwritten d fault s₁ s' hprepares hapi =>
    obtain ⟨s'', hapi⟩ := hw.write hapi ((g.withFormatter f).apiOutput d).text.utf8
    exact ⟨s'', .apiUnwritten hprepares hapi⟩
  | @funcsUnwritten d fault s₁ s₂ s' hprepares hapi hfuncs =>
    obtain ⟨s₂', s'', hapi, hfuncs⟩ := hw.write_write hapi hfuncs
      ((g.withFormatter f).apiOutput d).text.utf8 ((g.withFormatter f).funcsOutput d).text.utf8
    exact ⟨s'', .funcsUnwritten hprepares hapi hfuncs⟩

/-- If one run writes both files, so does the other one. -/
theorem Ends.withFormatter_ok {r : Report} (h : g.Ends s (.ok r) s') (hw : IgnoresBytes σ)
    (f : Formatter) :
    ∃ d s₁ s₂ s'', r = g.success d ∧ (g.withFormatter f).Prepares s d s₁ ∧
      Files.write s₁ (g.withFormatter f).apiPath ((g.withFormatter f).apiOutput d).text.utf8 =
        (.ok (), s₂) ∧
      Files.write s₂ (g.withFormatter f).funcsPath
        ((g.withFormatter f).funcsOutput d).text.utf8 = (.ok (), s'') := by
  cases h with
  | @written d s₁ s₂ s' hprepares hapi hfuncs =>
    obtain ⟨s₂', s'', hapi, hfuncs⟩ := hw.write_write hapi hfuncs
      ((g.withFormatter f).apiOutput d).text.utf8 ((g.withFormatter f).funcsOutput d).text.utf8
    exact ⟨d, s₁, s₂', s'', rfl, hprepares, hapi, hfuncs⟩

theorem result_withFormatter_error {e : GenerationError} (hw : IgnoresBytes σ)
    (h : (g.runOn s).1.result = .error e) (f : Formatter) :
    ((g.withFormatter f).runOn s).1.result = .error e := by
  have hends : g.Ends s (.error e) (g.runOn s).2 := ends_iff.2 ⟨h, rfl⟩
  obtain ⟨s'', hends⟩ := hends.withFormatter_error hw f
  exact (ends_iff.1 hends).1

end

end Generator

/-! ## 2. What formatting changes -/

/-- **Formatting decides nothing.**  A run with some formatter fails as the run without
    formatting does, with the same error.  If the latter succeeds, so does the former, with the
    same report up to what the formatter accepts, and each of the two files holds what the
    formatter makes of its source, or the source itself if the formatter refuses it. -/
theorem run_withFormatter {σ : Type} [FileAccess (StateM σ)] {v : FileView σ}
    (hv : v.IsFaithful) (hw : IgnoresBytes σ) (g : Generator) (f : Formatter) (s : σ) :
    let plain := ((g.withFormatter Formatter.identity).runOn s).1.result
    let formatted := ((g.withFormatter f).runOn s).1.result
    let s' := ((g.withFormatter f).runOn s).2
    (∀ e, formatted = .error e ↔ plain = .error e) ∧
    ∀ r, plain = .ok r →
      ∃ d api funcs apiAccepted funcsAccepted, (∃ s₁, g.Finds s d s₁) ∧
        formatted = .ok (r.accepting apiAccepted funcsAccepted) ∧
        f.Yields (g.apiSource d) api apiAccepted ∧
        f.Yields (g.funcsSource d) funcs funcsAccepted ∧
        (v.named s' r.api.path ≠ v.named s' r.funcs.path →
          (Files.read s' r.api.path).1 = .ok api.utf8 ∧
          (Files.read s' r.funcs.path).1 = .ok funcs.utf8) := by
  intro plain formatted s'
  constructor
  · intro e
    constructor
    · intro h
      exact Generator.result_withFormatter_error hw h Formatter.identity
    · intro h
      exact Generator.result_withFormatter_error hw h f
  · intro r hplain
    have hends : (g.withFormatter Formatter.identity).Ends s (.ok r) _ :=
      Generator.ends_iff.2 ⟨hplain, rfl⟩
    obtain ⟨d, s₁, s₂, s'', rfl, hprepares, hapi, hfuncs⟩ := hends.withFormatter_ok hw f
    obtain ⟨hresult, hs'⟩ := Generator.ends_iff.1 (.written hprepares hapi hfuncs)
    obtain ⟨hread, file, file', hfile, hfile', -, hkept, -⟩ := hv.write_write hapi hfuncs
    obtain ⟨s₀, hfinds, -⟩ := hprepares
    refine ⟨d, _, _, _, _, ⟨s₀, hfinds⟩, hresult, f.yields_finish _ _, f.yields_finish _ _, ?_⟩
    intro hne
    obtain rfl : s' = s'' := hs'
    refine ⟨hkept ?_, hread⟩
    rintro rfl
    exact hne (hfile.trans hfile'.symm)

/-- The formatter knows the file of the function table only; the other file stands already. -/
theorem run_withFormatter_of_table :
    let t : FileTree := ⟨[([("h" : Text)], .file (Text.utf8
      "typedef struct T T;\nOGA_EXPORT int OGA_API_CALL OgaF(T* t);")),
      (["out"], .dir), (["out", "api.rs"], .file (Text.utf8 "old"))], []⟩
    let f : Formatter := fun source =>
      if Text.startsWith source "//! Native symbol" then .ok ("// formatted\n" ++ source)
      else .error (.rejected "no table")
    let g : Generator := ⟨Options.ofPaths "h" "out", Conventions.builtin.extract, Formatter.missing⟩
    let r : Report :=
      ⟨"out", 1, 1, 0, 0, [], 0, ⟨"out/api.rs", true⟩, ⟨"out/funcs.rs", true⟩⟩
    FileTree.view.IsFaithful ∧ IgnoresBytes FileTree ∧
      ((g.withFormatter Formatter.identity).runOn t).1.result = .ok r ∧
      ((g.withFormatter f).runOn t).1.result = .ok (r.accepting false true) ∧
      ∃ d api funcs, (∃ t₁, g.Finds t d t₁) ∧
        f.Yields (g.apiSource d) api false ∧ f.Yields (g.funcsSource d) funcs true ∧
        (Files.read ((g.withFormatter f).runOn t).2 "out/api.rs").1 = .ok api.utf8 ∧
        (Files.read ((g.withFormatter f).runOn t).2 "out/funcs.rs").1 = .ok funcs.utf8 := by
  intro t f g r
  have hplain : ((g.withFormatter Formatter.identity).runOn t).1.result = .ok r := by
    decide +kernel
  have hformatted : ((g.withFormatter f).runOn t).1.result = .ok (r.accepting false true) := by
    decide +kernel
  have hnames := FileTree.named_ne (t := ((g.withFormatter f).runOn t).2) (p := r.api.path)
    (q := r.funcs.path) (by decide +kernel)
  obtain ⟨-, hok⟩ := run_withFormatter FileTree.isFaithful FileTree.ignoresBytes g f t
  obtain ⟨d, api, funcs, _, _, hfinds, hresult, hapi, hfuncs, hread⟩ := hok r hplain
  cases hformatted.symm.trans hresult
  exact ⟨FileTree.isFaithful, FileTree.ignoresBytes, hplain, hformatted, d, api, funcs, hfinds,
    hapi, hfuncs, hread hnames⟩

end HeaderBindings
