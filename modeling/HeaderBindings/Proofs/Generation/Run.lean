import HeaderBindings.Generation
import HeaderBindings.Proofs.Storage.FileView

/-!
# How a run ends

A run stops at the first thing that goes wrong, and five things can: reading the header,
finding functions in it, creating the output directory, and writing the two files.
`Generator.Ends` lists the ways in which a run ends, with the result that it reports and the
files that it leaves.  They are all (`Generator.ends_iff`), so that what is proved about runs is
proved by cases on them.
-/

namespace HeaderBindings

/-- What is written for some source: the text that the formatter makes of it, or the source
    itself if the formatter fails. -/
inductive Formatter.Yields (f : Formatter) (source : Text) : Text → Bool → Prop
  | formatted {text : Text} (h : f source = .ok text) : Yields f source text true
  | raw {fault : FormatFault} (h : f source = .error fault) : Yields f source source false

theorem Formatter.yields_finish (f : Formatter) (source file : Text) :
    f.Yields source (f.finish source file).1.text (f.finish source file).1.accepted := by
  rw [finish]
  cases h : f source with
  | ok text => exact .formatted h
  | error fault => exact .raw h

/-! ## 1. One action after another -/

section
variable {σ α β : Type}

/-- Performed on the files `s`, the action ends with the result `r` and leaves the files
    `s'`. -/
def EndsWith (x : StateM σ (Outcome α)) (s : σ) (r : Except GenerationError α) (s' : σ) : Prop :=
  (x.run s).1.result = r ∧ (x.run s).2 = s'

theorem endsWith_pure (o : Outcome α) (s : σ) :
    EndsWith (pure o : StateM σ (Outcome α)) s o.result s := ⟨rfl, rfl⟩

theorem endsWith_bind {x : StateM σ α} {f : α → StateM σ (Outcome β)} {s s₁ s' : σ} {a : α}
    {r : Except GenerationError β} (hx : x.run s = (a, s₁)) (hf : EndsWith (f a) s₁ r s') :
    EndsWith (x >>= f) s r s' := by
  have hrun : (x >>= f).run s = (f a).run s₁ := by
    rw [StateT.run_bind, hx]
    rfl
  rw [EndsWith, hrun]
  exact hf

/-- What goes on behind an action sees the result of the action, whatever it has reported. -/
theorem EndsWith.bind {x : StateM σ (Outcome α)} {f : Outcome α → StateM σ (Outcome β)}
    {s s₁ s' : σ} {r : Except GenerationError α} {r' : Except GenerationError β}
    (hx : EndsWith x s r s₁) (hf : ∀ events, EndsWith (f ⟨r, events⟩) s₁ r' s') :
    EndsWith (x >>= f) s r' s' := by
  obtain ⟨hr, hs⟩ := hx
  have hrun : x.run s = (⟨r, (x.run s).1.events⟩, s₁) := by
    rw [← hr, ← hs]
    rfl
  exact endsWith_bind hrun (hf _)

end

/-! ## 2. The ways in which a run ends -/

namespace Generator

/-- The declarations that are found in a header with the given octets. -/
def declarations (g : Generator) (c : Bytes) : Declarations :=
  (g.source (Utf8.decodeLossy c)).declarations

def apiPath (g : Generator) : Path := Path.join g.options.outDir g.options.apiFile

def funcsPath (g : Generator) : Path := Path.join g.options.outDir g.options.funcsFile

/-- What is written to the file of handles. -/
def apiOutput (g : Generator) (d : Declarations) : Finished :=
  (g.formatter.finish (g.apiSource d) g.options.apiFile).1

/-- What is written to the file of the function table. -/
def funcsOutput (g : Generator) (d : Declarations) : Finished :=
  (g.formatter.finish (g.funcsSource d) g.options.funcsFile).1

/-- The report of a run that has written both files. -/
def success (g : Generator) (d : Declarations) : Report :=
  g.report d (⟨g.apiPath, (g.apiOutput d).accepted⟩, ⟨g.funcsPath, (g.funcsOutput d).accepted⟩)

/-- Functions are asked for, and the declarations have none. -/
def IsBarren (g : Generator) (d : Declarations) : Prop :=
  d.functions = [] ∧ g.options.requireFunctions = true

section
variable {σ : Type} [FileAccess (StateM σ)]

/-- The outcome of a run on the files `s`, and the files that it leaves. -/
def runOn (g : Generator) (s : σ) : Outcome Report × σ :=
  (g.run : StateM σ (Outcome Report)).run s

/-- The header is read, and the declarations `d` are found in it. -/
def Finds (g : Generator) (s : σ) (d : Declarations) (s' : σ) : Prop :=
  ∃ c, Files.read s g.options.header = (.ok c, s') ∧ g.declarations c = d

/-- The header is read, its declarations `d` are enough, and the output directory is there. -/
def Prepares (g : Generator) (s : σ) (d : Declarations) (s' : σ) : Prop :=
  ∃ s₁, g.Finds s d s₁ ∧ ¬ g.IsBarren d ∧
    Files.createDirs s₁ g.options.outDir = (.ok (), s')

/-- How a run on the files `s` ends: its result, and the files that it leaves. -/
inductive Ends (g : Generator) (s : σ) : Except GenerationError Report → σ → Prop
  | unread {fault : Fault} {s' : σ}
      (hread : Files.read s g.options.header = (.error fault, s')) :
      Ends g s (.error (.headerUnreadable g.options.header fault)) s'
  | barren {d : Declarations} {s' : σ} (hfinds : g.Finds s d s') (hbarren : g.IsBarren d) :
      Ends g s (.error (.nothingExported g.options.header)) s'
  | noDirectory {d : Declarations} {fault : Fault} {s₁ s' : σ} (hfinds : g.Finds s d s₁)
      (henough : ¬ g.IsBarren d)
      (hdirs : Files.createDirs s₁ g.options.outDir = (.error fault, s')) :
      Ends g s (.error (.outputDirMissing g.options.outDir fault)) s'
  | apiUnwritten {d : Declarations} {fault : Fault} {s₁ s' : σ} (hprepares : g.Prepares s d s₁)
      (hapi : Files.write s₁ g.apiPath (g.apiOutput d).text.utf8 = (.error fault, s')) :
      Ends g s (.error (.fileUnwritable g.apiPath fault)) s'
  | funcsUnwritten {d : Declarations} {fault : Fault} {s₁ s₂ s' : σ}
      (hprepares : g.Prepares s d s₁)
      (hapi : Files.write s₁ g.apiPath (g.apiOutput d).text.utf8 = (.ok (), s₂))
      (hfuncs : Files.write s₂ g.funcsPath (g.funcsOutput d).text.utf8 = (.error fault, s')) :
      Ends g s (.error (.fileUnwritable g.funcsPath fault)) s'
  | written {d : Declarations} {s₁ s₂ s' : σ} (hprepares : g.Prepares s d s₁)
      (hapi : Files.write s₁ g.apiPath (g.apiOutput d).text.utf8 = (.ok (), s₂))
      (hfuncs : Files.write s₂ g.funcsPath (g.funcsOutput d).text.utf8 = (.ok (), s')) :
      Ends g s (.ok (g.success d)) s'

/-- A run ends in one of the ways that are listed. -/
theorem exists_ends (g : Generator) (s : σ) : ∃ r s', g.Ends s r s' := by
  cases hread : Files.read s g.options.header with
  | mk out s₁ =>
    cases out with
    | error fault => exact ⟨_, _, .unread hread⟩
    | ok c =>
      have hfinds : g.Finds s (g.declarations c) s₁ := ⟨c, hread, rfl⟩
      by_cases hbarren : g.IsBarren (g.declarations c)
      · exact ⟨_, _, .barren hfinds hbarren⟩
      · cases hdirs : Files.createDirs s₁ g.options.outDir with
        | mk out s₂ =>
          cases out with
          | error fault => exact ⟨_, _, .noDirectory hfinds hbarren hdirs⟩
          | ok _ =>
            have hprepares : g.Prepares s (g.declarations c) s₂ := ⟨s₁, hfinds, hbarren, hdirs⟩
            cases hapi : Files.write s₂ g.apiPath (g.apiOutput (g.declarations c)).text.utf8 with
            | mk out s₃ =>
              cases out with
              | error fault => exact ⟨_, _, .apiUnwritten hprepares hapi⟩
              | ok _ =>
                cases hfuncs : Files.write s₃ g.funcsPath
                    (g.funcsOutput (g.declarations c)).text.utf8 with
                | mk out s₄ =>
                  cases out with
                  | error fault => exact ⟨_, _, .funcsUnwritten hprepares hapi hfuncs⟩
                  | ok _ => exact ⟨_, _, .written hprepares hapi hfuncs⟩

/-! ## 3. The run does as it is said to do -/

section
variable {g : Generator} {d : Declarations} {s s₁ s₂ s' : σ}

theorem endsWith_loadHeader_error {p : Path} {fault : Fault}
    (h : Files.read s p = (.error fault, s')) :
    EndsWith (loadHeader p : StateM σ (Outcome Text)) s (.error (.headerUnreadable p fault)) s' :=
  endsWith_bind h (endsWith_pure _ _)

theorem endsWith_loadHeader_ok {p : Path} {c : Bytes} (h : Files.read s p = (.ok c, s')) :
    EndsWith (loadHeader p : StateM σ (Outcome Text)) s (.ok (Utf8.decodeLossy c)) s' :=
  endsWith_bind h (endsWith_pure _ _)

theorem endsWith_writeFile_error {file source : Text} {fault : Fault}
    (h : Files.write s (Path.join g.options.outDir file)
      (g.formatter.finish source file).1.text.utf8 = (.error fault, s')) :
    EndsWith (g.writeFile file source : StateM σ (Outcome WrittenFile)) s
      (.error (.fileUnwritable (Path.join g.options.outDir file) fault)) s' :=
  endsWith_bind h (endsWith_pure _ _)

theorem endsWith_writeFile_ok {file source : Text}
    (h : Files.write s (Path.join g.options.outDir file)
      (g.formatter.finish source file).1.text.utf8 = (.ok (), s')) :
    EndsWith (g.writeFile file source : StateM σ (Outcome WrittenFile)) s
      (.ok ⟨Path.join g.options.outDir file, (g.formatter.finish source file).1.accepted⟩) s' :=
  endsWith_bind h (endsWith_pure _ _)

theorem endsWith_writeFiles_noDirectory {fault : Fault}
    (hdirs : Files.createDirs s g.options.outDir = (.error fault, s')) :
    EndsWith (g.writeFiles d : StateM σ (Outcome (WrittenFile × WrittenFile))) s
      (.error (.outputDirMissing g.options.outDir fault)) s' :=
  endsWith_bind hdirs (endsWith_pure _ _)

theorem endsWith_writeFiles_apiUnwritten {fault : Fault}
    (hdirs : Files.createDirs s g.options.outDir = (.ok (), s₁))
    (hapi : Files.write s₁ g.apiPath (g.apiOutput d).text.utf8 = (.error fault, s')) :
    EndsWith (g.writeFiles d : StateM σ (Outcome (WrittenFile × WrittenFile))) s
      (.error (.fileUnwritable g.apiPath fault)) s' := by
  refine endsWith_bind hdirs ?_
  exact (endsWith_writeFile_error hapi).bind fun events => endsWith_pure _ _

theorem endsWith_writeFiles_funcsUnwritten {fault : Fault}
    (hdirs : Files.createDirs s g.options.outDir = (.ok (), s₁))
    (hapi : Files.write s₁ g.apiPath (g.apiOutput d).text.utf8 = (.ok (), s₂))
    (hfuncs : Files.write s₂ g.funcsPath (g.funcsOutput d).text.utf8 = (.error fault, s')) :
    EndsWith (g.writeFiles d : StateM σ (Outcome (WrittenFile × WrittenFile))) s
      (.error (.fileUnwritable g.funcsPath fault)) s' := by
  refine endsWith_bind hdirs ?_
  refine (endsWith_writeFile_ok hapi).bind fun events => ?_
  exact (endsWith_writeFile_error hfuncs).bind fun events => endsWith_pure _ _

theorem endsWith_writeFiles_written
    (hdirs : Files.createDirs s g.options.outDir = (.ok (), s₁))
    (hapi : Files.write s₁ g.apiPath (g.apiOutput d).text.utf8 = (.ok (), s₂))
    (hfuncs : Files.write s₂ g.funcsPath (g.funcsOutput d).text.utf8 = (.ok (), s')) :
    EndsWith (g.writeFiles d : StateM σ (Outcome (WrittenFile × WrittenFile))) s
      (.ok (⟨g.apiPath, (g.apiOutput d).accepted⟩, ⟨g.funcsPath, (g.funcsOutput d).accepted⟩))
      s' := by
  refine endsWith_bind hdirs ?_
  refine (endsWith_writeFile_ok hapi).bind fun events => ?_
  exact (endsWith_writeFile_ok hfuncs).bind fun events => endsWith_pure _ _

/-- What comes behind the header is done with the declarations found in it. -/
theorem endsWith_run {r : Except GenerationError Report} (h : g.Finds s d s₁)
    (hd : EndsWith (g.generateFrom d : StateM σ (Outcome Report)) s₁ r s') :
    EndsWith (g.run : StateM σ (Outcome Report)) s r s' := by
  obtain ⟨c, hread, rfl⟩ := h
  refine (endsWith_loadHeader_ok hread).bind fun events => ?_
  exact hd.bind fun events => endsWith_pure _ _

/-- If the declarations are enough, the run goes on with the files. -/
theorem endsWith_run_of_enough {r : Except GenerationError (WrittenFile × WrittenFile)}
    (h : g.Finds s d s₁) (henough : ¬ g.IsBarren d)
    (hd : EndsWith (g.writeFiles d : StateM σ (Outcome (WrittenFile × WrittenFile))) s₁ r s') :
    EndsWith (g.run : StateM σ (Outcome Report)) s (r.map (g.report d)) s' := by
  apply endsWith_run h
  rw [IsBarren] at henough
  rw [generateFrom, if_neg henough]
  exact hd.bind fun events => endsWith_pure _ _

end

/-- A run with a listed end ends so. -/
theorem Ends.endsWith {g : Generator} {s s' : σ} {r : Except GenerationError Report}
    (h : g.Ends s r s') : EndsWith (g.run : StateM σ (Outcome Report)) s r s' := by
  cases h with
  | unread hread =>
    exact (endsWith_loadHeader_error hread).bind fun events => endsWith_pure _ _
  | barren hfinds hbarren =>
    apply endsWith_run hfinds
    rw [IsBarren] at hbarren
    rw [generateFrom, if_pos hbarren]
    exact endsWith_pure _ _
  | noDirectory hfinds henough hdirs =>
    exact (endsWith_run_of_enough hfinds henough (endsWith_writeFiles_noDirectory hdirs) :)
  | apiUnwritten hprepares hapi =>
    obtain ⟨s₁, hfinds, henough, hdirs⟩ := hprepares
    exact (endsWith_run_of_enough hfinds henough
      (endsWith_writeFiles_apiUnwritten hdirs hapi) :)
  | funcsUnwritten hprepares hapi hfuncs =>
    obtain ⟨s₁, hfinds, henough, hdirs⟩ := hprepares
    exact (endsWith_run_of_enough hfinds henough
      (endsWith_writeFiles_funcsUnwritten hdirs hapi hfuncs) :)
  | written hprepares hapi hfuncs =>
    obtain ⟨s₁, hfinds, henough, hdirs⟩ := hprepares
    exact (endsWith_run_of_enough hfinds henough
      (endsWith_writeFiles_written hdirs hapi hfuncs) :)

/-- **A run ends in exactly one of the listed ways.** -/
theorem ends_iff {g : Generator} {s s' : σ} {r : Except GenerationError Report} :
    g.Ends s r s' ↔ (g.runOn s).1.result = r ∧ (g.runOn s).2 = s' := by
  constructor
  · exact Ends.endsWith
  · rintro ⟨rfl, rfl⟩
    obtain ⟨r, s', h⟩ := g.exists_ends s
    obtain ⟨hr, hs⟩ := h.endsWith
    show g.Ends s ((g.run : StateM σ (Outcome Report)).run s).1.result
      ((g.run : StateM σ (Outcome Report)).run s).2
    rw [hr, hs]
    exact h

theorem ends_runOn (g : Generator) (s : σ) :
    g.Ends s (g.runOn s).1.result (g.runOn s).2 :=
  ends_iff.2 ⟨rfl, rfl⟩

end

end Generator

end HeaderBindings
