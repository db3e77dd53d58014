import HeaderBindings.Artifact.Table
import HeaderBindings.Proofs.Text.Cutting

/-!
# What names in documentation do to the code

The package name and the name of the header are written into comments of both generated files,
as they stand.  A comment ends with its line, so all of a name that stands behind a line break
is no part of the comment any more (`codeOf_comment`).

Hence the code of a file, which is what is left of it without its comment lines, does not depend
on the two names as long as they bring no line of code along, and they do so exactly if some line
of theirs, besides the first one, is no comment itself (`withoutComments_files`).
-/

namespace HeaderBindings.Artifact

open Text

/-! ## 1. Lines of comment -/

/-- A line whose first characters besides blanks are two slashes. -/
def isComment (l : Text) : Bool := startsWith (trimStart l) "//"

/-- The lines of a file that are no comments. -/
def withoutComments (t : Text) : List Text := (lines t).filter (!isComment ·)

/-- The lines of a text behind its first line break. -/
def furtherLines (t : Text) : List Text := (lines (t ++ "\n")).tail

/-- A text whose lines but the first are comments. -/
def AddsNoCode (t : Text) : Prop := ∀ l ∈ furtherLines t, isComment l = true

instance (t : Text) : Decidable (AddsNoCode t) := by
  unfold AddsNoCode
  infer_instance

/-- The names that documentation mentions bring no line of code along. -/
structure HasQuietNames (b : Bindings) : Prop where
  package : AddsNoCode b.package
  headerTitle : AddsNoCode b.headerTitle

theorem addsNoCode_of_newline_notMem {t : Text} (h : '\n' ∉ t) : AddsNoCode t := by
  have hlines : lines (t ++ "\n") = [t] := lines_append_newline h []
  rw [AddsNoCode, furtherLines, hlines]
  exact fun l hl => by cases hl

theorem isComment_slashes {s : Text} (hs : ∀ c ∈ s, isBlank c = true) (t : Text) :
    isComment (s ++ '/' :: '/' :: t) = true := by
  have hdrop : trimStart (s ++ '/' :: '/' :: t) = '/' :: '/' :: t := by
    rw [trimStart, List.dropWhile_append_of_pos hs]
    exact List.dropWhile_cons_of_neg (by decide)
  rw [isComment, hdrop]
  rfl

/-- Whether a line is a comment is settled before a backquote. -/
theorem isComment_append_backquote (l t : Text) : isComment (l ++ '`' :: t) = isComment l := by
  rw [isComment, isComment, trimStart, trimStart, List.dropWhile_append]
  cases hdrop : l.dropWhile isBlank with
  | nil =>
    have hquote : ('`' :: t).dropWhile isBlank = '`' :: t :=
      List.dropWhile_cons_of_neg (by decide)
    rw [List.isEmpty_nil, if_pos rfl, hquote]
    rfl
  | cons c rest =>
    cases rest with
    | nil => simp [startsWith, List.isPrefixOf]
    | cons d rest => simp [startsWith, List.isPrefixOf]

/-! ## 2. Comments that mention a name -/

/-- The lines of code that a written line makes, which are several if it holds line breaks. -/
def codeOf (l : Text) : List Text := withoutComments (l ++ "\n")

theorem withoutComments_unlines (ls : List Text) :
    withoutComments (unlines ls) = ls.flatMap codeOf := by
  induction ls with
  | nil => rfl
  | cons l ls ih =>
    rw [unlines_cons, withoutComments, lines_append, List.filter_append, List.flatMap_cons, ← ih]
    rfl

/-- **A comment that mentions a name makes code exactly if the name brings some along.** -/
theorem codeOf_comment {start u : Text} (hstart : '\n' ∉ start)
    (hcomment : ∀ t, isComment (start ++ t) = true) (hu : '\n' ∉ u) (t : Text) :
    codeOf (start ++ t ++ '`' :: u) = [] ↔ AddsNoCode t := by
  have hend : '\n' ∉ '`' :: u := by simpa using hu
  by_cases h : '\n' ∈ t
  · obtain ⟨l, rest, rfl, hl⟩ := List.eq_append_cons_of_mem h
    have hfirst : '\n' ∉ start ++ l := fun h => (List.mem_append.1 h).elim hstart hl
    obtain ⟨ls, last, hplain, hended⟩ := exists_lines_ending rest hend
    have hwritten : lines (start ++ (l ++ '\n' :: rest) ++ '`' :: u ++ "\n") =
        (start ++ l) :: (ls ++ [last ++ '`' :: u]) := by
      rw [← hended, ← lines_append_newline hfirst]
      simp only [List.append_assoc, List.cons_append]
    have hfurther : furtherLines (l ++ '\n' :: rest) = ls ++ [last] := by
      rw [furtherLines, ← hplain, List.append_assoc, List.cons_append, lines_append_newline hl,
        List.tail_cons]
    rw [codeOf, withoutComments, hwritten, AddsNoCode, hfurther, List.filter_eq_nil_iff]
    simp [hcomment, or_imp, forall_and, isComment_append_backquote]
  · have hone : '\n' ∉ start ++ t ++ '`' :: u := by
      simp only [List.mem_append, not_or]
      exact ⟨⟨hstart, h⟩, hend⟩
    have hwritten : lines (start ++ t ++ '`' :: u ++ "\n") = [start ++ t ++ '`' :: u] :=
      lines_append_newline hone []
    have hline : isComment (start ++ t ++ '`' :: u) = true := by
      rw [List.append_assoc]
      exact hcomment _
    rw [codeOf, withoutComments, hwritten]
    refine iff_of_true (List.filter_cons_of_neg ?_) (addsNoCode_of_newline_notMem h)
    rw [hline]
    exact Bool.false_ne_true

/-! ## 3. The two files -/

/-! The lines that mention a name, in the words of the files. -/

section
variable (title : Text) (b : Bindings)

def packageLine : Text := "//! " ++ title ++ " for `" ++ b.package ++ "`."

def originLine : Text :=
  "//! Code generated by hdrbind from `" ++ b.headerTitle ++ "`. DO NOT EDIT."

def traitLine : Text := "/// Functions exported by `" ++ b.headerTitle ++ "`."

def safetyLine : Text :=
  "    /// `library` must be the library described by `" ++ b.headerTitle ++ "`, and it must stay"

end

/-- A file that mentions names in its first and third line and in one more. -/
def mentioning (package origin mention : Text) (before after : List Text) : List Text :=
  package :: "//!" :: origin :: (before ++ mention :: after)

theorem codeOf_packageLine {title : Text} (htitle : '\n' ∉ title) (b : Bindings) :
    codeOf (packageLine title b) = [] ↔ AddsNoCode b.package := by
  have hstart : '\n' ∉ ("//! " ++ title ++ " for `" : Text) := by simp [htitle]
  have hcomment : ∀ t : Text, isComment ("//! " ++ title ++ " for `" ++ t) = true := by
    intro t
    simp only [List.append_assoc]
    exact isComment_slashes (s := []) (by simp) _
  exact codeOf_comment hstart hcomment (by decide) b.package

theorem codeOf_originLine (b : Bindings) :
    codeOf (originLine b) = [] ↔ AddsNoCode b.headerTitle :=
  codeOf_comment (by decide) (fun t => isComment_slashes (s := []) (by simp) _) (by decide) _

theorem codeOf_traitLine (b : Bindings) :
    codeOf (traitLine b) = [] ↔ AddsNoCode b.headerTitle :=
  codeOf_comment (by decide) (fun t => isComment_slashes (s := []) (by simp) _) (by decide) _

theorem codeOf_safetyLine (b : Bindings) :
    codeOf (safetyLine b) = [] ↔ AddsNoCode b.headerTitle :=
  codeOf_comment (by decide) (fun t => isComment_slashes (s := "    ") (by decide) _) (by decide) _

theorem withoutComments_mentioning (package origin mention : Text) (before after : List Text) :
    withoutComments (unlines (mentioning package origin mention before after)) =
      codeOf package ++ codeOf origin ++ before.flatMap codeOf ++ codeOf mention ++
        after.flatMap codeOf := by
  have hempty : codeOf "//!" = [] := by decide
  rw [withoutComments_unlines, mentioning, List.flatMap_cons, List.flatMap_cons, List.flatMap_cons,
    List.flatMap_append, List.flatMap_cons, hempty]
  simp only [List.append_assoc, List.nil_append]

/-- A file agrees with one whose comments stay comments exactly if its own ones do. -/
theorem withoutComments_mentioning_iff {p o m p' o' m' : Text} {before after : List Text}
    (hp : codeOf p' = []) (ho : codeOf o' = []) (hm : codeOf m' = []) :
    withoutComments (unlines (mentioning p o m before after)) =
        withoutComments (unlines (mentioning p' o' m' before after)) ↔
      codeOf p = [] ∧ codeOf o = [] ∧ codeOf m = [] := by
  rw [withoutComments_mentioning, withoutComments_mentioning, hp, ho, hm]
  constructor
  · intro h
    have hlength := congrArg List.length h
    simp only [List.length_append, List.length_nil] at hlength
    simp only [← List.length_eq_zero_iff]
    omega
  · rintro ⟨h₁, h₂, h₃⟩
    rw [h₁, h₂, h₃]

/-- The lines of the banner behind its comments, which are the same for all bindings. -/
def bannerEnd : List Text := (banner [] ⟨[], [], ⟨[]⟩, []⟩).drop 3

theorem banner_eq (title : Text) (b : Bindings) :
    banner title b = packageLine title b :: "//!" :: originLine b :: bannerEnd := rfl

/-- What stands between the first comments of the file of handles and methods and the comment
    on its trait. -/
def traitFileBefore (runtime : Text) (b : Bindings) : List Text :=
  bannerEnd ++ foreignImports b ++ b.opaqueTypes.entries.flatMap (handleLines runtime)

theorem traitFileLines_eq (runtime : Text) (b : Bindings) :
    traitFileLines runtime b = mentioning (packageLine "Native API surface" b) (originLine b)
      (traitLine b) (traitFileBefore runtime b) (traitLines b.functions) :=
  List.append_assoc (packageLine "Native API surface" b :: "//!" :: originLine b ::
    traitFileBefore runtime b) [traitLine b] (traitLines b.functions)

/-- What stands between the first comments of the file of the function table and the comment that
    describes the library. -/
def tableFileBefore (apiModule : Text) (b : Bindings) : List Text :=
  bannerEnd ++ foreignImports b ++ ["use super::" ++ apiModule ++ "::*;", []] ++
    tableLines b.functions ++ (loadOpening [] [] []).take 5

/-- What stands behind the comment that describes the library. -/
def tableFileAfter (runtime : Text) (fs : List Function) : List Text :=
  (loadOpening runtime [] (libraryName fs)).drop 6 ++ (entries fs).map (resolveLine runtime) ++
    (["        \x7d)", "    \x7d", "\x7d", []] : List Text) ++ implLines fs

theorem tableFileLines_eq (runtime apiModule : Text) (b : Bindings) :
    tableFileLines runtime apiModule b = mentioning (packageLine "Native symbol table" b)
      (originLine b) (safetyLine b) (tableFileBefore apiModule b)
      (tableFileAfter runtime b.functions) := by
  have hopening : loadOpening runtime b.headerTitle (libraryName b.functions) =
      (loadOpening [] [] []).take 5 ++
        safetyLine b :: (loadOpening runtime [] (libraryName b.functions)).drop 6 := rfl
  rw [tableFileLines, banner_eq, tableFileBefore, tableFileAfter, mentioning, loadLines, hopening]
  simp only [List.cons_append, List.append_assoc]

theorem foreignImports_congr {b b' : Bindings} (h : b.functions = b'.functions) :
    foreignImports b = foreignImports b' := by
  unfold foreignImports foreignNames Bindings.types
  rw [h]

/-- **Names in documentation do not change the code**, exactly as long as they bring no line of
    code along.  Two bindings with the same opaque types and functions may differ in their package
    names and headers; if the names of one of them are quiet, as those without line breaks are,
    then the files of the other one agree with its files, up to comment lines, exactly if the
    names of that one are quiet as well. -/
theorem withoutComments_files {b b' : Bindings} (hopaques : b.opaqueTypes = b'.opaqueTypes)
    (hfunctions : b.functions = b'.functions) (hquiet : HasQuietNames b')
    (runtimeCrate apiFile : Text) :
    (withoutComments (traitFile runtimeCrate b) = withoutComments (traitFile runtimeCrate b') ↔
      HasQuietNames b) ∧
    (withoutComments (tableFile runtimeCrate apiFile b) =
        withoutComments (tableFile runtimeCrate apiFile b') ↔ HasQuietNames b) := by
  have hpackage : ∀ title, '\n' ∉ title → codeOf (packageLine title b') = [] :=
    fun title htitle => (codeOf_packageLine htitle b').2 hquiet.package
  have horigin : codeOf (originLine b') = [] := (codeOf_originLine b').2 hquiet.headerTitle
  have hnames : AddsNoCode b.package ∧ AddsNoCode b.headerTitle ∧ AddsNoCode b.headerTitle ↔
      HasQuietNames b := by
    rw [and_self]
    exact ⟨fun h => ⟨h.1, h.2⟩, fun h => ⟨h.package, h.headerTitle⟩⟩
  have himports := foreignImports_congr hfunctions
  constructor
  · have hbefore : traitFileBefore (runtimeRoot runtimeCrate) b =
        traitFileBefore (runtimeRoot runtimeCrate) b' := by
      rw [traitFileBefore, traitFileBefore, himports, hopaques]
    rw [traitFile, traitFile, traitFileLines_eq, traitFileLines_eq, hbefore, hfunctions,
      withoutComments_mentioning_iff (hpackage _ (by decide)) horigin
        ((codeOf_traitLine b').2 hquiet.headerTitle),
      codeOf_packageLine (by decide), codeOf_originLine, codeOf_traitLine, hnames]
  · have hbefore : tableFileBefore (siblingModule apiFile) b =
        tableFileBefore (siblingModule apiFile) b' := by
      rw [tableFileBefore, tableFileBefore, himports, hfunctions]
    rw [tableFile, tableFile, tableFileLines_eq, tableFileLines_eq, hbefore, hfunctions,
      withoutComments_mentioning_iff (hpackage _ (by decide)) horigin
        ((codeOf_safetyLine b').2 hquiet.headerTitle),
      codeOf_packageLine (by decide), codeOf_originLine, codeOf_safetyLine, hnames]

/-- A package name of two lines, of which the second one is a comment again, and a header that
    has no name, against plain ones. -/
theorem withoutComments_files_of_comment :
    let f : Function := ⟨"OgaF", ⟨"void", 0, false⟩, .unit, [], "F"⟩
    let b : Bindings := ⟨"a/..", "x /*\n \t// y", ⟨[⟨"T", "T"⟩]⟩, [f]⟩
    let b' : Bindings := ⟨"a/t.h", "x", ⟨[⟨"T", "T"⟩]⟩, [f]⟩
    b.opaqueTypes = b'.opaqueTypes ∧ b.functions = b'.functions ∧ HasQuietNames b' ∧
      HasQuietNames b ∧
      withoutComments (traitFile "rt" b) = withoutComments (traitFile "rt" b') ∧
      withoutComments (tableFile "rt" "api.rs" b) =
        withoutComments (tableFile "rt" "api.rs" b') := by
  intro f b b'
  have hquiet : HasQuietNames b := ⟨by decide, by decide⟩
  have hquiet' : HasQuietNames b' := ⟨by decide, by decide⟩
  have hopaques : b.opaqueTypes = b'.opaqueTypes := rfl
  have hfunctions : b.functions = b'.functions := rfl
  have hfiles := withoutComments_files hopaques hfunctions hquiet' "rt" "api.rs"
  exact ⟨hopaques, hfunctions, hquiet', hquiet, hfiles.1.2 hquiet, hfiles.2.2 hquiet⟩

/-- Names in documentation may change the code: what stands behind a line break in a package name
    is no part of a comment. -/
theorem not_forall_withoutComments_files :
    ¬ ∀ b b' : Bindings, b.opaqueTypes = b'.opaqueTypes → b.functions = b'.functions →
      ∀ runtimeCrate apiFile : Text,
        withoutComments (traitFile runtimeCrate b) = withoutComments (traitFile runtimeCrate b') ∧
        withoutComments (tableFile runtimeCrate apiFile b) =
          withoutComments (tableFile runtimeCrate apiFile b') := by
  intro h
  have h := h ⟨"h", "x\npub mod y;", ⟨[]⟩, []⟩ ⟨"h", "x", ⟨[]⟩, []⟩ rfl rfl "rt" "api.rs"
  have h := h.1
  revert h
  decide +kernel

end HeaderBindings.Artifact
