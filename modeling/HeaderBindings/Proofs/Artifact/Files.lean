import HeaderBindings.Proofs.Artifact.Reading

/-!
# Reading generated files

The two generated files are put together from blocks of lines: a heading, the lines
between the braces of an item, the lines behind them.  Here the blocks are found again.
No line of a file has a line break, comments and empty lines are left out, and the line
that opens a block is the first one of its kind.
-/

namespace HeaderBindings.Artifact

open Text

/-! ## 1. Lines of code -/

theorem codeLines_unlines {ls : List Text} (h : ∀ l ∈ ls, '\n' ∉ l) :
    codeLines (unlines ls) = ls.filter isCode := by
  rw [codeLines, lines_unlines h]

/-- An indented line that begins with neither a space nor a slash is code. -/
theorem isCode_indented {s : Text} (hs : ∀ c ∈ s, c = ' ') {c : Char} (hspace : c ≠ ' ')
    (hslash : c ≠ '/') (t : Text) : isCode (s ++ c :: t) = true := by
  have hdrop : (s ++ c :: t).dropWhile (· = ' ') = c :: t := by
    rw [List.dropWhile_append_of_pos fun d hd => decide_eq_true (hs d hd)]
    exact List.dropWhile_cons_of_neg (by simpa using hspace)
  have hstart : startsWith (c :: t) ['/', '/'] = false := by
    simp [startsWith, List.isPrefixOf, hslash.symm]
  simp [isCode, hdrop, hstart]

theorem isCode_bare {s name : Text} (hs : ∀ c ∈ s, c = ' ') (hname : IsBare name) (t : Text) :
    isCode (s ++ (name ++ ':' :: t)) = true := by
  cases name with
  | nil => exact isCode_indented hs (by decide) (by decide) t
  | cons c name =>
    have hc : c ∉ delimiters := hname c List.mem_cons_self
    have hspace : c ≠ ' ' := by
      rintro rfl
      exact hc (by decide)
    have hslash : c ≠ '/' := by
      rintro rfl
      exact hc (by decide)
    exact isCode_indented hs hspace hslash (name ++ ':' :: t)

theorem isCode_fieldLine {e : Function × Text} (he : IsBare e.2) :
    isCode (fieldLine e) = true := by
  have hshape : fieldLine e = "    " ++ (e.2 ++ ':' :: (" " ++ pointerType e.1 ++ ",")) := by
    unfold fieldLine
    simp only [List.append_assoc]
    rfl
  rw [hshape]
  exact isCode_bare (by decide) he _

theorem isCode_resolveLine {e : Function × Text} (he : IsBare e.2) (runtime : Text) :
    isCode (resolveLine runtime e) = true := by
  have hshape : resolveLine runtime e = "            " ++ (e.2 ++ ':' :: (" unsafe \x7b " ++
      runtime ++ "::resolve(library, \"" ++ e.1.symbol ++ "\")? \x7d,")) := by
    unfold resolveLine
    simp only [List.append_assoc]
    rfl
  rw [hshape]
  exact isCode_bare (by decide) he _

theorem isCode_methodSignature (f : Function) (t : Text) :
    isCode ("    " ++ methodSignature f ++ t) = true := by
  have hshape : ∃ rest, "    " ++ methodSignature f ++ t = "    " ++ 'u' :: rest := by
    unfold methodSignature
    simp only [List.append_assoc]
    exact ⟨_, rfl⟩
  obtain ⟨rest, hrest⟩ := hshape
  rw [hrest]
  exact isCode_indented (by decide) (by decide) (by decide) rest

theorem filter_forwardLines (e : Function × Text) :
    (forwardLines e).filter isCode = forwardLines e := by
  apply List.filter_eq_self.2
  intro l hl
  simp only [forwardLines, List.mem_cons, List.not_mem_nil, or_false] at hl
  rcases hl with rfl | rfl | rfl
  · exact isCode_methodSignature e.1 " \x7b"
  · have hshape : ∃ rest, "        unsafe \x7b (self." ++ e.2 ++ ")(" ++
        joinWith ", " (argumentNames e.1.params) ++ ") \x7d" = "        " ++ 'u' :: rest := by
      simp only [List.append_assoc]
      exact ⟨_, rfl⟩
    obtain ⟨rest, hrest⟩ := hshape
    rw [hrest]
    exact isCode_indented (by decide) (by decide) (by decide) rest
  · decide

theorem filter_methodLines (f : Function) :
    (methodLines f).filter isCode = ["    " ++ methodSignature f ++ ";"] := by
  have hcomment : isCode ("    /// Calls `" ++ f.symbol ++ "`.") = false := by
    simp only [List.append_assoc]
    rfl
  rw [methodLines, List.filter_cons_of_neg (by rw [hcomment]; decide),
    List.filter_cons_of_pos (isCode_methodSignature f ";")]
  rfl

theorem spaced_cons_cons (g g' : List Text) (groups : List (List Text)) :
    spaced (g :: g' :: groups) = g ++ [[]] ++ spaced (g' :: groups) :=
  List.intercalate_cons_cons

/-- The empty lines between groups of lines are no code. -/
theorem filter_spaced (groups : List (List Text)) :
    (spaced groups).filter isCode = groups.flatMap (·.filter isCode) := by
  induction groups with
  | nil => rfl
  | cons g groups ih =>
    cases groups with
    | nil => simp [spaced]
    | cons g' groups =>
      have hempty : ([[]] : List Text).filter isCode = [] := by decide
      rw [spaced_cons_cons, List.filter_append, List.filter_append, hempty, List.append_nil, ih]
      rfl

/-! ## 2. Blocks of lines -/

theorem block?_append {opening closing : Text} {before inside : List Text}
    (hbefore : opening ∉ before) (hinside : closing ∉ inside) (rest : List Text) :
    block? opening closing (before ++ opening :: (inside ++ closing :: rest)) =
      some (inside, rest) := by
  simp only [block?, cutFirst?_append hbefore, Option.bind_eq_bind, Option.bind_some,
    cutFirst?_append hinside]

theorem notMem_of_isPrefixOf {item : Text} {ls : List Text}
    (h : ∀ l ∈ ls, item.isPrefixOf l = false) (t : Text) : item ++ t ∉ ls := by
  intro hmem
  have hstart : item.isPrefixOf (item ++ t) = true :=
    List.isPrefixOf_iff_prefix.2 (List.prefix_append item t)
  rw [h _ hmem] at hstart
  cases hstart

/-- An item with lines between its braces, where no other line begins like the item. -/
theorem body?_block {item : Text} {before inside : List Text}
    (hitem : item.isPrefixOf ['\x7d'] = false)
    (hbefore : ∀ l ∈ before, item.isPrefixOf l = false)
    (hinside : ∀ l ∈ inside, item.isPrefixOf l = false) (hclosing : ['\x7d'] ∉ inside) :
    body? item (before ++ (item ++ " \x7b") :: (inside ++ [['\x7d']])) = some inside := by
  have hempty : item ++ " \x7b\x7d" ∉
      before ++ (item ++ " \x7b") :: (inside ++ [['\x7d']]) := by
    intro hmem
    rcases List.mem_append.1 hmem with hmem | hmem
    · exact notMem_of_isPrefixOf hbefore _ hmem
    · rcases List.mem_cons.1 hmem with heq | hmem
      · have htails := List.append_cancel_left heq
        revert htails
        decide
      · rcases List.mem_append.1 hmem with hmem | hmem
        · exact notMem_of_isPrefixOf hinside _ hmem
        · exact notMem_of_isPrefixOf (List.forall_mem_singleton.2 hitem) _ hmem
  rw [body?, if_neg hempty]
  have hblock := block?_append (notMem_of_isPrefixOf hbefore " \x7b") hclosing []
  exact congrArg (Option.map Prod.fst) hblock

theorem body?_empty {item : Text} {ls : List Text} (h : item ++ " \x7b\x7d" ∈ ls) :
    body? item ls = some [] := if_pos h

/-! ## 3. The lines that both files begin with -/

/-- The lines that import foreign types, one list for each set of such types. -/
def importBlocks : List (List Text) :=
  [[], ["use std::ffi::c_char;", []], ["use std::ffi::c_void;", []],
    ["use std::ffi::\x7bc_char, c_void\x7d;", []]]

theorem foreignImports_mem_importBlocks (b : Bindings) : foreignImports b ∈ importBlocks := by
  unfold foreignImports foreignNames
  cases b.types.any SignatureType.needsCChar <;> cases b.types.any SignatureType.needsCVoid <;>
    decide

def heading (title : Text) (b : Bindings) : List Text := banner title b ++ foreignImports b

/-- A text does not begin with another one whose first character is told apart from its own. -/
theorem isPrefixOf_eq_false_of_head? {p : Char → Bool} {start l : Text}
    (hstart : start.head?.any p = true) (hl : l.head?.any p = false) :
    start.isPrefixOf l = false := by
  cases start with
  | nil => cases hstart
  | cons c start =>
    cases l with
    | nil => rfl
    | cons d l =>
      have hne : c ≠ d := by
        rintro rfl
        exact Bool.false_ne_true (hl.symm.trans hstart)
      simp [List.isPrefixOf, hne]

/-- The banner is made of comments and an attribute. -/
theorem head?_of_mem_banner {title : Text} {b : Bindings} {l : Text} (h : l ∈ banner title b) :
    l.head?.any (fun c => c ≠ '/' && c ≠ '#') = false := by
  simp only [banner, List.mem_cons, List.not_mem_nil, or_false] at h
  rcases h with rfl | rfl | rfl | rfl | rfl | rfl
  · simp only [List.append_assoc]
    rfl
  · rfl
  · simp only [List.append_assoc]
    rfl
  · rfl
  · rfl
  · rfl

theorem isPrefixOf_heading {title : Text} {b : Bindings} {l : Text} (h : l ∈ heading title b) :
    ("pub " : Text).isPrefixOf l = false := by
  rcases List.mem_append.1 h with h | h
  · exact isPrefixOf_eq_false_of_head? rfl (head?_of_mem_banner h)
  · have hall : ∀ ls ∈ importBlocks, ∀ l ∈ ls, ("pub " : Text).isPrefixOf l = false := by decide
    exact hall _ (foreignImports_mem_importBlocks b) l h

theorem newline_notMem_banner {title : Text} {b : Bindings} (htitle : '\n' ∉ title)
    (hpackage : '\n' ∉ b.package) (hheader : '\n' ∉ b.headerTitle) {l : Text}
    (h : l ∈ banner title b) : '\n' ∉ l := by
  simp only [banner, List.mem_cons, List.not_mem_nil, or_false] at h
  rcases h with rfl | rfl | rfl | rfl | rfl | rfl
  · simp [htitle, hpackage]
  · decide
  · simp [hheader]
  · decide
  · decide
  · decide

theorem newline_notMem_foreignImports {b : Bindings} {l : Text} (h : l ∈ foreignImports b) :
    '\n' ∉ l := by
  have hall : ∀ ls ∈ importBlocks, ∀ l ∈ ls, '\n' ∉ l := by decide
  exact hall _ (foreignImports_mem_importBlocks b) l h

/-! ## 4. No line has a line break -/

theorem newline_notMem_text {t : SignatureType} (h : t.IsClean) : '\n' ∉ t.text :=
  notMem_type_text h (by decide) (by decide)

theorem newline_notMem_returnText {t : SignatureType} (h : t.IsClean) :
    '\n' ∉ returnText t := by
  unfold returnText
  split
  · exact List.not_mem_nil
  · simpa using newline_notMem_text h

theorem newline_notMem_joinWith {ws : List Text} (h : ∀ w ∈ ws, '\n' ∉ w) :
    '\n' ∉ joinWith ", " ws := by
  intro hmem
  rcases mem_of_mem_joinWith hmem with ⟨w, hw, hmem⟩ | hmem
  · exact h w hw hmem
  · revert hmem
    decide

theorem newline_notMem_pointerType {f : Function} (h : f.IsClean) : '\n' ∉ pointerType f := by
  have htypes : '\n' ∉ joinWith ", " (f.params.map (·.type.text)) := by
    apply newline_notMem_joinWith
    intro w hw
    obtain ⟨p, hp, rfl⟩ := List.mem_map.1 hw
    exact newline_notMem_text (h.paramTypes p hp)
  unfold pointerType
  generalize joinWith ", " (f.params.map (·.type.text)) = types at htypes ⊢
  simp [htypes, newline_notMem_returnText h.returnType]

theorem newline_notMem_argumentName {f : Function} (h : f.IsClean) {name : Text}
    (hname : name ∈ argumentNames f.params) : '\n' ∉ name :=
  notMem_argumentNames h hname (by decide) (Or.inl (by decide))

theorem newline_notMem_methodSignature {f : Function} (h : f.IsClean) :
    '\n' ∉ methodSignature f := by
  have hname : '\n' ∉ methodName f := (isBare_methodName h.stem).not_mem (by decide)
  have hparams : '\n' ∉ (methodParams f).flatMap paramText := by
    intro hmem
    obtain ⟨p, hp, hmem⟩ := List.mem_flatMap.1 hmem
    have hdeclared : (p.1, p.2.text) ∈ declaredParams f := List.mem_map_of_mem hp
    obtain ⟨hpname, q, hq, hqtext⟩ := mem_declaredParams hdeclared
    have hfirst := newline_notMem_argumentName h hpname
    have hsecond : '\n' ∉ p.2.text := by
      rw [← show q.type.text = p.2.text from hqtext]
      exact newline_notMem_text (h.paramTypes q hq)
    rw [paramText_eq] at hmem
    simp [declaredText, hfirst, hsecond] at hmem
  unfold methodSignature
  simp [hname, hparams, newline_notMem_returnText h.returnType]

theorem newline_notMem_forwardLines {e : Function × Text} (hf : e.1.IsClean)
    (hfield : IsBare e.2) {l : Text} (h : l ∈ forwardLines e) : '\n' ∉ l := by
  have hname : '\n' ∉ e.2 := hfield.not_mem (by decide)
  have harguments : '\n' ∉ joinWith ", " (argumentNames e.1.params) :=
    newline_notMem_joinWith fun w hw => newline_notMem_argumentName hf hw
  simp only [forwardLines, List.mem_cons, List.not_mem_nil, or_false] at h
  generalize joinWith ", " (argumentNames e.1.params) = arguments at harguments h
  rcases h with rfl | rfl | rfl
  · simp [newline_notMem_methodSignature hf]
  · simp [hname, harguments]
  · decide

theorem newline_notMem_spaced {groups : List (List Text)}
    (h : ∀ g ∈ groups, ∀ l ∈ g, '\n' ∉ l) {l : Text} (hl : l ∈ spaced groups) : '\n' ∉ l := by
  induction groups with
  | nil => cases hl
  | cons g groups ih =>
    have hrest := ih fun g' hg' => h g' (List.mem_cons_of_mem _ hg')
    cases groups with
    | nil => exact h g List.mem_cons_self l (by simpa [spaced] using hl)
    | cons g' groups =>
      rw [spaced_cons_cons] at hl
      rcases List.mem_append.1 hl with hl | hl
      · rcases List.mem_append.1 hl with hl | hl
        · exact h g List.mem_cons_self l hl
        · rw [List.mem_singleton.1 hl]
          exact List.not_mem_nil
      · exact hrest hl

/-! ## 5. The file of the function table -/

def tableOf (fs : List Function) : Table :=
  ⟨(entries fs).map tableField, (entries fs).map tableEntry, (entries fs).map tableMethod⟩

theorem entries_sound {fs : List Function} (hfs : ∀ f ∈ fs, f.IsClean) {e : Function × Text}
    (he : e ∈ entries fs) : e.1.IsClean ∧ IsBare e.2 := by
  obtain ⟨hf, hfield⟩ := List.of_mem_zip he
  exact ⟨hfs e.1 hf, isBare_of_mem_tableFields (fun f hf => (hfs f hf).stem) hfield⟩

section
variable {fs : List Function}

theorem code_implLines : (implLines fs).filter isCode =
    if fs = [] then ["impl Api for Funcs \x7b\x7d".toList]
    else "impl Api for Funcs \x7b" :: ((entries fs).flatMap forwardLines ++ [['\x7d']]) := by
  unfold implLines
  split
  · decide
  · have hhead : isCode "impl Api for Funcs \x7b" = true := by decide
    have hlast : (["\x7d"] : List Text).filter isCode = [['\x7d']] := by decide
    have hgroups : (spaced ((entries fs).map forwardLines)).filter isCode =
        (entries fs).flatMap forwardLines := by
      rw [filter_spaced, List.flatMap_map, funext filter_forwardLines]
    rw [List.filter_cons_of_pos hhead, List.filter_append, hgroups, hlast]

theorem isPrefixOf_forwardLines {e : Function × Text} {l : Text} (h : l ∈ forwardLines e) :
    ("impl Api for Funcs" : Text).isPrefixOf l = false := by
  simp only [forwardLines, List.mem_cons, List.not_mem_nil, or_false] at h
  rcases h with rfl | rfl | rfl <;> rfl

theorem ne_closing_of_mem_forwardLines {e : Function × Text} {l : Text}
    (h : l ∈ forwardLines e) : l ≠ ['\x7d'] := by
  have hspace : (" " : Text).isPrefixOf l = true := by
    simp only [forwardLines, List.mem_cons, List.not_mem_nil, or_false] at h
    rcases h with rfl | rfl | rfl <;> rfl
  rintro rfl
  revert hspace
  decide

/-- The methods are found behind the routine that resolves the symbols. -/
theorem body?_implLines (hfs : ∀ f ∈ fs, f.IsClean) :
    ∃ ls, body? "impl Api for Funcs"
        ((["    \x7d", "\x7d"] : List Text) ++ (implLines fs).filter isCode) = some ls ∧
      methods? ls = some ((entries fs).map tableMethod) := by
  rw [code_implLines]
  split
  · rename_i hnil
    subst hnil
    exact ⟨[], body?_empty (by decide), rfl⟩
  · refine ⟨(entries fs).flatMap forwardLines, ?_, ?_⟩
    · apply body?_block
      · decide
      · decide
      · intro l hl
        obtain ⟨e, -, hl⟩ := List.mem_flatMap.1 hl
        exact isPrefixOf_forwardLines hl
      · intro hl
        obtain ⟨e, -, hl⟩ := List.mem_flatMap.1 hl
        exact ne_closing_of_mem_forwardLines hl rfl
    · exact methods?_flatMap_forwardLines fun e he => entries_sound hfs he

theorem notMem_fieldLines (fs : List Function) : ['\x7d'] ∉ (entries fs).map fieldLine := by
  intro h
  obtain ⟨e, -, he⟩ := List.mem_map.1 h
  have hspace : (" " : Text).isPrefixOf (fieldLine e) = true := rfl
  rw [he] at hspace
  cases hspace

theorem notMem_resolveLines (fs : List Function) (runtime : Text) :
    ("        \x7d)" : Text) ∉ (entries fs).map (resolveLine runtime) := by
  intro h
  obtain ⟨e, -, he⟩ := List.mem_map.1 h
  have hspaces : ("         " : Text).isPrefixOf (resolveLine runtime e) = true := rfl
  rw [he] at hspaces
  revert hspaces
  decide

/-- The line that opens the resolved value comes first in its routine. -/
theorem notMem_loadOpening (runtime title library : Text) :
    ("        Ok(Self \x7b" : Text) ∉ (loadOpening runtime title library).dropLast := by
  have hall : ∀ l ∈ (loadOpening runtime title library).dropLast,
      ("        " : Text).isPrefixOf l = false := by
    intro l hl
    simp only [loadOpening, List.dropLast_cons_cons, List.dropLast_singleton, List.mem_cons,
      List.not_mem_nil, or_false] at hl
    rcases hl with rfl | rfl | rfl | rfl | rfl | rfl | rfl | rfl <;> rfl
  exact notMem_of_isPrefixOf hall "Ok(Self \x7b"

/-- The lines of code of the file, cut at the lines that open and close its blocks. -/
theorem code_tableFileLines {b : Bindings} (hfs : ∀ f ∈ b.functions, f.IsClean)
    (runtime apiModule : Text) :
    (tableFileLines runtime apiModule b).filter isCode =
      (heading "Native symbol table" b ++
          ["use super::" ++ apiModule ++ "::*;", []]).filter isCode ++
        ("pub struct Funcs \x7b" : Text) :: ((entries b.functions).map fieldLine ++ ['\x7d'] ::
          ((loadOpening runtime b.headerTitle (libraryName b.functions)).dropLast.filter isCode ++
            ("        Ok(Self \x7b" : Text) :: ((entries b.functions).map (resolveLine runtime) ++
              ("        \x7d)" : Text) :: ((["    \x7d", "\x7d"] : List Text) ++
                (implLines b.functions).filter isCode)))) := by
  have hfields : ((entries b.functions).map fieldLine).filter isCode =
      (entries b.functions).map fieldLine := by
    apply List.filter_eq_self.2
    intro l hl
    obtain ⟨e, he, rfl⟩ := List.mem_map.1 hl
    exact isCode_fieldLine (entries_sound hfs he).2
  have hresolved : ((entries b.functions).map (resolveLine runtime)).filter isCode =
      (entries b.functions).map (resolveLine runtime) := by
    apply List.filter_eq_self.2
    intro l hl
    obtain ⟨e, he, rfl⟩ := List.mem_map.1 hl
    exact isCode_resolveLine (entries_sound hfs he).2 runtime
  have hopening : tableOpening.filter isCode = ["pub struct Funcs \x7b".toList] := by decide
  have hclosing : (["\x7d", []] : List Text).filter isCode = [['\x7d']] := by decide
  have hload : (loadOpening runtime b.headerTitle (libraryName b.functions)).filter isCode =
      (loadOpening runtime b.headerTitle (libraryName b.functions)).dropLast.filter isCode ++
        ["        Ok(Self \x7b".toList] := by
    have hlast : (["        Ok(Self \x7b"] : List Text).filter isCode =
        ["        Ok(Self \x7b".toList] := by decide
    rw [← hlast, ← List.filter_append]
    rfl
  have hend : (["        \x7d)", "    \x7d", "\x7d", []] : List Text).filter isCode =
      ["        \x7d)".toList, "    \x7d".toList, "\x7d".toList] := by decide
  unfold tableFileLines tableLines loadLines
  simp only [heading, List.filter_append, hfields, hresolved, hopening, hclosing, hload, hend]
  simp only [List.append_assoc, List.cons_append, List.nil_append]

theorem newline_notMem_libraryName : '\n' ∉ libraryName fs := by
  unfold libraryName
  split
  · decide
  · decide

theorem newline_notMem_loadOpening {runtime title library : Text} (hruntime : '\n' ∉ runtime)
    (htitle : '\n' ∉ title) (hlibrary : '\n' ∉ library) {l : Text}
    (h : l ∈ loadOpening runtime title library) : '\n' ∉ l := by
  simp only [loadOpening, List.mem_cons, List.not_mem_nil, or_false] at h
  rcases h with rfl | rfl | rfl | rfl | rfl | rfl | rfl | rfl | rfl
  · decide
  · decide
  · decide
  · decide
  · decide
  · simp [htitle]
  · decide
  · simp [hlibrary, hruntime]
  · decide

theorem newline_notMem_entries (hfs : ∀ f ∈ fs, f.IsClean) {runtime : Text}
    (hruntime : '\n' ∉ runtime) {e : Function × Text} (he : e ∈ entries fs) :
    '\n' ∉ fieldLine e ∧ '\n' ∉ resolveLine runtime e := by
  obtain ⟨hf, hfield⟩ := entries_sound hfs he
  have hname : '\n' ∉ e.2 := hfield.not_mem (by decide)
  have hsymbol : '\n' ∉ e.1.symbol := hf.symbol.not_mem (by decide)
  have htype := newline_notMem_pointerType hf
  constructor
  · unfold fieldLine
    generalize pointerType e.1 = type at htype ⊢
    simp [hname, htype]
  · unfold resolveLine
    simp [hname, hruntime, hsymbol]

theorem newline_notMem_implLines (hfs : ∀ f ∈ fs, f.IsClean) {l : Text}
    (h : l ∈ implLines fs) : '\n' ∉ l := by
  unfold implLines at h
  split at h
  · rw [List.mem_singleton.1 h]
    decide
  · rcases List.mem_cons.1 h with rfl | h
    · decide
    · rcases List.mem_append.1 h with h | h
      · refine newline_notMem_spaced ?_ h
        intro g hg m hm
        obtain ⟨e, he, rfl⟩ := List.mem_map.1 hg
        obtain ⟨hf, hfield⟩ := entries_sound hfs he
        exact newline_notMem_forwardLines hf hfield hm
      · rw [List.mem_singleton.1 h]
        decide

end

structure IsReadable (b : Bindings) : Prop where
  opaqueTypes : ∀ o ∈ b.opaqueTypes.entries, o.IsClean
  functions : ∀ f ∈ b.functions, f.IsClean
  package : '\n' ∉ b.package
  headerTitle : '\n' ∉ b.headerTitle

theorem newline_notMem_tableFileLines {b : Bindings} (hb : IsReadable b)
    {runtime apiModule : Text} (hruntime : '\n' ∉ runtime) (hmodule : '\n' ∉ apiModule) :
    ∀ l ∈ tableFileLines runtime apiModule b, '\n' ∉ l := by
  intro l hl
  simp only [tableFileLines, tableLines, loadLines, List.mem_append, or_assoc] at hl
  rcases hl with h | h | h | h | h | h | h | h | h | h
  · exact newline_notMem_banner (by decide) hb.package hb.headerTitle h
  · exact newline_notMem_foreignImports h
  · rcases List.mem_pair.1 h with rfl | rfl
    · simp [hmodule]
    · decide
  · revert l
    decide
  · obtain ⟨e, he, rfl⟩ := List.mem_map.1 h
    exact (newline_notMem_entries hb.functions hruntime he).1
  · revert l
    decide
  · exact newline_notMem_loadOpening hruntime hb.headerTitle newline_notMem_libraryName h
  · obtain ⟨e, he, rfl⟩ := List.mem_map.1 h
    exact (newline_notMem_entries hb.functions hruntime he).2
  · revert l
    decide
  · exact newline_notMem_implLines hb.functions h

/-- **The file of the function table says what it was rendered from.** -/
theorem table?_unlines {b : Bindings} (hb : IsReadable b) {runtime apiModule : Text}
    (hruntime : '\n' ∉ runtime) (hmodule : '\n' ∉ apiModule) :
    table? (unlines (tableFileLines runtime apiModule b)) = some (tableOf b.functions) := by
  have hsound : ∀ e ∈ entries b.functions, e.1.IsClean ∧ IsBare e.2 :=
    fun e he => entries_sound hb.functions he
  have hstruct : ("pub struct Funcs \x7b" : Text) ∉ (heading "Native symbol table" b ++
      ["use super::" ++ apiModule ++ "::*;", []]).filter isCode := by
    have hall : ∀ l ∈ (heading "Native symbol table" b ++
        ["use super::" ++ apiModule ++ "::*;", []]).filter isCode,
        ("pub " : Text).isPrefixOf l = false := by
      intro l hl
      rcases List.mem_append.1 (List.mem_of_mem_filter hl) with hl | hl
      · exact isPrefixOf_heading hl
      · rcases List.mem_pair.1 hl with rfl | rfl <;> rfl
    exact notMem_of_isPrefixOf hall "struct Funcs \x7b"
  have hload : ("        Ok(Self \x7b" : Text) ∉
      (loadOpening runtime b.headerTitle (libraryName b.functions)).dropLast.filter isCode :=
    fun h => notMem_loadOpening _ _ _ (List.mem_of_mem_filter h)
  have hfields : ((entries b.functions).map fieldLine).mapM field? =
      some ((entries b.functions).map tableField) :=
    mapM_map_eq_some fun e he => field?_fieldLine (hsound e he).1 (hsound e he).2
  have hentries : ((entries b.functions).map (resolveLine runtime)).mapM resolved? =
      some ((entries b.functions).map tableEntry) :=
    mapM_map_eq_some fun e he => resolved?_resolveLine (hsound e he).1 (hsound e he).2 runtime
  obtain ⟨ls, hbody, hmethods⟩ := body?_implLines hb.functions
  rw [table?, codeLines_unlines (newline_notMem_tableFileLines hb hruntime hmodule),
    code_tableFileLines hb.functions]
  have hfirst := block?_append hstruct (notMem_fieldLines b.functions)
  have hsecond := block?_append hload (notMem_resolveLines b.functions runtime)
  simp only [hfirst, hfields, hsecond, hentries, hbody, hmethods, Option.bind_eq_bind,
    Option.bind_some]
  rfl

/-! ## 6. The file of handles and methods -/

theorem isPrefixOf_of_isPrefix {start item l : Text} (h : start <+: item)
    (hl : start.isPrefixOf l = false) : item.isPrefixOf l = false := by
  by_contra hitem
  have hprefix : item <+: l := List.isPrefixOf_iff_prefix.1 (by simpa using hitem)
  rw [List.isPrefixOf_iff_prefix.2 (h.trans hprefix)] at hl
  cases hl

theorem isPrefixOf_handleLines {runtime : Text} {o : OpaqueType} {l : Text}
    (h : l ∈ handleLines runtime o) : ("pub trait Api" : Text).isPrefixOf l = false := by
  simp only [handleLines, List.mem_cons, List.not_mem_nil, or_false] at h
  rcases h with rfl | rfl | rfl | rfl | rfl | rfl <;> rfl

theorem code_traitLines (fs : List Function) : (traitLines fs).filter isCode =
    if fs = [] then ["pub trait Api \x7b\x7d".toList]
    else "pub trait Api \x7b" ::
      (fs.map (fun f => "    " ++ methodSignature f ++ ";") ++ [['\x7d']]) := by
  unfold traitLines
  split
  · decide
  · have hhead : isCode "pub trait Api \x7b" = true := by decide
    have hlast : (["\x7d"] : List Text).filter isCode = [['\x7d']] := by decide
    have hgroups : (spaced (fs.map methodLines)).filter isCode =
        fs.map fun f => "    " ++ methodSignature f ++ ";" := by
      rw [filter_spaced, List.flatMap_map, funext filter_methodLines,
        ← List.map_eq_flatMap]
    rw [List.filter_cons_of_pos hhead, List.filter_append, hgroups, hlast]

/-- The methods of the trait are found behind lines that open no such trait. -/
theorem body?_traitLines (fs : List Function) {before : List Text}
    (hbefore : ∀ l ∈ before, ("pub trait Api" : Text).isPrefixOf l = false) :
    body? "pub trait Api" (before ++ (traitLines fs).filter isCode) =
      some (fs.map fun f => "    " ++ methodSignature f ++ ";") := by
  rw [code_traitLines]
  split
  · rename_i hnil
    subst hnil
    exact body?_empty (List.mem_append_right _ (List.mem_singleton.2 (by decide)))
  · apply body?_block
    · decide
    · exact hbefore
    · intro l hl
      obtain ⟨f, -, rfl⟩ := List.mem_map.1 hl
      rfl
    · intro hl
      obtain ⟨f, -, hf⟩ := List.mem_map.1 hl
      cases hf

theorem newline_notMem_traitFileLines {b : Bindings} (hb : IsReadable b) {runtime : Text}
    (hruntime : '\n' ∉ runtime) : ∀ l ∈ traitFileLines runtime b, '\n' ∉ l := by
  intro l hl
  simp only [traitFileLines, List.mem_append, or_assoc] at hl
  rcases hl with h | h | h | h | h
  · exact newline_notMem_banner (by decide) hb.package hb.headerTitle h
  · exact newline_notMem_foreignImports h
  · obtain ⟨o, ho, h⟩ := List.mem_flatMap.1 h
    have hname : '\n' ∉ o.name := (hb.opaqueTypes o ho).name.not_mem (by decide)
    have hhandle : '\n' ∉ o.handle := (hb.opaqueTypes o ho).handle.not_mem (by decide)
    simp only [handleLines, List.mem_cons, List.not_mem_nil, or_false] at h
    rcases h with rfl | rfl | rfl | rfl | rfl | rfl
    · simp [hname]
    · simp [OpaqueType.marker, OpaqueType.markerName, hhandle]
    · decide
    · simp [hname]
    · simp [OpaqueType.marker, OpaqueType.markerName, hhandle, hruntime]
    · decide
  · rw [List.mem_singleton.1 h]
    simp [hb.headerTitle]
  · unfold traitLines at h
    split at h
    · rw [List.mem_singleton.1 h]
      decide
    · rcases List.mem_cons.1 h with rfl | h
      · decide
      · rcases List.mem_append.1 h with h | h
        · refine newline_notMem_spaced ?_ h
          intro g hg m hm
          obtain ⟨f, hf, rfl⟩ := List.mem_map.1 hg
          have hclean := hb.functions f hf
          have hsymbol : '\n' ∉ f.symbol := hclean.symbol.not_mem (by decide)
          rcases List.mem_pair.1 hm with rfl | rfl
          · simp [hsymbol]
          · simp [newline_notMem_methodSignature hclean]
        · rw [List.mem_singleton.1 h]
          decide

/-- **The file of handles and methods says which methods the trait has.** -/
theorem trait?_unlines {b : Bindings} (hb : IsReadable b) {runtime : Text}
    (hruntime : '\n' ∉ runtime) :
    trait? (unlines (traitFileLines runtime b)) = some (b.functions.map signature) := by
  have hbefore : ∀ l ∈ (heading "Native API surface" b ++
      b.opaqueTypes.entries.flatMap (handleLines runtime) ++
      ["/// Functions exported by `" ++ b.headerTitle ++ "`."]).filter isCode,
      ("pub trait Api" : Text).isPrefixOf l = false := by
    intro l hl
    rcases List.mem_append.1 (List.mem_of_mem_filter hl) with hl | hl
    · rcases List.mem_append.1 hl with hl | hl
      · exact isPrefixOf_of_isPrefix (by decide) (isPrefixOf_heading hl)
      · obtain ⟨o, -, hl⟩ := List.mem_flatMap.1 hl
        exact isPrefixOf_handleLines hl
    · rw [List.mem_singleton.1 hl]
      rfl
  have hmethods : (b.functions.map fun f => "    " ++ methodSignature f ++ ";").mapM
      declaredMethod? = some (b.functions.map signature) :=
    mapM_map_eq_some fun f hf => declaredMethod?_line (hb.functions f hf)
  have hbody := body?_traitLines b.functions hbefore
  rw [← List.filter_append] at hbody
  rw [trait?, codeLines_unlines (newline_notMem_traitFileLines hb hruntime)]
  exact (congrArg (Option.bind · (List.mapM declaredMethod?)) hbody).trans hmethods

end HeaderBindings.Artifact
