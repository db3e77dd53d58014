import HeaderBindings.Artifact.Table
import HeaderBindings.Proofs.Artifact.DistinctNames
import HeaderBindings.Proofs.Header.Accounts
import HeaderBindings.Proofs.LegalIdentifiers
import HeaderBindings.Proofs.Text.Cutting

/-!
# Which generated names are legal

The names of functions are made of word characters, and those of an ASCII header are the
characters of identifiers.  A prefix and the underscores are taken away and what is left is
opened up, made unique and escaped.  That leads to a legal identifier unless nothing was left:
the guard of the prefix is asked before the underscores are taken away, so a name of the
prefix and underscores ends up empty (`isLegal_names_extract`).

The names of parameters are whatever word a declarator ends with.  No such name becomes empty,
a number or a word of the language, and it is legal just when the declarator ends with a word
of identifier characters (`isLegal_arguments_extract`).  A declarator with brackets or dots
does not.
-/

namespace HeaderBindings

open Identifier

/-! ## 1. Unique names, one by one -/

namespace Artifact

theorem exists_suffixed_of_mem_zip {seen names : List Text} {e : Text × Text}
    (h : e ∈ names.zip (uniqueFrom seen names)) : ∃ k, e.2 = suffixed e.1 k := by
  induction names generalizing seen with
  | nil => cases h
  | cons base rest ih =>
    rcases List.mem_cons.1 h with rfl | h
    · exact ⟨_, rfl⟩
    · exact ih h

theorem exists_suffixed_of_mem_zip_map {α : Type} {xs : List α} {base : α → Text}
    {e : α × Text} (h : e ∈ xs.zip (unique (xs.map base))) :
    ∃ k, e.2 = suffixed (base e.1) k := by
  have hmem : (base e.1, e.2) ∈ (xs.map base).zip (unique (xs.map base)) := by
    rw [List.zip_map_left]
    exact List.mem_map.2 ⟨e, h, rfl⟩
  exact exists_suffixed_of_mem_zip hmem

/-! ## 2. Methods and fields -/

theorem isLegal_escape_iff {name : Text} (h : ∀ c ∈ name, isIdent c = true) :
    IsLegal (escape name) ↔ name ≠ [] := by
  constructor
  · rintro hlegal rfl
    exact hlegal.ne_nil rfl
  · intro hne
    exact isLegal_escape ⟨hne, h⟩

/-- The field of a function, with the suffix that it was given before it was escaped. -/
theorem exists_suffixed_of_mem_entries {fs : List Function} {e : Function × Text}
    (he : e ∈ entries fs) :
    ∃ k, e.2 = escape (suffixed (snakeCase e.1.stem) k) ∧
      suffixed (snakeCase e.1.stem) k ∈ fieldStems fs := by
  rw [entries, tableFields, List.zip_map_right] at he
  obtain ⟨d, hd, rfl⟩ := List.mem_map.1 he
  obtain ⟨k, hk⟩ := exists_suffixed_of_mem_zip_map hd
  exact ⟨k, congrArg escape hk, hk ▸ (List.of_mem_zip hd).2⟩

/-- **A field is legal** unless the stem is empty.  An empty stem gets no suffix, since the
    other stems are not empty. -/
theorem isLegal_field_iff {fs : List Function} (hfs : HasPlainStems fs)
    {e : Function × Text} (he : e ∈ entries fs) (h : ∀ c ∈ e.1.stem, isIdent c = true) :
    IsLegal e.2 ↔ e.1.stem ≠ [] := by
  obtain ⟨k, hfield, hmem⟩ := exists_suffixed_of_mem_entries he
  have hident : ∀ c ∈ suffixed (snakeCase e.1.stem) k, isIdent c = true := by
    intro c hc
    rcases mem_suffixed hc with hc | rfl | hc
    · exact isIdent_of_mem_snakeCase h hc
    · decide
    · simp [isIdent, hc]
  have hnil : suffixed (snakeCase e.1.stem) k = [] ↔ e.1.stem = [] := by
    constructor
    · intro hsuffixed
      by_contra hne
      exact suffixed_ne_nil (snakeFrom_ne_nil hne none) k hsuffixed
    · intro hstem
      have hfirst := (isUnmarked_of_mem_fieldStems hfs hmem).first
      rw [hstem] at hfirst ⊢
      by_cases hk : k = 0
      · rw [hk]
        rfl
      · rw [suffixed, if_neg hk] at hfirst
        exact absurd rfl hfirst
  rw [hfield, isLegal_escape_iff hident, not_iff_not]
  exact hnil

end Artifact

theorem methodStem_eq_nil_iff {symbol start : Text} :
    methodStem symbol start = [] ↔ ∀ c ∈ stripOnce start symbol, c = '_' := by
  rw [methodStem, withoutUnderscores, List.filter_eq_nil_iff]
  simp

theorem Conventions.isIdent_of_mem_stem {x : Conventions} {header : Text}
    (hascii : IsAscii header) {f : Function}
    (hf : f ∈ (x.extract header).declarations.functions) {c : Char} (hc : c ∈ f.stem) :
    isIdent c = true := by
  obtain ⟨found, hfound, rfl⟩ := exists_prototype_of_mem_functions hf
  have hmem : c ∈ found.prototype.name := mem_of_mem_methodStem hc
  have htext := (Header.subset_of_mem_matchesFrom hfound).1 hmem
  rw [← isWord_eq_isIdent (Header.isAscii_normalize hascii c htext)]
  exact (Header.isName_of_mem_matchesFrom hfound).1.2 c hmem

theorem Conventions.stem_ne_nil_iff {x : Conventions} {header : Text} {f : Function}
    (hf : f ∈ (x.extract header).declarations.functions) :
    f.stem ≠ [] ↔ ∃ c ∈ stripOnce x.stripPrefix f.symbol, c ≠ '_' := by
  obtain ⟨found, -, rfl⟩ := exists_prototype_of_mem_functions hf
  rw [ne_eq, show (found.prototype.function _ x.stripPrefix).stem =
    methodStem found.prototype.name x.stripPrefix from rfl, methodStem_eq_nil_iff]
  simp only [not_forall, exists_prop]
  rfl

/-- **Methods and fields have legal names.**  For every ASCII header and all conventions, the
    method of an extracted function and its field in the table have legal names if and only if
    the function's name has more in it than the prefix and underscores. -/
theorem isLegal_names_extract {x : Conventions} {header : Text} (hascii : IsAscii header) :
    (∀ f ∈ (x.extract header).declarations.functions,
        (IsLegal (Artifact.methodName f) ↔ ∃ c ∈ stripOnce x.stripPrefix f.symbol, c ≠ '_')) ∧
      ∀ e ∈ Artifact.entries (x.extract header).declarations.functions,
        (IsLegal e.2 ↔ ∃ c ∈ stripOnce x.stripPrefix e.1.symbol, c ≠ '_') := by
  constructor
  · intro f hf
    rw [← x.stem_ne_nil_iff hf]
    exact Artifact.isLegal_escape_iff fun c hc => x.isIdent_of_mem_stem hascii hf hc
  · intro e he
    have hf := (List.of_mem_zip he).1
    rw [← x.stem_ne_nil_iff hf]
    exact Artifact.isLegal_field_iff (x.hasPlainStems_extract header) he
      fun c hc => x.isIdent_of_mem_stem hascii hf hc

/-- A digit behind the prefix, and an underscore behind it. -/
def prefixHeader : Text :=
  "OGA_EXPORT int OGA_API_CALL Oga2D(void); OGA_EXPORT int OGA_API_CALL Oga_(void);"

theorem isLegal_names_extract_of_prefix :
    IsAscii prefixHeader ∧
      (∃ e ∈ Artifact.entries (Conventions.builtin.extract prefixHeader).declarations.functions,
        e.1.symbol = "Oga2D" ∧ IsLegal (Artifact.methodName e.1) ∧ IsLegal e.2) ∧
      ∃ e ∈ Artifact.entries (Conventions.builtin.extract prefixHeader).declarations.functions,
        e.1.symbol = "Oga_" ∧ ¬ IsLegal (Artifact.methodName e.1) ∧ ¬ IsLegal e.2 := by
  have hascii : IsAscii prefixHeader := by decide
  obtain ⟨hmethod, hfield⟩ := isLegal_names_extract (x := Conventions.builtin) hascii
  have hsymbols : (Artifact.entries
      (Conventions.builtin.extract prefixHeader).declarations.functions).map (·.1.symbol) =
      [("Oga2D" : Text), "Oga_"] := by
    decide +kernel
  have hentry : ∀ symbol ∈ [("Oga2D" : Text), "Oga_"], ∃ e ∈ Artifact.entries
      (Conventions.builtin.extract prefixHeader).declarations.functions,
      e.1.symbol = symbol := by
    intro symbol hsymbol
    rw [← hsymbols] at hsymbol
    exact List.mem_map.1 hsymbol
  have hmore : ∃ c ∈ stripOnce Conventions.builtin.stripPrefix "Oga2D", c ≠ '_' :=
    ⟨'2', by decide, by decide⟩
  have hnone : ¬ ∃ c ∈ stripOnce Conventions.builtin.stripPrefix "Oga_", c ≠ '_' := by
    have hleft : stripOnce Conventions.builtin.stripPrefix "Oga_" = ['_'] := by decide
    rintro ⟨c, hc, hne⟩
    rw [hleft, List.mem_singleton] at hc
    exact hne hc
  obtain ⟨d, hd, hdname⟩ := hentry "Oga2D" (by decide)
  obtain ⟨e, he, hename⟩ := hentry "Oga_" (by decide)
  refine ⟨hascii, ⟨d, hd, hdname, ?_, ?_⟩, ⟨e, he, hename, ?_, ?_⟩⟩
  · rw [hmethod d.1 (List.of_mem_zip hd).1, hdname]
    exact hmore
  · rw [hfield d hd, hdname]
    exact hmore
  · rw [hmethod e.1 (List.of_mem_zip he).1, hename]
    exact hnone
  · rw [hfield e he, hename]
    exact hnone

/-- A function whose name is the prefix and an underscore has a method without a name. -/
theorem not_forall_isLegal_methodName :
    ¬ ∀ (m : Markers) (stripPrefix header : Text), IsIdentText m.exporting →
      IsIdentText m.calling → IsAscii header →
      (∀ name ∈ (Conventions.extract ⟨m, stripPrefix⟩ header).declarations.opaqueTypes.nativeNames,
        startsWithDigit name = false) →
      (∀ f ∈ (Conventions.extract ⟨m, stripPrefix⟩ header).declarations.functions,
        IsLegal (Artifact.methodName f)) ∧
      ∀ field ∈ Artifact.tableFields
          (Conventions.extract ⟨m, stripPrefix⟩ header).declarations.functions,
        IsLegal field := by
  intro h
  have hnames := h Markers.builtin "Oga" "OGA_EXPORT void OGA_API_CALL Oga_(void);"
    (by decide) (by decide) (by decide) (by decide +kernel)
  have hfields : [] ∈ Artifact.tableFields (Conventions.extract ⟨Markers.builtin, "Oga"⟩
      "OGA_EXPORT void OGA_API_CALL Oga_(void);").declarations.functions := by
    decide +kernel
  exact (hnames.2 [] hfields).ne_nil rfl

/-! ## 3. Arguments -/

theorem Artifact.exists_suffixed_of_mem_arguments {ps : List Param} {e : Param × Text}
    (he : e ∈ ps.zip (Artifact.argumentNames ps)) :
    ∃ k, e.2 = Artifact.suffixed (escape e.1.name) k :=
  Artifact.exists_suffixed_of_mem_zip_map he

/-- The characters of declarators without brackets, dots and the like. -/
def isDeclaratorChar (c : Char) : Bool := isIdent c || isBlank c || c == '*' || c == ','

namespace ParameterList

/-- Declarators of words and stars have names of identifier characters. -/
theorem isIdent_of_mem_params {opaques : OpaqueTypes} {list : Text}
    (hlist : ∀ c ∈ list, isDeclaratorChar c = true) {p : Param} (hp : p ∈ params opaques list)
    {c : Char} (hc : c ∈ p.name) : isIdent c = true := by
  obtain ⟨index, t, ht, rfl⟩ := exists_ofText_of_mem_params hp
  obtain ⟨s, hs, rfl⟩ := List.mem_map.1 (List.mem_of_mem_filter ht)
  have hcollapse : ∀ d ∈ Text.collapse list, isDeclaratorChar d = true := by
    intro d hd
    rcases Text.mem_of_mem_collapse hd with hd | rfl
    · exact hlist d hd
    · decide
  have hopen : '(' ∉ Text.collapse list := fun hmem => absurd (hcollapse _ hmem) (by decide)
  have hsegment : ∀ d ∈ Text.trim (Text.trim s), isDeclaratorChar d = true ∧ d ≠ ',' := by
    intro d hd
    have hd := mem_of_mem_trim (mem_of_mem_trim hd)
    refine ⟨hcollapse d (mem_of_mem_segmentsFrom hs hd), ?_⟩
    rintro rfl
    exact comma_notMem_of_mem_segments hopen hs hd
  have hcallback : callbackName? (Text.trim (Text.trim s)) = none := by
    have hnone : '(' ∉ Text.trim (Text.trim s) := fun hmem =>
      absurd (hsegment _ hmem).1 (by decide)
    rw [callbackName?, Text.after?_eq_none_iff.2
      (Text.not_isInfix_of_notMem (by decide : '(' ∈ "(*".toList) hnone)]
    rfl
  unfold Declarator.ofText at hc
  rw [hcallback] at hc
  change c ∈ (Declarator.nameAndBase opaques index
    (Specifiers.ofText (Text.trim (Text.trim s))).words).1 at hc
  rcases name_nameAndBase opaques index (Specifiers.ofText (Text.trim (Text.trim s))).words with
    heq | hword
  · exact isIdent_of_mem_positionalName (heq ▸ hc)
  · have hstarless := List.mem_of_mem_filter hword
    have hink := (Text.mem_words hstarless).2 c hc
    obtain ⟨hmem, hstar⟩ := mem_of_mem_starlessWords hstarless hc
    obtain ⟨hchar, hcomma⟩ := hsegment c hmem
    simpa [isDeclaratorChar, hink, hstar, hcomma] using hchar

end ParameterList

/-- **Arguments have legal names** if they are declared by words and stars.  The names that a
    signature and the forwarding call write for the parameters of an extracted function are
    neither empty nor numbers nor words of the language, whatever the declarators are; and such
    a name is legal if and only if the declared name has characters of identifiers only, where
    that one has no `#`, by which raw names are told. -/
theorem isLegal_arguments_extract {x : Conventions} {header : Text} {f : Function}
    (hf : f ∈ (x.extract header).declarations.functions) :
    (∀ e ∈ f.params.zip (Artifact.argumentNames f.params),
        IsNameLike e.2 ∧
          ('#' ∉ e.1.name → (IsLegal e.2 ↔ ∀ c ∈ e.1.name, isIdent c = true))) ∧
      ∃ found ∈ Header.prototypes x.markers (Header.normalize header),
        f = found.prototype.function (x.extract header).declarations.opaqueTypes
            x.stripPrefix ∧
          ((∀ c ∈ found.prototype.paramText, isDeclaratorChar c = true) →
            ∀ name ∈ Artifact.argumentNames f.params, IsLegal name) := by
  have hnames := ((x.isClean_extract header).functions f hf).paramNames
  refine ⟨?_, ?_⟩
  · intro e he
    have hne := (hnames e.1 (List.of_mem_zip he).1).1
    obtain ⟨k, hk⟩ := Artifact.exists_suffixed_of_mem_arguments he
    rw [hk]
    exact ⟨Artifact.isNameLike_suffixed (isNameLike_escape hne) k,
      fun hhash => Artifact.isLegal_suffixed_escape_iff hne hhash k⟩
  · obtain ⟨found, hfound, rfl⟩ := Conventions.exists_prototype_of_mem_functions hf
    refine ⟨found, hfound, rfl, ?_⟩
    intro hdeclarators name hname
    obtain ⟨base, hbase, k, rfl⟩ := Artifact.exists_suffixed_of_mem_uniqueFrom hname
    obtain ⟨p, hp, rfl⟩ := List.mem_map.1 hbase
    refine Artifact.isLegal_suffixed (isLegal_escape ⟨(hnames p hp).1, ?_⟩) k
    intro c hc
    refine ParameterList.isIdent_of_mem_params ?_ hp hc
    intro d hd
    exact hdeclarators d (mem_of_mem_trim hd)

/-- A keyword and an array, and declarators of words and stars. -/
def arrayHeader : Text :=
  "OGA_EXPORT int OGA_API_CALL OgaSet(int type, int v[4]);".toList ++
    " OGA_EXPORT int OGA_API_CALL OgaPut(const char* type, int);".toList

theorem isLegal_arguments_extract_of_array :
    (∃ f ∈ (Conventions.builtin.extract arrayHeader).declarations.functions,
      (∃ e ∈ f.params.zip (Artifact.argumentNames f.params),
        e.1.name = "type" ∧ IsLegal e.2) ∧
      ∃ e ∈ f.params.zip (Artifact.argumentNames f.params),
        e.1.name = "v[4]" ∧ IsNameLike e.2 ∧ ¬ IsLegal e.2) ∧
    ∃ f ∈ (Conventions.builtin.extract arrayHeader).declarations.functions,
      f.symbol = "OgaPut" ∧ ∀ name ∈ Artifact.argumentNames f.params, IsLegal name := by
  have hset : ∃ f ∈ (Conventions.builtin.extract arrayHeader).declarations.functions,
      (∃ e ∈ f.params.zip (Artifact.argumentNames f.params), e.1.name = "type") ∧
      ∃ e ∈ f.params.zip (Artifact.argumentNames f.params), e.1.name = "v[4]" := by
    decide +kernel
  have hput : ∃ f ∈ (Conventions.builtin.extract arrayHeader).declarations.functions,
      f.symbol = "OgaPut" := by
    decide +kernel
  have hwords : ∀ found ∈ Header.prototypes Conventions.builtin.markers
      (Header.normalize arrayHeader), found.prototype.name = "OgaPut" →
      ∀ c ∈ found.prototype.paramText, isDeclaratorChar c = true := by
    decide +kernel
  obtain ⟨f, hf, ⟨d, hd, hdname⟩, ⟨e, he, hename⟩⟩ := hset
  obtain ⟨g, hg, hgname⟩ := hput
  obtain ⟨hlike, -⟩ := isLegal_arguments_extract hf
  obtain ⟨-, found, hfound, hfunction, hlegal⟩ := isLegal_arguments_extract hg
  refine ⟨⟨f, hf, ⟨d, hd, hdname, ?_⟩, ⟨e, he, hename, (hlike e he).1, ?_⟩⟩, g, hg, hgname, ?_⟩
  · rw [(hlike d hd).2 (by rw [hdname]; decide), hdname]
    decide
  · rw [(hlike e he).2 (by rw [hename]; decide), hename]
    decide
  · refine hlegal (hwords found hfound ?_)
    rw [← hgname, hfunction]
    rfl

/-- The name of an array keeps its brackets. -/
theorem not_forall_isLegal_argument :
    ¬ ∀ (m : Markers) (stripPrefix header : Text), IsIdentText m.exporting →
      IsIdentText m.calling → IsAscii header →
      (∀ name ∈ (Conventions.extract ⟨m, stripPrefix⟩ header).declarations.opaqueTypes.nativeNames,
        startsWithDigit name = false) →
      ∀ f ∈ (Conventions.extract ⟨m, stripPrefix⟩ header).declarations.functions,
        ∀ name ∈ Artifact.argumentNames f.params, IsLegal name := by
  intro h
  have hnames := h Markers.builtin "Oga" "OGA_EXPORT void OGA_API_CALL OgaSet(int values[4]);"
    (by decide) (by decide) (by decide) (by decide +kernel)
  have hargument : ∃ f ∈ (Conventions.extract ⟨Markers.builtin, "Oga"⟩
      "OGA_EXPORT void OGA_API_CALL OgaSet(int values[4]);").declarations.functions,
      ("values[4]" : Text) ∈ Artifact.argumentNames f.params := by
    decide +kernel
  obtain ⟨f, hf, hname⟩ := hargument
  rcases (hnames f hf _ hname).isIdent_or (by decide : '[' ∈ "values[4]".toList) with h | h
  · exact absurd h (by decide)
  · exact absurd h (by decide)

end HeaderBindings
