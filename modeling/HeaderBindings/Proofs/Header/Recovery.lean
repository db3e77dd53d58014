import HeaderBindings.Proofs.Header.Isolation
import HeaderBindings.Proofs.Header.Layout
import HeaderBindings.Proofs.Header.Spelling

/-!
# Extraction undoes writing

Whatever the spelling of a list of declarations, extraction gives the declarations back.
The spelling is stripped to the tokens with blanks between them, and falls into one part
for each declaration.  Each part is sealed, and is a typedef or a prototype laid out with
gaps (`ReadsAs`), so that the searches find in it what it was written from.

Two prototypes can have one method stem.  Then the first of them is kept, by design, and
the other ones are counted as duplicates (`extract_spelled`); hence the functions are not
always as many as the prototypes (`not_forall_functions_eq`).
-/

namespace HeaderBindings

namespace Header

/-! ## 1. What a declaration is read as -/

namespace TypeToken

/-- The words that are read in a token. -/
def names : TypeToken → List Text
  | word w => [w]
  | const => [constWord]
  | star => []

/-- The type that some tokens spell: the words in order, the number of stars, and whether
    there is a `const`. -/
def cType (type : List TypeToken) : CType :=
  ⟨Text.unwords (type.filterMap word?), type.count star, decide (const ∈ type)⟩

end TypeToken

namespace Declaration

def typedefs : Declaration → List Typedef
  | typedef tag aliasName => [⟨tag, aliasName⟩]
  | prototype _ _ _ => []

/-- The function that a prototype declares, given the opaque types. -/
def functions (opaques : OpaqueTypes) : Declaration → List Function
  | typedef _ _ => []
  | prototype type name params =>
    [{ symbol := name
       returnCType := TypeToken.cType type
       returnType := TypeMapping.map opaques (TypeToken.cType type)
       params := ParameterList.params opaques params
       stem := Identifier.methodStem name Conventions.builtin.stripPrefix }]

def isOtherTypedef : Declaration → Bool
  | typedef tag aliasName => tag ≠ aliasName
  | prototype _ _ _ => false

def isPrototype : Declaration → Bool
  | typedef _ _ => false
  | prototype _ _ _ => true

end Declaration

/-- The text is read as the declaration, and as nothing else. -/
structure ReadsAs (d : Declaration) (e : Text) : Prop where
  isSealed : IsSealed e
  typedefs : typedefs (Text.collapse e) = d.typedefs
  functions : ∀ opaques, (prototypeTexts Markers.builtin 0 0 none (Text.collapse e)).map
    (·.function opaques Conventions.builtin.stripPrefix) = d.functions opaques
  exporting : (Text.names (Text.collapse e)).count Markers.builtin.exporting =
    if d.isPrototype then 1 else 0

/-! ## 2. The parts of a spelling -/

theorem exists_parts {ds : List Declaration} {ps : List Piece}
    (h : ps.map (·.token) = ds.flatMap (·.tokens)) :
    ∃ parts : List (Declaration × List Piece), parts.map (·.1) = ds ∧
      parts.flatMap (·.2) = ps ∧ ∀ q ∈ parts, q.2.map (·.token) = q.1.tokens := by
  induction ds generalizing ps with
  | nil =>
    obtain rfl : ps = [] := by simpa using h
    exact ⟨[], rfl, rfl, by simp⟩
  | cons d ds ih =>
    rw [List.flatMap_cons] at h
    obtain ⟨part, rest, rfl, hpart, hrest⟩ := List.map_eq_append_iff.1 h
    obtain ⟨parts, hds, hps, hparts⟩ := ih hrest
    refine ⟨(d, part) :: parts, by rw [List.map_cons, hds], by rw [List.flatMap_cons, hps], ?_⟩
    intro q hq
    rcases List.mem_cons.1 hq with rfl | hq
    · exact hpart
    · exact hparts q hq

/-- Names of a text that is laid out in one segment. -/
theorem names_collapse {e : Text} (h : IsSealed e) :
    Text.names (Text.collapse e) = Text.names e := by
  rw [isSegmentwise_names.collapse_eq_squeeze h.endsBlank, Text.names_squeeze]

theorem blankGaps_residue {ps : List Piece} (h : ∀ p ∈ ps, p.gap.IsValid) :
    Text.BlankGaps (ps.map Piece.residue) := by
  intro q hq
  obtain ⟨p, hp, rfl⟩ := List.mem_map.1 hq
  exact Gap.isBlankText_residue (h p hp)

/-! ## 3. Typedefs -/

theorem readsAs_typedef {tag aliasName : Text}
    (hd : (Declaration.typedef tag aliasName).IsWellFormed) {part : List Piece}
    (htokens : part.map (·.token) = (Declaration.typedef tag aliasName).tokens)
    (hvalid : ∀ p ∈ part, p.gap.IsValid)
    (hapart : part.IsChain fun p q => Token.NeedsGap p.token q.token → q.gap ≠ []) :
    ReadsAs (.typedef tag aliasName) (Text.laid (part.map Piece.residue)) := by
  obtain ⟨htag, halias⟩ := hd
  -- the five pieces and the gaps that words need
  simp only [Declaration.tokens, List.map_eq_cons_iff, List.map_eq_nil_iff] at htokens
  obtain ⟨p₀, _, rfl, h₀, p₁, _, rfl, h₁, p₂, _, rfl, h₂, p₃, _, rfl, h₃, p₄, _, rfl, h₄, rfl⟩ :=
    htokens
  simp only [List.isChain_cons_cons, List.isChain_singleton, and_true] at hapart
  obtain ⟨h₀₁, h₁₂, h₂₃, -⟩ := hapart
  have hword : ∀ w v : Text, Token.NeedsGap (.word w) (.word v) := fun _ _ => Or.inl ⟨rfl, rfl⟩
  have hg₁ := Gap.residue_ne_nil (h₀₁ (by rw [h₀, h₁]; exact hword _ _))
  have hg₂ := Gap.residue_ne_nil (h₁₂ (by rw [h₁, h₂]; exact hword _ _))
  have hg₃ := Gap.residue_ne_nil (h₂₃ (by rw [h₂, h₃]; exact hword _ _))
  have hlayout : [p₀, p₁, p₂, p₃, p₄].map Piece.residue =
      typedefLayout p₀.gap.residue p₁.gap.residue p₂.gap.residue p₃.gap.residue p₄.gap.residue
        tag aliasName := by
    simp [Piece.residue, typedefLayout, h₀, h₁, h₂, h₃, h₄, Token.text]
  have hgaps := blankGaps_residue hvalid
  rw [hlayout] at hgaps ⊢
  have hsealed := isSealed_typedefLayout hgaps htag.ident halias.ident
  refine ⟨hsealed, ?_, ?_, ?_⟩
  · exact typedefs_typedefLayout hgaps hg₁ hg₂ hg₃ htag.ident halias.ident
  · intro opaques
    rw [prototypeTexts_typedefLayout hgaps hg₁ hg₂ hg₃ htag.ident halias.ident]
    rfl
  · rw [names_collapse hsealed,
      names_typedefLayout hgaps hg₁ hg₂ hg₃ htag.ident halias.ident]
    have h₁ : ("typedef" : Text) ≠ Markers.builtin.exporting := by decide
    have h₂ : ("struct" : Text) ≠ Markers.builtin.exporting := by decide
    rw [List.count_cons_of_ne h₁, List.count_cons_of_ne h₂,
      List.count_cons_of_ne htag.ne_exporting, List.count_cons_of_ne halias.ne_exporting]
    rfl

/-! ## 4. Return types -/

/-- What is read in a token of a type, when its stars are read as blanks. -/
theorem TypeToken.words_map {f : Char → Char} (hstar : isBlank (f '*') = true)
    (hident : ∀ c, isIdent c = true → f c = c) {k : TypeToken} (hk : k.IsWellFormed) :
    Text.words (k.token.text.map f) = k.names := by
  have hword : ∀ w : Text, IsIdentText w → Text.words (w.map f) = [w] := by
    intro w hw
    have hmap : w.map f = w :=
      (List.map_congr_left fun c hc => hident c (hw.2 c hc)).trans (List.map_id w)
    have h := Text.words_append (t := []) hw.1 (fun c hc => isBlank_of_isIdent (hw.2 c hc)) rfl
    rw [List.append_nil] at h
    rw [hmap, h]
    rfl
  cases k with
  | word w =>
    have hw : IsCName w := hk
    exact hword w hw.ident
  | const => exact hword constWord (by decide)
  | star => exact (Text.words_cons_blank hstar []).trans rfl

theorem TypeToken.count_star_text {k : TypeToken} (hk : k.IsWellFormed) :
    k.token.text.count '*' = if k = star then 1 else 0 := by
  cases k with
  | word w =>
    have hw : IsCName w := hk
    rw [if_neg (by simp)]
    exact List.count_eq_zero.2 (hw.ident.not_mem (by decide))
  | const => decide
  | star => decide

/-- Of the words of a type those that name it are left when the `const`s are dropped. -/
theorem TypeToken.filter_names {type : List TypeToken} (htype : ∀ k ∈ type, k.IsWellFormed) :
    (type.flatMap names).filter (· ≠ constWord) = type.filterMap word? := by
  induction type with
  | nil => rfl
  | cons k type ih =>
    have ih := ih fun l hl => htype l (List.mem_cons_of_mem _ hl)
    rw [List.flatMap_cons, List.filter_append, ih]
    cases k with
    | word w =>
      have hw : IsCName w := htype (word w) (by simp)
      have hkeep : ([w] : List Text).filter (· ≠ constWord) = [w] := by
        simp [hw.ne_const]
      rw [List.filterMap_cons_some (show word? (word w) = some w from rfl)]
      exact congrArg (· ++ _) hkeep
    | const => rw [List.filterMap_cons_none (show word? const = none from rfl)]; rfl
    | star => rw [List.filterMap_cons_none (show word? star = none from rfl)]; rfl

theorem TypeToken.mem_names_const {type : List TypeToken}
    (htype : ∀ k ∈ type, k.IsWellFormed) : constWord ∈ type.flatMap names ↔ const ∈ type := by
  constructor
  · intro h
    obtain ⟨k, hk, hmem⟩ := List.mem_flatMap.1 h
    cases k with
    | word w =>
      have hw : IsCName w := htype _ hk
      exact absurd (List.mem_singleton.1 hmem).symm hw.ne_const
    | const => exact hk
    | star => cases hmem
  · intro h
    exact List.mem_flatMap.2 ⟨const, h, by simp [names]⟩

section ReturnType

variable {type : List TypeToken} (htype : ∀ k ∈ type, k.IsWellFormed) {tps : List Piece}
  (htokens : tps.map (·.token) = type.map TypeToken.token)
  (hvalid : ∀ p ∈ tps, p.gap.IsValid)
  (hapart : tps.IsChain fun p q => Token.NeedsGap p.token q.token → q.gap ≠ [])

include htype htokens

/-- A token of a type is a star or a word. -/
theorem token_cases_of_type {p : Piece} (hp : p ∈ tps) :
    p.token = .star ∨ ∃ w, p.token = .word w ∧ IsIdentText w := by
  have hmem : p.token ∈ type.map TypeToken.token := by
    rw [← htokens]
    exact List.mem_map_of_mem hp
  obtain ⟨k, hk, hkp⟩ := List.mem_map.1 hmem
  cases k with
  | word w =>
    have hw : IsCName w := htype _ hk
    exact Or.inr ⟨w, hkp.symm, hw.ident⟩
  | const => exact Or.inr ⟨constWord, hkp.symm, by decide⟩
  | star => exact Or.inl hkp.symm

theorem isSolid_of_type {p : Piece} (hp : p ∈ tps) : Text.IsSolid p.token.text := by
  rcases token_cases_of_type htype htokens hp with h | ⟨w, h, hw⟩
  · rw [h]
    exact Text.isSolid_of_ink (t := ['*']) (by decide) (by decide)
  · rw [h]
    exact isSolid_of_isIdentText hw

include hvalid

/-- The search for the call marker goes on through a type. -/
theorem endsType_of_mem_type {c : Char} (hc : c ∈ Text.laid (tps.map Piece.residue)) :
    Prototype.endsType c = false := by
  have hends : ∀ d, Prototype.endsType d = true →
      isIdent d = false ∧ isBlank d = false ∧ d ≠ '*' := by
    intro d hd
    simp only [Prototype.endsType, Bool.or_eq_true, beq_iff_eq] at hd
    rcases hd with (((rfl | rfl) | rfl) | rfl) | rfl
    all_goals decide
  by_contra h
  obtain ⟨hident, hblank, hstar⟩ := hends c (by simpa using h)
  refine (blankGaps_residue hvalid).notMem_laid hblank ?_ hc
  intro q hq
  obtain ⟨p, hp, rfl⟩ := List.mem_map.1 hq
  rcases token_cases_of_type htype htokens hp with h | ⟨w, h, hw⟩
  · rw [Piece.residue, h]
    exact fun hmem => hstar (List.mem_singleton.1 hmem)
  · rw [Piece.residue, h]
    exact hw.not_mem hident

theorem count_star_type : (Text.laid (tps.map Piece.residue)).count '*' = type.count .star := by
  induction type generalizing tps with
  | nil =>
    obtain rfl : tps = [] := by simpa using htokens
    rfl
  | cons k type ih =>
    rw [List.map_cons] at htokens
    obtain ⟨p, rest, rfl, hp, hrest⟩ := List.map_eq_cons_iff.1 htokens
    have hgap := (Gap.isBlankText_residue (hvalid p (by simp))).not_mem (c := '*') (by decide)
    rw [List.map_cons, Text.laid_cons, List.count_append, List.count_append, Piece.residue, hp,
      List.count_eq_zero.2 hgap, TypeToken.count_star_text (htype k (by simp)),
      ih (fun l hl => htype l (List.mem_cons_of_mem _ hl)) hrest
        (fun q hq => hvalid q (List.mem_cons_of_mem _ hq)), List.count_cons]
    by_cases hk : k = .star
    · simp [hk, Nat.add_comm]
    · simp [hk]

include hapart

/-- The words of a type, when its stars and perhaps other characters are read as blanks. -/
theorem words_map_type {f : Char → Char} (hblank : ∀ c, isBlank c = true → isBlank (f c) = true)
    (hstar : isBlank (f '*') = true) (hident : ∀ c, isIdent c = true → f c = c) :
    Text.words ((Text.laid (tps.map Piece.residue)).map f) = type.flatMap TypeToken.names := by
  rw [Text.words_map_laid hblank (blankGaps_residue hvalid)]
  · calc (tps.map Piece.residue).flatMap (fun q => Text.words (q.2.map f))
        = (tps.map (·.token)).flatMap (fun k => Text.words (k.text.map f)) := by
          rw [List.flatMap_map, List.flatMap_map]
          rfl
      _ = type.flatMap (fun k => Text.words (k.token.text.map f)) := by
          rw [htokens, List.flatMap_map]
      _ = type.flatMap TypeToken.names := by
          apply List.flatMap_congr
          intro k hk
          exact TypeToken.words_map hstar hident (htype k hk)
  · -- neighbours are two words with a gap between them, or one of them is a star
    rw [List.isChain_map]
    apply hapart.imp_of_mem_imp
    intro p q hp hq h
    have hone : ∀ r : Piece, r.token = .star → r.residue.2.map f = [f '*'] := by
      intro r hr
      rw [Piece.residue, hr]
      rfl
    rcases token_cases_of_type htype htokens hp with hps | ⟨w, hpw, -⟩
    · right; left
      rw [hone p hps]
      simpa [Text.endsBlank] using hstar
    · rcases token_cases_of_type htype htokens hq with hqs | ⟨v, hqv, -⟩
      · right; right
        rw [hone q hqs]
        simpa [Text.startsBlank] using hstar
      · left
        exact Gap.residue_ne_nil (h (Or.inl ⟨by rw [hpw]; rfl, by rw [hqv]; rfl⟩))

end ReturnType

/-! ## 5. Prototypes -/

/-- A parameter list is read for its words and commas only. -/
theorem params_congr {opaques : OpaqueTypes} {a b : Text}
    (h : Text.collapse a = Text.collapse b) :
    ParameterList.params opaques a = ParameterList.params opaques b := by
  rw [ParameterList.params, ParameterList.declarators, h]
  rfl

/-- The type, read from the return text of a prototype. -/
theorem ofText_squeeze_type {type : List TypeToken} (htype : ∀ k ∈ type, k.IsWellFormed)
    {g ret : Text} (hg : IsBlankText g) (hret : Text.IsSolid ret)
    (hwords : Text.words ((g ++ ret).map fun c => if c = '*' then ' ' else c) =
      type.flatMap TypeToken.names)
    (hstars : (g ++ ret).count '*' = type.count .star) :
    CType.ofText (Text.trim (Text.squeeze ret)) = TypeToken.cType type := by
  have hblank : ∀ c, isBlank c = true → isBlank (if c = '*' then ' ' else c) = true := by
    intro c hc
    split
    · decide
    · exact hc
  have hstarless : starlessWords (Text.squeeze ret) = type.flatMap TypeToken.names := by
    rw [starlessWords, Text.words_map_squeeze hblank, ← hwords, List.map_append,
      Text.words_blanks_append]
    intro d hd
    obtain ⟨c, hc, rfl⟩ := List.mem_map.1 hd
    exact hblank c (hg c hc)
  have hcount : (Text.squeeze ret).count '*' = type.count .star := by
    rw [Text.count_squeeze (by decide), ← hstars, List.count_append,
      List.count_eq_zero.2 (hg.not_mem (by decide)), Nat.zero_add]
  rw [hret.squeeze.trim_eq, CType.ofText, Specifiers.ofText, hstarless, hcount,
    TypeToken.filter_names htype, TypeToken.cType]
  congr 1
  exact decide_eq_decide.2 (TypeToken.mem_names_const htype)

/-- The pieces of a prototype are laid out with a solid return type, which has the words
    and the stars that it was written from. -/
theorem exists_prototypeLayout {type : List TypeToken} {name params : Text}
    (hd : (Declaration.prototype type name params).IsWellFormed) {part : List Piece}
    (htokens : part.map (·.token) = (Declaration.prototype type name params).tokens)
    (hvalid : ∀ p ∈ part, p.gap.IsValid)
    (hapart : part.IsChain fun p q => Token.NeedsGap p.token q.token → q.gap ≠ []) :
    ∃ g₀ g₁ g₂ g₃ g₄ g₅ h h' ret,
      Text.laid (part.map Piece.residue) = Text.laid (prototypeLayout Markers.builtin
        g₀ g₁ g₂ g₃ g₄ g₅ ret name (h ++ params ++ h')) ∧
      Text.BlankGaps (prototypeLayout Markers.builtin g₀ g₁ g₂ g₃ g₄ g₅ ret name
        (h ++ params ++ h')) ∧
      IsBlankText h ∧ IsBlankText h' ∧ g₁ ≠ [] ∧ g₂ ≠ [] ∧ g₃ ≠ [] ∧ Text.IsSolid ret ∧
      (∀ c ∈ ret, Prototype.endsType c = false) ∧
      (∀ f : Char → Char, (∀ c, isBlank c = true → isBlank (f c) = true) →
        isBlank (f '*') = true → (∀ c, isIdent c = true → f c = c) →
        Text.words ((g₁ ++ ret).map f) = type.flatMap TypeToken.names) ∧
      (g₁ ++ ret).count '*' = type.count .star := by
  obtain ⟨htype, hword, hstar, -, -⟩ := hd
  simp only [Declaration.tokens, List.map_eq_cons_iff, List.map_eq_append_iff,
    List.map_eq_nil_iff] at htokens
  obtain ⟨p₀, _, rfl, h₀, tps, _, rfl, htps, p₁, _, rfl, h₁, p₂, _, rfl, h₂, p₃, _, rfl, h₃,
    p₄, _, rfl, h₄, p₅, _, rfl, h₅, p₆, _, rfl, h₆, rfl⟩ := htokens
  -- the type has a first token, and it is a word
  obtain ⟨q, rest, rfl⟩ : ∃ q rest, tps = q :: rest := by
    apply List.exists_cons_of_ne_nil
    rintro rfl
    obtain ⟨k, hk, -⟩ := hword
    rw [List.map_nil] at htps
    rw [List.map_eq_nil_iff.1 htps.symm] at hk
    cases hk
  have hq : q.token.isWord = true := by
    cases htype' : type with
    | nil =>
      rw [htype'] at htps
      cases htps
    | cons k type =>
      rw [htype', List.map_cons, List.map_cons, List.cons_eq_cons] at htps
      rw [htype'] at hstar
      rw [htps.1]
      cases k with
      | word w => rfl
      | const => rfl
      | star => exact absurd rfl hstar
  -- the gaps that words and the call marker need
  rw [List.cons_append, List.isChain_cons_cons] at hapart
  obtain ⟨hfirst, hapart⟩ := hapart
  have hapart : ((q :: rest) ++ [p₁, p₂, p₃, p₄, p₅, p₆]).IsChain
      fun p q => Token.NeedsGap p.token q.token → q.gap ≠ [] := hapart
  obtain ⟨htchain, htail, hjoin⟩ := List.isChain_append.1 hapart
  have hg₁ : q.gap.residue ≠ [] :=
    Gap.residue_ne_nil (hfirst (Or.inl ⟨by rw [h₀]; rfl, hq⟩))
  have hg₂ : p₁.gap.residue ≠ [] := by
    have hlast := List.getLast?_eq_some_getLast (List.cons_ne_nil q rest)
    exact Gap.residue_ne_nil (hjoin _ hlast p₁ rfl (Or.inr h₁))
  have hg₃ : p₂.gap.residue ≠ [] := by
    have hneeds := (List.isChain_cons_cons.1 htail).1
    exact Gap.residue_ne_nil (hneeds (Or.inl ⟨by rw [h₁]; rfl, by rw [h₂]; rfl⟩))
  have htvalid : ∀ p ∈ q :: rest, p.gap.IsValid := by
    intro p hp
    exact hvalid p (List.mem_cons_of_mem _ (List.mem_append_left _ hp))
  have hlaid : Text.laid ((q :: rest).map Piece.residue) =
      q.gap.residue ++ (q.token.text ++ Text.laid (rest.map Piece.residue)) := by
    rw [List.map_cons, Text.laid_cons]
    rfl
  refine ⟨p₀.gap.residue, q.gap.residue, p₁.gap.residue, p₂.gap.residue, p₃.gap.residue,
    p₆.gap.residue, p₄.gap.residue, p₅.gap.residue,
    q.token.text ++ Text.laid (rest.map Piece.residue), ?_, ?_, ?_, ?_, hg₁, hg₂, hg₃, ?_, ?_,
    ?_, ?_⟩
  · simp [prototypeLayout, Text.laid, Piece.residue, h₀, h₁, h₂, h₃, h₄, h₅, h₆, Token.text]
  · intro r hr
    have hgap : ∀ p ∈ p₀ :: (q :: rest ++ [p₁, p₂, p₃, p₄, p₅, p₆]),
        IsBlankText p.gap.residue := fun p hp => Gap.isBlankText_residue (hvalid p hp)
    simp only [prototypeLayout, List.mem_cons, List.not_mem_nil, or_false] at hr
    rcases hr with rfl | rfl | rfl | rfl | rfl | rfl
    · exact hgap p₀ (by simp)
    · exact hgap q (by simp)
    · exact hgap p₁ (by simp)
    · exact hgap p₂ (by simp)
    · exact hgap p₃ (by simp)
    · exact hgap p₆ (by simp)
  · exact Gap.isBlankText_residue (hvalid p₄ (by simp))
  · exact Gap.isBlankText_residue (hvalid p₅ (by simp))
  · apply Text.isSolid_laid (isSolid_of_type htype htps (by simp))
    intro r hr
    obtain ⟨p, hp, rfl⟩ := List.mem_map.1 hr
    exact isSolid_of_type htype htps (List.mem_cons_of_mem _ hp)
  · intro c hc
    apply endsType_of_mem_type htype htps htvalid
    rw [hlaid]
    exact List.mem_append_right _ hc
  · intro f hblank hstar' hident
    rw [← hlaid]
    exact words_map_type htype htps htvalid htchain hblank hstar' hident
  · rw [← hlaid]
    exact count_star_type htype htps htvalid

theorem readsAs_prototype {type : List TypeToken} {name params : Text}
    (hd : (Declaration.prototype type name params).IsWellFormed) {part : List Piece}
    (htokens : part.map (·.token) = (Declaration.prototype type name params).tokens)
    (hvalid : ∀ p ∈ part, p.gap.IsValid)
    (hapart : part.IsChain fun p q => Token.NeedsGap p.token q.token → q.gap ≠ []) :
    ReadsAs (.prototype type name params) (Text.laid (part.map Piece.residue)) := by
  obtain ⟨g₀, g₁, g₂, g₃, g₄, g₅, h, h', ret, hlayout, hgaps, hh, hh', hg₁, hg₂, hg₃, hret, hgo,
    hwords, hstars⟩ := exists_prototypeLayout hd htokens hvalid hapart
  obtain ⟨htype, -, -, hname, hparams⟩ := hd
  have he : IsIdentText Markers.builtin.exporting := by decide
  have hc : IsIdentText Markers.builtin.calling := by decide
  have hblank₁ : IsBlankText g₁ := hgaps (g₁, ret) (by simp [prototypeLayout])
  have hretNames : Text.names ret = type.flatMap TypeToken.names := by
    rw [← Text.names_blanks_append hblank₁]
    apply hwords
    · intro c
      exact Text.isBlank_blankOutside_of_isBlank
    · decide
    · intro c hc
      rw [Text.blankOutside, hc]
      rfl
  -- no word of a type is the export marker
  have hmarker : Markers.builtin.exporting ∉ type.flatMap TypeToken.names := by
    intro hmem
    obtain ⟨k, hk, hmem⟩ := List.mem_flatMap.1 hmem
    cases k with
    | word v =>
      have hv : IsCName v := htype _ hk
      exact hv.ne_exporting (List.mem_singleton.1 hmem).symm
    | const =>
      revert hmem
      decide
    | star => cases hmem
  have hinner : ∀ c, isBlank c = false → c ∉ params → c ∉ h ++ params ++ h' := by
    intro c hc hp
    simp only [List.mem_append, not_or]
    exact ⟨⟨hh.not_mem hc, hp⟩, hh'.not_mem hc⟩
  have hclosing := hinner ')' (by decide) hparams.closing
  have hsemi := hinner ';' (by decide) hparams.semicolon
  rw [hlayout]
  have hsealed := isSealed_prototypeLayout he hc hgaps hgo hname.ident hsemi
  refine ⟨hsealed, ?_, ?_, ?_⟩
  · exact typedefs_prototypeLayout he hc hgaps hg₁ hg₂ hg₃ hret hgo hname.ident hsemi
  · intro opaques
    have htyped : CType.ofText (Text.trim (Text.squeeze ret)) = TypeToken.cType type := by
      refine ofText_squeeze_type htype hblank₁ hret (hwords _ ?_ ?_ ?_) hstars
      · intro c hc
        split
        · decide
        · exact hc
      · decide
      · rintro c hc
        rw [if_neg]
        rintro rfl
        exact absurd hc (by decide)
    have hparse : ParameterList.params opaques (Text.trim (Text.squeeze (h ++ params ++ h'))) =
        ParameterList.params opaques params := by
      apply params_congr
      rw [Text.collapse, Text.words_trim, Text.words_squeeze, Text.words_append_blanks hh',
        Text.words_blanks_append hh, Text.collapse]
    rw [prototypeTexts_prototypeLayout he hc hgaps hg₁ hg₂ hg₃ hret hgo hname.ident
      hclosing, List.map_cons, List.map_nil, Prototype.function, Prototype.returnCType, htyped,
      hparse]
    rfl
  · have hinnerNames : Text.names (h ++ params ++ h') = Text.names params := by
      rw [Text.names_append_blanks hh', Text.names_blanks_append hh]
    have hparamNames : Markers.builtin.exporting ∉ Text.names params :=
      fun hmem => hparams.exporting (Text.isInfix_of_mem_names hmem)
    rw [names_collapse hsealed, names_prototypeLayout he hc hgaps hg₁ hg₂ hg₃ hname.ident,
      hretNames, hinnerNames, List.count_cons_self, List.count_append,
      List.count_eq_zero.2 hmarker, List.count_cons_of_ne (by decide),
      List.count_cons_of_ne hname.ne_exporting, List.count_eq_zero.2 hparamNames]
    rfl

theorem readsAs_of_part {d : Declaration} (hd : d.IsWellFormed) {part : List Piece}
    (htokens : part.map (·.token) = d.tokens) (hvalid : ∀ p ∈ part, p.gap.IsValid)
    (hapart : part.IsChain fun p q => Token.NeedsGap p.token q.token → q.gap ≠ []) :
    ReadsAs d (Text.laid (part.map Piece.residue)) := by
  cases d with
  | typedef tag aliasName => exact readsAs_typedef hd htokens hvalid hapart
  | prototype type name params => exact readsAs_prototype hd htokens hvalid hapart

/-! ## 6. The whole header -/

/-- A spelling is stripped to a sequence of texts that are read as the declarations. -/
theorem exists_segments {ds : List Declaration} {ps : List Piece} {last : Gap}
    (hds : ∀ d ∈ ds, d.IsWellFormed) (h : IsSpelling ds ps last) :
    ∃ es : List (Declaration × Text), es.map (·.1) = ds ∧ (∀ e ∈ es, ReadsAs e.1 e.2) ∧
      normalize (spelled ps last) = Text.collapse (es.map (·.2)).flatten := by
  obtain ⟨parts, hparts, hps, htokens⟩ := exists_parts h.tokens
  refine ⟨parts.map fun q => (q.1, Text.laid (q.2.map Piece.residue)), ?_, ?_, ?_⟩
  · rw [List.map_map, ← hparts]
    rfl
  · intro e he
    obtain ⟨q, hq, rfl⟩ := List.mem_map.1 he
    have hpart : q.2 <:+: ps := by
      rw [← hps, List.flatMap_def]
      exact List.infix_of_mem_flatten (List.mem_map_of_mem hq)
    apply readsAs_of_part
    · apply hds
      rw [← hparts]
      exact List.mem_map_of_mem hq
    · exact htokens q hq
    · intro p hp
      exact h.valid p (hpart.subset hp)
    · exact h.apart.infix hpart
  · have hlaid : Text.laid (ps.map Piece.residue) =
        (parts.map fun q => Text.laid (q.2.map Piece.residue)).flatten := by
      rw [← hps, Text.laid, List.map_flatMap, List.flatMap_assoc, List.flatMap_def]
      rfl
    rw [normalize, strip_spelled hds h, Text.collapse_append_blanks
      (Gap.isBlankText_residue h.last_valid), hlaid, List.map_map]
    rfl

/-- What is listed segment by segment is listed declaration by declaration. -/
theorem IsSegmentwise.collapse_segments {β : Type} {F : Text → List β} (hF : IsSegmentwise F)
    {es : List (Declaration × Text)} (hes : ∀ e ∈ es, ReadsAs e.1 e.2) :
    F (Text.collapse (es.map (·.2)).flatten) = es.flatMap fun e => F (Text.collapse e.2) := by
  rw [hF.collapse_flatten, List.flatMap_map]
  intro t ht
  obtain ⟨e, he, rfl⟩ := List.mem_map.1 ht
  exact (hes e he).isSealed

section Spelling

variable {ds : List Declaration} {ps : List Piece} {last : Gap}
  (hds : ∀ d ∈ ds, d.IsWellFormed) (h : IsSpelling ds ps last)

include hds h

theorem typedefs_spelled :
    typedefs (normalize (spelled ps last)) = ds.flatMap Declaration.typedefs := by
  obtain ⟨es, rfl, hes, hnormal⟩ := exists_segments hds h
  rw [hnormal, isSegmentwise_typedefs.collapse_segments hes, List.flatMap_map]
  apply List.flatMap_congr
  intro e he
  exact (hes e he).typedefs

theorem functions_spelled (opaques : OpaqueTypes) :
    (prototypeTexts Markers.builtin 0 0 none (normalize (spelled ps last))).map
        (·.function opaques Conventions.builtin.stripPrefix) =
      ds.flatMap (Declaration.functions opaques) := by
  obtain ⟨es, rfl, hes, hnormal⟩ := exists_segments hds h
  have hF : IsSegmentwise (prototypeTexts Markers.builtin 0 0 none) :=
    isSegmentwise_prototypeTexts (by decide) (by decide)
  rw [hnormal, hF.collapse_segments hes, List.flatMap_map, List.map_flatMap]
  apply List.flatMap_congr
  intro e he
  exact (hes e he).functions opaques

theorem count_exporting_spelled :
    (Text.names (normalize (spelled ps last))).count Markers.builtin.exporting =
      ds.countP Declaration.isPrototype := by
  obtain ⟨es, rfl, hes, hnormal⟩ := exists_segments hds h
  rw [hnormal, isSegmentwise_names.collapse_segments hes]
  clear hnormal hds h
  induction es with
  | nil => rfl
  | cons e es ih =>
    rw [List.flatMap_cons, List.count_append, (hes e (by simp)).exporting,
      ih (fun f hf => hes f (List.mem_cons_of_mem _ hf)), List.map_cons, List.countP_cons,
      Nat.add_comm]

theorem isAscii_normalize_spelled : IsAscii (normalize (spelled ps last)) := by
  intro c hc
  rw [normalize, strip_spelled hds h, Text.collapse_append_blanks
    (Gap.isBlankText_residue h.last_valid)] at hc
  rcases Text.ink_of_mem_collapse hc with ⟨hc, hink⟩ | rfl
  · obtain ⟨q, hq, hc⟩ := List.mem_flatMap.1 hc
    obtain ⟨p, hp, rfl⟩ := List.mem_map.1 hq
    rcases List.mem_append.1 hc with hc | hc
    · exact absurd hc ((Gap.isBlankText_residue (h.valid p hp)).not_mem hink)
    · have hmem : p.token ∈ ds.flatMap (·.tokens) := by
        rw [← h.tokens]
        exact List.mem_map_of_mem hp
      obtain ⟨d, hd, hmem⟩ := List.mem_flatMap.1 hmem
      exact isAscii_of_mem_tokens (hds d hd) hmem c hc
  · decide

end Spelling

theorem length_functions (opaques : OpaqueTypes) (ds : List Declaration) :
    (ds.flatMap (Declaration.functions opaques)).length =
      ds.countP Declaration.isPrototype := by
  induction ds with
  | nil => rfl
  | cons d ds ih =>
    rw [List.flatMap_cons, List.length_append, ih, List.countP_cons, Nat.add_comm]
    cases d <;> rfl

theorem length_otherTypedefs (ds : List Declaration) :
    ((ds.flatMap Declaration.typedefs).filter (!·.isHandle)).length =
      ds.countP Declaration.isOtherTypedef := by
  induction ds with
  | nil => rfl
  | cons d ds ih =>
    rw [List.flatMap_cons, List.filter_append, List.length_append, ih, List.countP_cons,
      Nat.add_comm]
    cases d with
    | typedef tag aliasName =>
      by_cases h : tag = aliasName
      · simp [Declaration.typedefs, Declaration.isOtherTypedef, Typedef.isHandle, h]
      · simp [Declaration.typedefs, Declaration.isOtherTypedef, Typedef.isHandle, h]
    | prototype type name params => rfl

/-- The declarations of a header are those that it was written from. -/
structure Recovers (ds : List Declaration) (found : Declarations) : Prop where
  /-- The opaque types are exactly those whose tag is their alias. -/
  opaqueTypes : ∀ name, name ∈ found.opaqueTypes.nativeNames ↔ .typedef name name ∈ ds
  otherTypedefs : found.otherTypedefs = ds.countP Declaration.isOtherTypedef
  /-- The functions are those that the prototypes declare, in order, but for those whose
      method stem an earlier one has. -/
  functions : found.functions =
    (ds.flatMap (Declaration.functions found.opaqueTypes)).eraseDupsBy sameStem
  duplicates : found.functions.length + found.duplicates = ds.countP Declaration.isPrototype
  unmatched : found.unmatched = 0

/-- No function is left out when all method stems are distinct. -/
theorem Recovers.functions_of_pairwise {ds : List Declaration} {found : Declarations}
    (h : Recovers ds found)
    (hdistinct : (ds.flatMap (Declaration.functions found.opaqueTypes)).Pairwise
      fun f g => sameStem g f = false) :
    found.functions = ds.flatMap (Declaration.functions found.opaqueTypes) := by
  rw [h.functions, eraseDupsBy_sameStem_of_pairwise hdistinct]

end Header

/-- **Extraction undoes writing.**  However a list of declarations is spelled, extraction
    gives its opaque types, the number of its other typedefs, and its functions; all its
    prototypes are matched. -/
theorem extract_spelled {ds : List Header.Declaration} {ps : List Header.Piece}
    {last : Header.Gap} (hds : ∀ d ∈ ds, d.IsWellFormed)
    (h : Header.IsSpelling ds ps last) :
    Header.Recovers ds (Conventions.builtin.extract (Header.spelled ps last)).declarations := by
  have hfunctions := Header.functions_spelled hds h
  have hmatched : (Header.prototypes Markers.builtin
      (Header.normalize (Header.spelled ps last))).length =
      ds.countP Header.Declaration.isPrototype := by
    have := congrArg List.length (hfunctions .empty)
    rwa [Header.length_functions, Header.prototypeTexts, List.length_map,
      List.length_map] at this
  refine ⟨?_, ?_, ?_, ?_, ?_⟩
  · intro name
    rw [Conventions.mem_nativeNames_extract, Header.typedefs_spelled hds h]
    constructor
    · rintro ⟨t, ht, hhandle, rfl⟩
      obtain ⟨d, hd, ht⟩ := List.mem_flatMap.1 ht
      cases d with
      | typedef tag aliasName =>
        obtain rfl := List.mem_singleton.1 ht
        have htag : tag = aliasName := by simpa [Header.Typedef.isHandle] using hhandle
        rwa [htag] at hd
      | prototype type name params => cases ht
    · intro hd
      exact ⟨⟨name, name⟩, List.mem_flatMap.2 ⟨_, hd, List.mem_singleton.2 rfl⟩,
        by simp [Header.Typedef.isHandle], rfl⟩
  · show ((Header.typedefs _).filter _).length = _
    rw [Header.typedefs_spelled hds h, Header.length_otherTypedefs]
  · show (claimStems [] (List.map _ (List.map _ _))).filterMap _ = _
    rw [filterMap_kept_claimStems]
    exact congrArg (List.eraseDupsBy sameStem) (hfunctions _)
  · rw [← hmatched]
    exact functions_add_duplicates Conventions.builtin _
  · have hbalance := Header.length_prototypeTexts_add_length_unmatched (m := Markers.builtin)
      (by decide) (Header.isAscii_normalize_spelled hds h)
    rw [Header.count_exporting_spelled hds h, Header.prototypeTexts, List.length_map] at hbalance
    have hunmatched :
        (Conventions.builtin.extract (Header.spelled ps last)).declarations.unmatched =
        (Header.unmatched Markers.builtin (Header.prototypes Markers.builtin
          (Header.normalize (Header.spelled ps last)))
          (Header.normalize (Header.spelled ps last))).length := rfl
    have hall : (Header.matchesFrom Markers.builtin 0 0 none
        (Header.normalize (Header.spelled ps last))).length =
        ds.countP Header.Declaration.isPrototype := hmatched
    omega

/-- A typedef and a prototype that refers to it, with comments in the gaps. -/
theorem extract_spelled_of_comments :
    ∃ ps last,
      Header.spelled ps last = ("typedef struct OgaModel OgaModel;//one\n" : Text) ++
        "OGA_EXPORT const/**/char* OGA_API_CALL OgaName(OgaModel* m);" ∧
      Header.Recovers [ .typedef ("OgaModel" : Text) "OgaModel",
          .prototype [.const, .word "char", .star] "OgaName" "OgaModel* m"]
        (Conventions.builtin.extract (Header.spelled ps last)).declarations := by
  refine ⟨[⟨[], .word "typedef"⟩, ⟨[.blank ' '], .word "struct"⟩, ⟨[.blank ' '], .word "OgaModel"⟩,
      ⟨[.blank ' '], .word "OgaModel"⟩, ⟨[], .semicolon⟩, ⟨[.line "one"], .word "OGA_EXPORT"⟩,
      ⟨[.blank ' '], .word "const"⟩, ⟨[.block []], .word "char"⟩, ⟨[], .star⟩,
      ⟨[.blank ' '], .word "OGA_API_CALL"⟩, ⟨[.blank ' '], .word "OgaName"⟩, ⟨[], .opening⟩,
      ⟨[], .params "OgaModel* m"⟩, ⟨[], .closing⟩, ⟨[], .semicolon⟩], [], by decide, ?_⟩
  exact extract_spelled (by decide +kernel)
    ⟨by decide +kernel, by decide +kernel, by decide, by decide +kernel⟩

/-- Two prototypes whose names differ have one method stem, so that only the first of them
    becomes a function. -/
theorem not_forall_functions_eq :
    ¬ ∀ (ds : List Header.Declaration) (ps : List Header.Piece) (last : Header.Gap),
      (∀ d ∈ ds, d.IsWellFormed) → Header.IsSpelling ds ps last →
        (Conventions.builtin.extract (Header.spelled ps last)).declarations.functions =
          ds.flatMap (Header.Declaration.functions
            (Conventions.builtin.extract (Header.spelled ps last)).declarations.opaqueTypes) := by
  intro hall
  have h := hall
    [.prototype [.word "int32_t"] "OgaGet_Count" "void",
      .prototype [.word "int32_t"] "OgaGetCount" "void"]
    [⟨[], .word "OGA_EXPORT"⟩, ⟨[.blank ' '], .word "int32_t"⟩,
      ⟨[.blank ' '], .word "OGA_API_CALL"⟩, ⟨[.blank ' '], .word "OgaGet_Count"⟩,
      ⟨[], .opening⟩, ⟨[], .params "void"⟩, ⟨[], .closing⟩, ⟨[], .semicolon⟩,
      ⟨[.blank '\n'], .word "OGA_EXPORT"⟩, ⟨[.blank ' '], .word "int32_t"⟩,
      ⟨[.blank ' '], .word "OGA_API_CALL"⟩, ⟨[.blank ' '], .word "OgaGetCount"⟩,
      ⟨[], .opening⟩, ⟨[], .params "void"⟩, ⟨[], .closing⟩, ⟨[], .semicolon⟩] []
    (by decide +kernel) ⟨by decide +kernel, by decide +kernel, by decide, by decide +kernel⟩
  exact absurd (congrArg List.length h) (by decide +kernel)

end HeaderBindings
