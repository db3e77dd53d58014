import HeaderBindings.Proofs.Header.Segments
import HeaderBindings.Proofs.Text.Pieces

/-!
# Reading one declaration

A typedef and a prototype are written with a gap in front of every token.  In normal form
the gaps are spaces, and the grammar of the readers says what is read there.  Two things
have to be seen besides.

* Nothing else is read in the declaration.  A typedef has no parenthesis, so that no
  prototype is in it.  A prototype has a closing parenthesis in front of its semicolon,
  where a typedef has a name.
* The return type is the whole text up to the call marker, also where the call marker is a
  word in it (`isReturnType_of_isInk`).
-/

namespace HeaderBindings.Header

/-! ## 1. Searches with one match or none -/

theorem typedefsFrom_of_length_le {skip : Nat} {t : Text} (h : t.length ≤ skip) :
    typedefsFrom skip t = [] := by
  induction t generalizing skip with
  | nil => rfl
  | cons c t ih =>
    cases skip with
    | zero => simp at h
    | succ skip => exact ih (by simpa using h)

theorem typedefs_eq_singleton {t : Text} {x : Typedef}
    (h : Typedef.read? t = some (x, [])) : typedefs t = [x] := by
  cases t with
  | nil => cases h
  | cons c t =>
    rw [typedefs, typedefsFrom, h]
    exact congrArg (x :: ·) (typedefsFrom_of_length_le (by simp))

theorem typedefs_eq_nil {t : Text} (h : ∀ a b, t = a ++ b → Typedef.read? b = none) :
    typedefs t = [] := by
  unfold typedefs
  induction t with
  | nil => rfl
  | cons c t ih =>
    rw [typedefsFrom, h [] (c :: t) rfl]
    apply ih
    rintro a b rfl
    exact h (c :: a) b rfl

theorem matchesFrom_of_length_le {m : Markers} {place skip : Nat} {before : Option Char}
    {t : Text} (h : t.length ≤ skip) : matchesFrom m place skip before t = [] := by
  induction t generalizing place skip before with
  | nil => rfl
  | cons c t ih =>
    cases skip with
    | zero => simp at h
    | succ skip => exact ih (by simpa using h)

theorem prototypes_eq_singleton {m : Markers} {t : Text} {p : Prototype}
    (h : Prototype.read? m none t = some (p, [])) : prototypes m t = [⟨0, p⟩] := by
  cases t with
  | nil =>
    obtain ⟨-, u, heq, -⟩ := Prototype.read?_eq_some_iff.1 h
    simp at heq
  | cons c t =>
    rw [prototypes, matchesFrom, h]
    exact congrArg (⟨0, p⟩ :: ·) (matchesFrom_of_length_le (Nat.le_refl t.length))

theorem prototypeTexts_eq_singleton {m : Markers} {t : Text} {p : Prototype}
    (h : Prototype.read? m none t = some (p, [])) : prototypeTexts m 0 0 none t = [p] :=
  congrArg (List.map Match.prototype) (prototypes_eq_singleton h)

/-- A prototype has an opening parenthesis. -/
theorem Prototype.mem_of_read? {m : Markers} {before : Option Char} {t tail : Text}
    {p : Prototype} (h : Prototype.read? m before t = some (p, tail)) : '(' ∈ t := by
  obtain ⟨ret, name, params⟩ := p
  obtain ⟨-, u, rfl, hbody⟩ := Prototype.read?_eq_some_iff.1 h
  obtain ⟨v, rfl, -, hdecl⟩ := Prototype.body?_eq_some_iff.1 hbody
  obtain ⟨s₁, s₂, -, -, -, -, rfl⟩ := Prototype.declared?_eq_some_iff.1 hdecl
  simp

theorem prototypeTexts_eq_nil {m : Markers} {place : Nat} {before : Option Char} {t : Text}
    (h : '(' ∉ t) : prototypeTexts m place 0 before t = [] := by
  unfold prototypeTexts
  induction t generalizing place before with
  | nil => rfl
  | cons c t ih =>
    have hread : Prototype.read? m before (c :: t) = none := by
      rw [Option.eq_none_iff_forall_ne_some]
      rintro ⟨p, tail⟩ hp
      exact h (Prototype.mem_of_read? hp)
    rw [matchesFrom, hread]
    exact ih fun hmem => h (List.mem_cons_of_mem _ hmem)

/-! ## 2. Typedefs -/

/-- Blanks are no word characters. -/
theorem isWord_of_isBlank {c : Char} (h : isBlank c = true) : isWord c = false := by
  have hall : ∀ n ∈ List.range' 9 5 ++ [0x20, 0x85, 0xA0, 0x1680] ++ List.range' 0x2000 11 ++
      [0x2028, 0x2029, 0x202F, 0x205F, 0x3000], isWord (Char.ofNat n) = false := by
    decide +kernel
  have hmem : c.toNat ∈ List.range' 9 5 ++ [0x20, 0x85, 0xA0, 0x1680] ++ List.range' 0x2000 11 ++
      [0x2028, 0x2029, 0x202F, 0x205F, 0x3000] := by
    simp only [isBlank, Bool.or_eq_true, Bool.and_eq_true, decide_eq_true_eq, beq_iff_eq] at h
    simp only [List.mem_append, List.mem_range'_1, List.mem_cons, List.not_mem_nil, or_false]
    omega
  rw [← Char.ofNat_toNat c]
  exact hall _ hmem

theorem IsName.isInk {w : Text} (h : IsName w) : Text.IsInk w := by
  refine ⟨h.1, ?_⟩
  intro c hc
  by_contra hblank
  have hword := h.2 c hc
  rw [isWord_of_isBlank (by simpa using hblank)] at hword
  cases hword

theorem isName_of_isIdentText {w : Text} (h : IsIdentText w) : IsName w :=
  ⟨h.1, fun c hc => isWord_of_isIdent (h.2 c hc)⟩

theorem isInk_of_isIdentText {w : Text} (h : IsIdentText w) : Text.IsInk w :=
  ⟨h.1, fun c hc => isBlank_of_isIdent (h.2 c hc)⟩

theorem isSolid_of_isIdentText {w : Text} (h : IsIdentText w) : Text.IsSolid w :=
  (isInk_of_isIdentText h).isSolid

theorem squeeze_of_isIdentText {w : Text} (h : IsIdentText w) : Text.squeeze w = w :=
  (isInk_of_isIdentText h).squeeze_eq

theorem notMem_of_isIdentText {w : Text} (h : IsIdentText w) : ';' ∉ w ∧ '(' ∉ w :=
  ⟨h.not_mem (by decide), h.not_mem (by decide)⟩

theorem isGap_thin (g : Text) : IsGap (Text.thin g) := by
  unfold Text.thin
  split
  · exact Or.inl rfl
  · exact Or.inr rfl

theorem thin_of_ne_nil {g : Text} (h : g ≠ []) : Text.thin g = [' '] := by
  rw [Text.thin, if_neg h]

/-- Words without parentheses and semicolons, behind gaps, in front of a sealed text. -/
theorem IsSealed.laid_append {ps : List (Text × Text)} {d : Text} (hgaps : Text.BlankGaps ps)
    (h : ∀ p ∈ ps, ';' ∉ p.2 ∧ '(' ∉ p.2) (hd : IsSealed d) : IsSealed (Text.laid ps ++ d) := by
  apply hd.append (hgaps.notMem_laid (by decide) fun p hp => (h p hp).1)
  intro hmem
  exact absurd hmem (hgaps.notMem_laid (by decide) fun p hp => (h p hp).2)

/-- A typedef with a gap in front of each of its tokens. -/
def typedefLayout (g₀ g₁ g₂ g₃ g₄ tag aliasName : Text) : List (Text × Text) :=
  [(g₀, "typedef"), (g₁, "struct"), (g₂, tag), (g₃, aliasName), (g₄, ";")]

section Typedef

variable {g₀ g₁ g₂ g₃ g₄ tag aliasName : Text}
  (hgaps : Text.BlankGaps (typedefLayout g₀ g₁ g₂ g₃ g₄ tag aliasName))
  (h₁ : g₁ ≠ []) (h₂ : g₂ ≠ []) (h₃ : g₃ ≠ [])
  (htag : IsIdentText tag) (halias : IsIdentText aliasName)

include hgaps htag halias

theorem isSealed_typedefLayout :
    IsSealed (Text.laid (typedefLayout g₀ g₁ g₂ g₃ g₄ tag aliasName)) := by
  have hsplit : Text.laid (typedefLayout g₀ g₁ g₂ g₃ g₄ tag aliasName) =
      Text.laid [(g₀, "typedef"), (g₁, "struct"), (g₂, tag), (g₃, aliasName), (g₄, [])] ++
        [';'] := by
    simp [typedefLayout, Text.laid]
  rw [hsplit]
  have hsub := List.Subset.refl [g₀, g₁, g₂, g₃, g₄]
  refine IsSealed.laid_append (hgaps.of_subset hsub) ?_ .semicolon
  intro p hp
  simp only [List.mem_cons, List.not_mem_nil, or_false] at hp
  rcases hp with rfl | rfl | rfl | rfl | rfl
  · exact notMem_of_isIdentText (w := "typedef") (by decide)
  · exact notMem_of_isIdentText (w := "struct") (by decide)
  · exact notMem_of_isIdentText htag
  · exact notMem_of_isIdentText halias
  · simp

include h₁ h₂ h₃

theorem collapse_typedefLayout :
    Text.collapse (Text.laid (typedefLayout g₀ g₁ g₂ g₃ g₄ tag aliasName)) =
      Typedef.opening ++ (tag ++ ' ' :: (aliasName ++ (Text.thin g₄ ++ [';']))) := by
  have hsolid : ∀ q ∈ typedefLayout g₀ g₁ g₂ g₃ g₄ tag aliasName, Text.IsSolid q.2 := by
    intro q hq
    simp only [typedefLayout, List.mem_cons, List.not_mem_nil, or_false] at hq
    rcases hq with rfl | rfl | rfl | rfl | rfl
    · exact isSolid_of_isIdentText (w := "typedef") (by decide)
    · exact isSolid_of_isIdentText (w := "struct") (by decide)
    · exact isSolid_of_isIdentText htag
    · exact isSolid_of_isIdentText halias
    · exact Text.isSolid_of_ink (t := ";") (by decide) (by decide)
  have hsemi : Text.squeeze ";".toList = [';'] := by decide
  have hopening : Typedef.opening = "typedef".toList ++ ' ' :: ("struct".toList ++ [' ']) := by
    decide
  rw [typedefLayout, Text.collapse_laid_cons hgaps hsolid, hopening]
  simp only [List.map_cons, List.map_nil, Text.laid_cons, Text.laid_nil, List.append_nil,
    thin_of_ne_nil h₁, thin_of_ne_nil h₂, thin_of_ne_nil h₃, hsemi,
    squeeze_of_isIdentText htag, squeeze_of_isIdentText halias,
    squeeze_of_isIdentText (by decide : IsIdentText "typedef".toList),
    squeeze_of_isIdentText (by decide : IsIdentText "struct".toList)]
  simp

theorem names_typedefLayout :
    Text.names (Text.laid (typedefLayout g₀ g₁ g₂ g₃ g₄ tag aliasName)) =
      [("typedef" : Text), ("struct" : Text), tag, aliasName] := by
  have hsemi : Text.names ";".toList = [] := by decide
  have hlaid := Text.words_map_laid (f := Text.blankOutside)
    (fun _ => Text.isBlank_blankOutside_of_isBlank) hgaps
  have hnames : ∀ t, Text.words (t.map Text.blankOutside) = Text.names t := fun _ => rfl
  simp only [hnames, typedefLayout, List.flatMap_cons, List.flatMap_nil, hsemi,
    Text.names_of_isIdentText htag, Text.names_of_isIdentText halias,
    Text.names_of_isIdentText (by decide : IsIdentText "typedef".toList),
    Text.names_of_isIdentText (by decide : IsIdentText "struct".toList)] at hlaid
  rw [typedefLayout, hlaid]
  · simp
  · simp only [List.isChain_cons_cons, List.isChain_singleton, and_true]
    exact ⟨Or.inl h₁, Or.inl h₂, Or.inl h₃, Or.inr (Or.inr (by decide))⟩

theorem typedefs_typedefLayout :
    typedefs (Text.collapse (Text.laid (typedefLayout g₀ g₁ g₂ g₃ g₄ tag aliasName))) =
      [⟨tag, aliasName⟩] := by
  apply typedefs_eq_singleton
  rw [collapse_typedefLayout hgaps h₁ h₂ h₃ htag halias, Typedef.read?_eq_some_iff]
  exact ⟨Text.thin g₄, isGap_thin g₄, isName_of_isIdentText htag, isName_of_isIdentText halias,
    rfl⟩

theorem prototypeTexts_typedefLayout (m : Markers) :
    prototypeTexts m 0 0 none
      (Text.collapse (Text.laid (typedefLayout g₀ g₁ g₂ g₃ g₄ tag aliasName))) = [] := by
  apply prototypeTexts_eq_nil
  rw [collapse_typedefLayout hgaps h₁ h₂ h₃ htag halias]
  simp only [List.mem_append, List.mem_cons, List.not_mem_nil, or_false, not_or]
  exact ⟨by decide, htag.not_mem (by decide), by decide, halias.not_mem (by decide),
    (isGap_thin g₄).not_mem (by decide), by decide⟩

end Typedef

/-! ## 3. Prototypes -/

/-- A gap does not end with the last character of a name or with a parenthesis. -/
theorem append_gap_ne {x y s s' : Text} {c : Char} (hc : isWord c = true) (hs : IsGap s)
    (hs' : IsGap s') : (x ++ [c]) ++ s ≠ (y ++ [')']) ++ s' := by
  have hspace : c ≠ ' ' := by
    rintro rfl
    exact absurd hc (by decide)
  have hclosing : c ≠ ')' := by
    rintro rfl
    exact absurd hc (by decide)
  intro h
  have hlast := congrArg List.getLast? h
  rcases hs with rfl | rfl
  · rcases hs' with rfl | rfl
    · exact hclosing (by simpa using hlast)
    · exact hspace (by simpa using hlast)
  · rcases hs' with rfl | rfl
    · exact absurd hlast (by simp)
    · have hinit := List.append_cancel_right h
      exact hclosing (by simpa using congrArg List.getLast? hinit)

/-- No typedef ends where a closing parenthesis stands in front of the semicolon. -/
theorem typedefs_eq_nil_of_closing {y s : Text} (hs : IsGap s)
    (h : IsSealed ((y ++ [')']) ++ s ++ [';'])) :
    typedefs ((y ++ [')']) ++ s ++ [';']) = [] := by
  apply typedefs_eq_nil
  intro a b hab
  rw [Option.eq_none_iff_forall_ne_some]
  rintro ⟨d, tail⟩ hd
  obtain ⟨s', hs', -, halias, rfl⟩ := Typedef.read?_eq_some_iff.1 hd
  rcases List.eq_nil_or_concat d.aliasName with hnil | ⟨w, c, hw⟩
  · exact halias.1 hnil
  · rw [List.concat_eq_append] at hw
    have hc : isWord c = true := halias.2 c (by rw [hw]; simp)
    have hsplit : (y ++ [')']) ++ s ++ [';'] =
        ((a ++ (Typedef.opening ++ (d.tag ++ ' ' :: w))) ++ [c]) ++ s' ++ ';' :: tail := by
      rw [hab, hw]
      simp
    have hsemi : ';' ∉ (y ++ [')']) ++ s := h.not_mem_of_append
    have hsemi' := (hsplit ▸ h).not_mem_of_append
    exact append_gap_ne hc hs' hs (append_cons_inj hsemi hsemi' hsplit).1.symm

theorem IsGap.isBlankText {s : Text} (h : IsGap s) : IsBlankText s := by
  rcases h with rfl | rfl
  · exact fun c hc => absurd hc List.not_mem_nil
  · decide

/-- Where two texts agree and one of them begins with a word and a space, the word stands in
    front of any space of the other. -/
theorem subset_of_append_space_eq {w b x y : Text} (hw : ' ' ∉ w)
    (h : b ++ ' ' :: x = w ++ ' ' :: y) : w ⊆ b := by
  by_cases hmem : ' ' ∈ b
  · obtain ⟨u, v, rfl, hu⟩ := List.eq_append_cons_of_mem hmem
    rw [List.append_assoc, List.cons_append] at h
    obtain ⟨rfl, -⟩ := append_cons_inj hu hw h
    exact List.subset_append_left _ _
  · obtain ⟨rfl, -⟩ := append_cons_inj hmem hw h
    exact List.Subset.refl _

/-- **The whole text is the return type,** whichever word the call marker is.  A call marker
    in the return type would have two words or more between it and the parenthesis, and not
    one. -/
theorem isReturnType_of_isInk {calling ret name s : Text} (hcalling : Text.IsInk calling)
    (hret : Text.IsSolid ret) (hgo : ∀ c ∈ ret, Prototype.endsType c = false)
    (hname : IsName name) (hs : IsGap s) (rest : Text) :
    Prototype.IsReturnType calling ret
      (' ' :: (calling ++ ' ' :: (name ++ (s ++ '(' :: rest)))) := by
  refine ⟨hret.ne_nil, hgo, ?_⟩
  rintro a b - hb rfl
  rw [Option.eq_none_iff_forall_ne_some]
  rintro ⟨d, tail⟩ hd
  obtain ⟨s', s'', hs', -, hname', -, heq⟩ := Prototype.declared?_eq_some_iff.1 hd
  have hblank : isBlank ' ' = true := by decide
  cases b with
  | nil => exact hb rfl
  | cons e b =>
    rw [List.cons_append, List.cons_eq_cons] at heq
    obtain ⟨rfl, heq⟩ := heq
    have hopen : '(' ∉ b := by
      intro hmem
      have hends := hgo '(' (by simp [hmem])
      revert hends
      decide
    have hopen' : '(' ∉ calling :=
      fun hmem => hopen (subset_of_append_space_eq (hcalling.notMem hblank) heq hmem)
    -- both readings agree up to the opening parenthesis
    have hcut : b ++ ' ' :: (calling ++ ' ' :: (name ++ s)) =
        calling ++ ' ' :: (d.name ++ s') := by
      refine (append_cons_inj (c := '(') ?_ ?_ (y := rest)
        (b := d.paramText ++ ')' :: (s'' ++ ';' :: tail)) (by simpa using heq)).1
      · simp [hopen, hopen', hname.not_mem (c := '(') (by decide),
          hs.not_mem (c := '(') (by decide)]
      · simp [hopen', hname'.not_mem (c := '(') (by decide),
          hs'.not_mem (c := '(') (by decide)]
    have hwords := congrArg Text.words hcut
    rw [Text.words_append_blank hblank, Text.words_append_blank hblank,
      Text.words_append_blank hblank, Text.words_append_blanks hs.isBlankText,
      Text.words_append_blanks hs'.isBlankText, hcalling.words_eq, hname.isInk.words_eq,
      hname'.isInk.words_eq] at hwords
    -- there is a word behind the space, as the return type does not end with a blank
    have hne : b ≠ [] := by
      rintro rfl
      have hends := hret.ends
      rw [Text.endsBlank_append (by simp)] at hends
      revert hends
      decide
    have hends : Text.endsBlank b = false := by
      have hsplit : a ++ ' ' :: b = (a ++ [' ']) ++ b := by simp
      rw [← Text.endsBlank_append hne (a ++ [' ']), ← hsplit]
      exact hret.ends
    have hnil : Text.words b = [] := by simpa using congrArg List.length hwords
    exact Text.words_ne_nil_of_endsBlank hne hends hnil

/-- A prototype with a gap in front of each of its tokens; the return type and what stands
    between the parentheses may have gaps of their own. -/
def prototypeLayout (m : Markers) (g₀ g₁ g₂ g₃ g₄ g₅ ret name inner : Text) :
    List (Text × Text) :=
  [(g₀, m.exporting), (g₁, ret), (g₂, m.calling), (g₃, name),
    (g₄, '(' :: (inner ++ [')'])), (g₅, ";")]

/-- Neither the markers nor the name need to be more than words. -/
theorem collapse_prototypeLayout {m : Markers} (he : Text.IsInk m.exporting)
    (hc : Text.IsInk m.calling) {g₀ g₁ g₂ g₃ g₄ g₅ ret name inner : Text}
    (hgaps : Text.BlankGaps (prototypeLayout m g₀ g₁ g₂ g₃ g₄ g₅ ret name inner))
    (h₁ : g₁ ≠ []) (h₂ : g₂ ≠ []) (h₃ : g₃ ≠ []) (hret : Text.IsSolid ret)
    (hname : Text.IsInk name) :
    Text.collapse (Text.laid (prototypeLayout m g₀ g₁ g₂ g₃ g₄ g₅ ret name inner)) =
      m.exporting ++ ' ' :: (Text.squeeze ret ++ ' ' :: (m.calling ++ ' ' :: (name ++
        (Text.thin g₄ ++ '(' :: (Text.squeeze inner ++ ')' :: (Text.thin g₅ ++ [';'])))))) := by
  have hblank : isBlank '(' = false ∧ isBlank ')' = false ∧ isBlank ';' = false := by decide
  have hsolid : ∀ q ∈ prototypeLayout m g₀ g₁ g₂ g₃ g₄ g₅ ret name inner,
      Text.IsSolid q.2 := by
    intro q hq
    simp only [prototypeLayout, List.mem_cons, List.not_mem_nil, or_false] at hq
    rcases hq with rfl | rfl | rfl | rfl | rfl | rfl
    · exact he.isSolid
    · exact hret
    · exact hc.isSolid
    · exact hname.isSolid
    · refine ⟨by simp, by simpa [Text.startsBlank] using hblank.1, ?_⟩
      rw [← List.cons_append, Text.endsBlank_append (by simp)]
      simpa [Text.endsBlank] using hblank.2.1
    · exact Text.isSolid_of_ink (t := ";") (by decide) (by decide)
  have hsemi' : Text.squeeze ";".toList = [';'] := by decide
  have hparens : Text.squeeze ('(' :: (inner ++ [')'])) =
      '(' :: (Text.squeeze inner ++ [')']) := by
    rw [Text.squeeze_cons_ink hblank.1, Text.squeeze_append
      (Or.inr (by simpa [Text.startsBlank] using hblank.2.1)), Text.squeeze_ink (w := [')'])
      (by simpa using hblank.2.1)]
  rw [prototypeLayout, Text.collapse_laid_cons hgaps hsolid]
  simp only [List.map_cons, List.map_nil, Text.laid_cons, Text.laid_nil, List.append_nil,
    thin_of_ne_nil h₁, thin_of_ne_nil h₂, thin_of_ne_nil h₃, hsemi', hparens,
    he.squeeze_eq, hc.squeeze_eq, hname.squeeze_eq]
  simp

/-- A prototype is read from its beginning to its end if there is a word boundary in front
    of it. -/
theorem read?_prototypeLayout {m : Markers} (he : Text.IsInk m.exporting)
    (hc : Text.IsInk m.calling) (hword : m.exporting.head?.any isWord = true)
    {g₀ g₁ g₂ g₃ g₄ g₅ ret name inner : Text}
    (hgaps : Text.BlankGaps (prototypeLayout m g₀ g₁ g₂ g₃ g₄ g₅ ret name inner))
    (h₁ : g₁ ≠ []) (h₂ : g₂ ≠ []) (h₃ : g₃ ≠ []) (hret : Text.IsSolid ret)
    (hgo : ∀ c ∈ ret, Prototype.endsType c = false) (hname : IsName name)
    (hclosing : ')' ∉ inner) :
    Prototype.read? m none
        (Text.collapse (Text.laid (prototypeLayout m g₀ g₁ g₂ g₃ g₄ g₅ ret name inner))) =
      some (⟨Text.squeeze ret, name, Text.squeeze inner⟩, []) := by
  rw [collapse_prototypeLayout he hc hgaps h₁ h₂ h₃ hret hname.isInk,
    Prototype.read?_eq_some_iff]
  constructor
  · obtain ⟨c, e, hce⟩ := List.exists_cons_of_ne_nil he.1
    rw [hce] at hword
    rw [hce, Prototype.isBoundary]
    simpa using hword
  · refine ⟨_, rfl, Prototype.body?_eq_some_iff.2 ⟨_, rfl, ?_, ?_⟩⟩
    · apply isReturnType_of_isInk hc hret.squeeze ?_ hname (isGap_thin g₄)
      intro c hmem
      rcases Text.mem_of_mem_squeeze hmem with h | rfl
      · exact hgo c h
      · decide
    · rw [Prototype.declared?_eq_some_iff]
      refine ⟨Text.thin g₄, Text.thin g₅, isGap_thin g₄, isGap_thin g₅, hname, ?_, rfl⟩
      intro h
      rcases Text.mem_of_mem_squeeze h with h | h
      · exact hclosing h
      · exact absurd h (by decide)

section Prototype

variable {m : Markers} (he : IsIdentText m.exporting) (hc : IsIdentText m.calling)
  {g₀ g₁ g₂ g₃ g₄ g₅ ret name inner : Text}
  (hgaps : Text.BlankGaps (prototypeLayout m g₀ g₁ g₂ g₃ g₄ g₅ ret name inner))
  (h₁ : g₁ ≠ []) (h₂ : g₂ ≠ []) (h₃ : g₃ ≠ [])
  (hret : Text.IsSolid ret) (hgo : ∀ c ∈ ret, Prototype.endsType c = false)
  (hname : IsIdentText name)
  (hclosing : ')' ∉ inner) (hsemi : ';' ∉ inner)

include he hc hgaps hname

include hgo hsemi in
theorem isSealed_prototypeLayout :
    IsSealed (Text.laid (prototypeLayout m g₀ g₁ g₂ g₃ g₄ g₅ ret name inner)) := by
  have hsplit : Text.laid (prototypeLayout m g₀ g₁ g₂ g₃ g₄ g₅ ret name inner) =
      Text.laid [(g₀, m.exporting), (g₁, ret), (g₂, m.calling), (g₃, name), (g₄, [])] ++
        (('(' :: inner) ++ ')' :: (g₅ ++ [';'])) := by
    simp [prototypeLayout, Text.laid]
  have hgap₅ : IsBlankText g₅ := hgaps (g₅, ";") (by simp [prototypeLayout])
  have hend : IsSealed (')' :: (g₅ ++ [';'])) := by
    refine .cons (by decide) (fun h => absurd h (by decide)) ?_
    refine IsSealed.semicolon.append (hgap₅.not_mem (by decide)) ?_
    intro h
    exact absurd h (hgap₅.not_mem (by decide))
  rw [hsplit]
  have hsub := List.subset_append_left [g₀, g₁, g₂, g₃, g₄] [g₅]
  refine IsSealed.laid_append (hgaps.of_subset hsub) ?_ (hend.append ?_ (by simp))
  · intro p hp
    simp only [List.mem_cons, List.not_mem_nil, or_false] at hp
    rcases hp with rfl | rfl | rfl | rfl | rfl
    · exact notMem_of_isIdentText he
    · constructor
      · intro h
        exact absurd (hgo _ h) (by decide)
      · intro h
        exact absurd (hgo _ h) (by decide)
    · exact notMem_of_isIdentText hc
    · exact notMem_of_isIdentText hname
    · simp
  · rw [List.mem_cons, not_or]
    exact ⟨by decide, hsemi⟩

include h₁ h₂ h₃

theorem names_prototypeLayout :
    Text.names (Text.laid (prototypeLayout m g₀ g₁ g₂ g₃ g₄ g₅ ret name inner)) =
      m.exporting :: (Text.names ret ++ m.calling :: name :: Text.names inner) := by
  have hopening : isIdent '(' = false := by decide
  have hclosing : isIdent ')' = false := by decide
  have hsemi : Text.names ";".toList = [] := by decide
  have hparens : Text.names ('(' :: (inner ++ [')'])) = Text.names inner := by
    have hnil : Text.names [] = [] := rfl
    rw [Text.names_cons hopening, Text.names_append hclosing, hnil, List.append_nil]
  have hlaid := Text.words_map_laid (f := Text.blankOutside)
    (fun _ => Text.isBlank_blankOutside_of_isBlank) hgaps
  have hnames : ∀ t, Text.words (t.map Text.blankOutside) = Text.names t := fun _ => rfl
  simp only [hnames, prototypeLayout, List.flatMap_cons, List.flatMap_nil, hparens, hsemi,
    Text.names_of_isIdentText he, Text.names_of_isIdentText hc,
    Text.names_of_isIdentText hname] at hlaid
  rw [prototypeLayout, hlaid]
  · simp
  · -- the parenthesis and the semicolon are blanks between names
    simp only [List.isChain_cons_cons, List.isChain_singleton, and_true]
    refine ⟨Or.inl h₁, Or.inl h₂, Or.inl h₃, Or.inr (Or.inr ?_), Or.inr (Or.inr ?_)⟩
    · exact Text.isBlank_blankOutside hopening
    · decide

include hret hgo

include hclosing in
theorem prototypeTexts_prototypeLayout :
    prototypeTexts m 0 0 none
        (Text.collapse (Text.laid (prototypeLayout m g₀ g₁ g₂ g₃ g₄ g₅ ret name inner))) =
      [⟨Text.squeeze ret, name, Text.squeeze inner⟩] := by
  have hword : m.exporting.head?.any isWord = true := by
    obtain ⟨c, e, hce⟩ := List.exists_cons_of_ne_nil he.1
    simpa [hce] using isWord_of_isIdent (he.2 c (by simp [hce]))
  exact prototypeTexts_eq_singleton (read?_prototypeLayout (isInk_of_isIdentText he)
    (isInk_of_isIdentText hc) hword hgaps h₁ h₂ h₃ hret hgo (isName_of_isIdentText hname)
    hclosing)

include hsemi in
theorem typedefs_prototypeLayout :
    typedefs (Text.collapse
      (Text.laid (prototypeLayout m g₀ g₁ g₂ g₃ g₄ g₅ ret name inner))) = [] := by
  have hsealed := (isSealed_prototypeLayout he hc hgaps hgo hname hsemi).collapse
  have hend : Text.collapse
      (Text.laid (prototypeLayout m g₀ g₁ g₂ g₃ g₄ g₅ ret name inner)) =
      ((m.exporting ++ ' ' :: (Text.squeeze ret ++ ' ' :: (m.calling ++ ' ' :: (name ++
        (Text.thin g₄ ++ '(' :: Text.squeeze inner))))) ++ [')']) ++ Text.thin g₅ ++ [';'] := by
    rw [collapse_prototypeLayout (isInk_of_isIdentText he) (isInk_of_isIdentText hc) hgaps
      h₁ h₂ h₃ hret (isInk_of_isIdentText hname)]
    simp
  rw [hend] at hsealed ⊢
  exact typedefs_eq_nil_of_closing (isGap_thin g₅) hsealed

end Prototype

end HeaderBindings.Header
