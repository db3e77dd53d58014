import HeaderBindings.Proofs.Header.Isolation
import HeaderBindings.Proofs.Header.Layout

/-!
# Typedefs among the tokens of a header

A structure typedef is searched for in the characters of a text, and the search asks for
nothing in front of its first word.  So it can begin inside a longer word: a typedef is
also read in `mytypedef struct A A;`.

The tokens of a text are its names and its other characters that are not blank.  The places
in a list of tokens are its tails, and `Typedef.ofTokens?` reads the five tokens of a
typedef at a place, where a parameter says which words can open one.  In a normal form the
search finds a typedef at every place whose first word ends in `typedef`
(`typedefsFrom_eq_placed`): no place is lost when the search goes on behind the last typedef,
since no typedef begins within another.

The main result is `Conventions.listsTypedefs_extract`.  It also says when the word
`typedef` alone would open the same typedefs.
-/

namespace HeaderBindings

/-! ## 1. Tokens -/

namespace Text

/-- The maximal runs of identifier characters, and the other characters that are not
    blank. -/
def tokens : Text → List Text
  | [] => []
  | c :: t =>
    if isBlank c then tokens t
    else glue c (isIdent c && t.head?.any isIdent) (tokens t)

theorem tokens_blank {c : Char} (hc : isBlank c = true) (t : Text) :
    tokens (c :: t) = tokens t := by
  simp [tokens, hc]

/-- A character that touches no character of its name is a token of its own. -/
theorem tokens_cons_of_apart {c : Char} {t : Text} (hc : isBlank c = false)
    (hapart : (isIdent c && t.head?.any isIdent) = false) :
    tokens (c :: t) = [c] :: tokens t := by
  rw [tokens, hc, hapart]
  cases tokens t <;> rfl

/-- A character of a name is put in front of the rest of the name. -/
theorem exists_tokens_of_touching {c d : Char} (hc : isIdent c = true) (hd : isIdent d = true)
    (t : Text) :
    ∃ v vs, tokens (d :: t) = v :: vs ∧ tokens (c :: d :: t) = (c :: v) :: vs := by
  cases hv : tokens (d :: t) with
  | nil =>
    rw [tokens, isBlank_of_isIdent hd] at hv
    cases htail : tokens t with
    | nil => simp [htail, glue] at hv
    | cons w ws =>
      simp only [htail, glue, Bool.false_eq_true, if_false] at hv
      split at hv <;> cases hv
  | cons v vs =>
    refine ⟨v, vs, rfl, ?_⟩
    rw [tokens, isBlank_of_isIdent hc, hv]
    simp [hc, hd, glue]

theorem tokens_ident_append {w t : Text} (hw : IsIdentText w)
    (ht : t.head?.any isIdent = false) : tokens (w ++ t) = w :: tokens t := by
  induction w with
  | nil => exact absurd rfl hw.1
  | cons c w ih =>
    have hc := hw.2 c List.mem_cons_self
    cases w with
    | nil => exact tokens_cons_of_apart (isBlank_of_isIdent hc) (by simp [ht])
    | cons d w =>
      have hrest : IsIdentText (d :: w) :=
        ⟨by simp, fun e he => hw.2 e (List.mem_cons_of_mem _ he)⟩
      obtain ⟨v, vs, hv, htokens⟩ :=
        exists_tokens_of_touching hc (hrest.2 d List.mem_cons_self) (w ++ t)
      obtain ⟨rfl, rfl⟩ := List.cons_eq_cons.1 (hv.symm.trans (ih hrest))
      exact htokens

/-- What stands in front of the first token is blank, and a name among the tokens is as
    long as it can be. -/
theorem exists_of_tokens_eq_cons {t w : Text} {ws : List Text} (h : tokens t = w :: ws) :
    ∃ b rest, IsBlankText b ∧ t = b ++ (w ++ rest) ∧ w ≠ [] ∧ tokens rest = ws ∧
      (IsIdentText w → rest.head?.any isIdent = false) := by
  induction t generalizing w ws with
  | nil => cases h
  | cons c t ih =>
    have hnil : IsBlankText [] := by simp [IsBlankText]
    by_cases hc : isBlank c = true
    · rw [tokens_blank hc] at h
      obtain ⟨b, rest, hb, rfl, hrest⟩ := ih h
      refine ⟨c :: b, rest, ?_, rfl, hrest⟩
      intro d hd
      rcases List.mem_cons.1 hd with rfl | hd
      · exact hc
      · exact hb d hd
    have hc : isBlank c = false := Bool.eq_false_iff.2 hc
    by_cases htouch : (isIdent c && t.head?.any isIdent) = true
    · -- the first token goes on in the first token of the rest
      obtain ⟨hident, hhead⟩ := Bool.and_eq_true_iff.1 htouch
      cases t with
      | nil => cases hhead
      | cons d t =>
        have hd : isIdent d = true := by simpa using hhead
        obtain ⟨v, vs, hv, htokens⟩ := exists_tokens_of_touching hident hd t
        obtain ⟨rfl, rfl⟩ := List.cons_eq_cons.1 (htokens.symm.trans h)
        obtain ⟨b, rest, hb, heq, hne, hrest, hend⟩ := ih hv
        cases b with
        | nil =>
          refine ⟨[], rest, hnil, by rw [heq]; rfl, by simp, hrest, ?_⟩
          intro hw
          exact hend ⟨hne, fun e he => hw.2 e (List.mem_cons_of_mem _ he)⟩
        | cons e b =>
          obtain ⟨rfl, -⟩ := List.cons_eq_cons.1 heq
          have hblank := hb d List.mem_cons_self
          rw [isBlank_of_isIdent hd] at hblank
          cases hblank
    · have hapart := Bool.eq_false_iff.2 htouch
      obtain ⟨rfl, rfl⟩ := List.cons_eq_cons.1 ((tokens_cons_of_apart hc hapart).symm.trans h)
      refine ⟨[], t, hnil, rfl, by simp, rfl, ?_⟩
      intro hw
      rwa [hw.2 c List.mem_cons_self, Bool.true_and] at hapart

end Text

/-! ## 2. Tokens of a normal form -/

namespace Header

/-- In a normal form at most one space stands between two tokens. -/
theorem isGap_of_squeeze {b t : Text} (hb : IsBlankText b)
    (h : Text.squeeze (b ++ t) = b ++ t) : IsGap b := by
  cases b with
  | nil => exact Or.inl rfl
  | cons c b =>
    obtain ⟨rfl, hstart⟩ := (Text.squeeze_cons_eq_iff.1 h).1 (hb c List.mem_cons_self)
    cases b with
    | nil => exact Or.inr rfl
    | cons d b =>
      have hd : isBlank d = false := by simpa [Text.startsBlank] using hstart
      rw [hb d (by simp)] at hd
      cases hd

/-- A normal form begins with its first token, up to a gap in front. -/
theorem exists_gap_of_tokens {t w : Text} {ws : List Text} (ht : Text.squeeze t = t)
    (h : Text.tokens t = w :: ws) :
    ∃ s rest, IsGap s ∧ t = s ++ (w ++ rest) ∧ Text.squeeze rest = rest ∧
      Text.tokens rest = ws ∧ (IsIdentText w → rest.head?.any isIdent = false) := by
  obtain ⟨s, rest, hs, rfl, -, hrest, hend⟩ := Text.exists_of_tokens_eq_cons h
  exact ⟨s, rest, isGap_of_squeeze hs ht, rfl, Text.squeeze_right (Text.squeeze_right ht), hrest,
    hend⟩

/-- Between two names stands a space. -/
theorem exists_space_of_tokens {t w : Text} {ws : List Text} (ht : Text.squeeze t = t)
    (hend : t.head?.any isIdent = false) (hw : IsIdentText w) (h : Text.tokens t = w :: ws) :
    ∃ rest, t = ' ' :: (w ++ rest) ∧ Text.squeeze rest = rest ∧ Text.tokens rest = ws ∧
      rest.head?.any isIdent = false := by
  obtain ⟨s, rest, hs, rfl, hsqueeze, hrest, hends⟩ := exists_gap_of_tokens ht h
  rcases hs with rfl | rfl
  · obtain ⟨c, w, rfl⟩ := List.exists_cons_of_ne_nil hw.1
    simp [hw.2 c List.mem_cons_self] at hend
  · exact ⟨rest, rfl, hsqueeze, hrest, hends hw⟩

/-! ## 3. Typedefs at places -/

namespace Typedef

/-- The tokens of a typedef that is opened by the given word. -/
def tokens (first : Text) (d : Typedef) : List Text :=
  [first, "struct", d.tag, d.aliasName, ";"]

/-- The typedef that a list of tokens begins with, when it begins with a word that can open
    one. -/
def ofTokens? (opens : Text → Bool) : List Text → Option Typedef
  | first :: second :: tag :: aliasName :: last :: _ =>
    if opens first ∧ second = "struct" ∧ IsIdentText tag ∧ IsIdentText aliasName ∧
        last = ";" then
      some ⟨tag, aliasName⟩
    else none
  | _ => none

/-- The typedefs at the places of a list of tokens, in order. -/
def placed (opens : Text → Bool) (ts : List Text) : List Typedef :=
  ts.tails.filterMap (ofTokens? opens)

/-- The word that opens a typedef in C. -/
def isKeyword (w : Text) : Bool := w = "typedef"

/-- The words that open a typedef for the search. -/
def endsInKeyword (w : Text) : Bool := List.isSuffixOf "typedef".toList w

/-- The words that open a typedef for the search only. -/
def isLonger (w : Text) : Bool := endsInKeyword w && !isKeyword w

theorem endsInKeyword_singleton (c : Char) : endsInKeyword [c] = false := by
  simp [endsInKeyword, List.isSuffixOf, List.isPrefixOf]

theorem endsInKeyword_cons {c : Char} {w : Text} (h : c :: w ≠ "typedef".toList) :
    endsInKeyword (c :: w) = endsInKeyword w := by
  rw [Bool.eq_iff_iff, endsInKeyword, endsInKeyword, List.isSuffixOf_iff_suffix,
    List.isSuffixOf_iff_suffix, List.suffix_cons_iff]
  exact or_iff_right (Ne.symm h)

variable {opens : Text → Bool} {ts : List Text} {d : Typedef}

/-- Of its first word a typedef only depends on whether it can open one. -/
theorem ofTokens?_congr {opens' : Text → Bool} {v w : Text} (h : opens v = opens' w)
    (ts : List Text) : ofTokens? opens (v :: ts) = ofTokens? opens' (w :: ts) := by
  rcases ts with _ | ⟨second, _ | ⟨tag, _ | ⟨aliasName, _ | ⟨last, ts⟩⟩⟩⟩
  all_goals simp only [ofTokens?, h]

theorem ofTokens?_eq_some_iff : ofTokens? opens ts = some d ↔
    IsIdentText d.tag ∧ IsIdentText d.aliasName ∧
      ∃ first, opens first = true ∧ d.tokens first <+: ts := by
  constructor
  · intro h
    unfold ofTokens? at h
    split at h
    · rename_i first second tag aliasName last rest
      split at h
      · rename_i hall
        obtain ⟨hopens, rfl, htag, halias, rfl⟩ := hall
        obtain rfl := Option.some.inj h
        exact ⟨htag, halias, first, hopens, rest, rfl⟩
      · cases h
    · cases h
  · rintro ⟨htag, halias, first, hopens, rest, rfl⟩
    exact if_pos ⟨hopens, rfl, htag, halias, rfl⟩

theorem ofTokens?_eq_none {w : Text} (h : opens w = false) (ts : List Text) :
    ofTokens? opens (w :: ts) = none := by
  rw [Option.eq_none_iff_forall_ne_some]
  intro d hd
  obtain ⟨-, -, first, hopens, hprefix⟩ := ofTokens?_eq_some_iff.1 hd
  obtain ⟨rfl, -⟩ := List.cons_prefix_cons.1 hprefix
  rw [h] at hopens
  cases hopens

theorem placed_cons (opens : Text → Bool) (w : Text) (ts : List Text) :
    placed opens (w :: ts) = (ofTokens? opens (w :: ts)).toList ++ placed opens ts := by
  rw [placed, List.tails_cons, List.filterMap_cons]
  cases ofTokens? opens (w :: ts) <;> rfl

theorem mem_placed_iff : d ∈ placed opens ts ↔
    IsIdentText d.tag ∧ IsIdentText d.aliasName ∧
      ∃ first, opens first = true ∧ d.tokens first <:+: ts := by
  simp only [placed, List.mem_filterMap, List.mem_tails, ofTokens?_eq_some_iff]
  constructor
  · rintro ⟨us, hus, htag, halias, first, hopens, hprefix⟩
    exact ⟨htag, halias, first, hopens, hprefix.isInfix.trans hus.isInfix⟩
  · rintro ⟨htag, halias, first, hopens, a, b, rfl⟩
    exact ⟨d.tokens first ++ b, ⟨a, by simp⟩, htag, halias, first, hopens, b, rfl⟩

theorem mk_mem_placed_iff {name : Text} : ⟨name, name⟩ ∈ placed opens ts ↔
    IsIdentText name ∧
      ∃ first, opens first = true ∧ (Typedef.mk name name).tokens first <:+: ts := by
  rw [mem_placed_iff, ← and_assoc, and_self]

/-- The search finds the typedefs that the keyword opens and those that longer words open. -/
theorem placed_endsInKeyword_perm (ts : List Text) :
    (placed endsInKeyword ts).Perm (placed isKeyword ts ++ placed isLonger ts) := by
  induction ts with
  | nil => exact .nil
  | cons w ts ih =>
    rw [placed_cons, placed_cons, placed_cons]
    by_cases hword : isKeyword w = true
    · have hends : endsInKeyword w = isKeyword w := by
        obtain rfl := of_decide_eq_true hword
        decide
      have hlonger : isLonger w = false := by simp [isLonger, hword]
      rw [ofTokens?_congr hends, ofTokens?_eq_none hlonger, List.append_assoc]
      exact ih.append_left _
    · have hends : endsInKeyword w = isLonger w := by simp [isLonger, hword]
      rw [ofTokens?_congr hends, ofTokens?_eq_none (Bool.eq_false_iff.2 hword)]
      exact (ih.append_left _).trans (List.perm_append_comm_assoc _ _ _)

/-- No typedef begins within another. -/
theorem placed_tokens (htag : IsIdentText d.tag) (halias : IsIdentText d.aliasName)
    (ts : List Text) :
    placed endsInKeyword (d.tokens "typedef" ++ ts) = d :: placed endsInKeyword ts := by
  have hfirst : ofTokens? endsInKeyword (d.tokens "typedef" ++ ts) = some d :=
    ofTokens?_eq_some_iff.2 ⟨htag, halias, "typedef", by decide, List.prefix_append _ _⟩
  have hstruct : ofTokens? endsInKeyword
      ("struct".toList :: d.tag :: d.aliasName :: (";" : Text) :: ts) = none :=
    ofTokens?_eq_none (by decide) _
  have htagged : ofTokens? endsInKeyword (d.tag :: d.aliasName :: (";" : Text) :: ts) = none := by
    rw [Option.eq_none_iff_forall_ne_some]
    intro e he
    obtain ⟨hident, -, first, -, rest, heq⟩ := ofTokens?_eq_some_iff.1 he
    simp only [tokens, List.cons_append, List.cons.injEq] at heq
    rw [heq.2.2.1] at hident
    exact absurd hident (by decide)
  have haliased : ofTokens? endsInKeyword (d.aliasName :: (";" : Text) :: ts) = none := by
    rw [Option.eq_none_iff_forall_ne_some]
    intro e he
    obtain ⟨-, -, first, -, rest, heq⟩ := ofTokens?_eq_some_iff.1 he
    simp only [tokens, List.cons_append, List.cons.injEq] at heq
    exact absurd heq.2.1 (by decide)
  have hlast : ofTokens? endsInKeyword ((";" : Text) :: ts) = none :=
    ofTokens?_eq_none (by decide) ts
  simp only [tokens, List.cons_append, List.nil_append] at hfirst ⊢
  simp only [placed_cons, hfirst, hstruct, htagged, haliased, hlast]
  rfl

end Typedef

/-! ## 4. The search and the places -/

theorem isIdentText_of_isName {w : Text} (hascii : IsAscii w) (hw : IsName w) :
    IsIdentText w := by
  refine ⟨hw.1, ?_⟩
  intro c hc
  rw [← isWord_eq_isIdent (hascii c hc)]
  exact hw.2 c hc

/-- What is read as a typedef has its tokens. -/
theorem Typedef.tokens_of_read? {t tail : Text} {d : Typedef} (hascii : IsAscii t)
    (h : Typedef.read? t = some (d, tail)) :
    IsIdentText d.tag ∧ IsIdentText d.aliasName ∧
      Text.tokens t = d.tokens "typedef" ++ Text.tokens tail := by
  obtain ⟨s, hs, htag, halias, rfl⟩ := Typedef.read?_eq_some_iff.1 h
  have htag : IsIdentText d.tag :=
    isIdentText_of_isName (fun c hc => hascii c (by simp [hc])) htag
  have halias : IsIdentText d.aliasName :=
    isIdentText_of_isName (fun c hc => hascii c (by simp [hc])) halias
  refine ⟨htag, halias, ?_⟩
  have hsplit : (Typedef.opening ++ (d.tag ++ ' ' :: (d.aliasName ++ (s ++ ';' :: tail))) : Text) =
      "typedef".toList ++ ' ' :: ("struct".toList ++ ' ' ::
        (d.tag ++ ' ' :: (d.aliasName ++ (s ++ ';' :: tail)))) := rfl
  have hlast : Text.tokens (s ++ ';' :: tail) = (";" : Text) :: Text.tokens tail := by
    rcases hs with rfl | rfl
    · exact Text.tokens_cons_of_apart (by decide) (by rfl)
    · rw [List.singleton_append, Text.tokens_blank (by decide)]
      exact Text.tokens_cons_of_apart (by decide) (by rfl)
  have hend : (s ++ ';' :: tail).head?.any isIdent = false := by
    rcases hs with rfl | rfl <;> rfl
  rw [hsplit, Text.tokens_ident_append (by decide) rfl, Text.tokens_blank (by decide),
    Text.tokens_ident_append (by decide) rfl, Text.tokens_blank (by decide),
    Text.tokens_ident_append htag rfl, Text.tokens_blank (by decide),
    Text.tokens_ident_append halias hend, hlast]
  rfl

theorem Typedef.exists_append_of_read? {c : Char} {t tail : Text} {d : Typedef}
    (h : Typedef.read? (c :: t) = some (d, tail)) : ∃ a, t = a ++ tail := by
  obtain ⟨s, -, -, -, heq⟩ := Typedef.read?_eq_some_iff.1 h
  have heq : c :: t =
      (Typedef.opening ++ (d.tag ++ ' ' :: (d.aliasName ++ (s ++ [';'])))) ++ tail := by
    rw [heq]
    simp only [List.append_assoc, List.cons_append, List.nil_append]
  rcases List.cons_eq_append_iff.1 heq with ⟨hnil, -⟩ | ⟨a, -, ha⟩
  · exact absurd (List.append_eq_nil_iff.1 hnil).1 (by decide)
  · exact ⟨a, ha⟩

/-- A normal form with the tokens of a typedef in front is read as that typedef. -/
theorem Typedef.exists_read? {t : Text} {d : Typedef} (ht : Text.squeeze t = t)
    (hstart : Text.startsBlank t = false) (htag : IsIdentText d.tag)
    (halias : IsIdentText d.aliasName) (h : d.tokens "typedef" <+: Text.tokens t) :
    ∃ tail, Typedef.read? t = some (d, tail) := by
  obtain ⟨ws, hws⟩ := h
  obtain ⟨s₀, t₁, hs₀, rfl, ht₁, h₁, hend₁⟩ := exists_gap_of_tokens ht hws.symm
  have hs₀ : s₀ = [] := by
    rcases hs₀ with rfl | rfl
    · rfl
    · cases hstart
  obtain ⟨t₂, rfl, ht₂, h₂, hend₂⟩ :=
    exists_space_of_tokens ht₁ (hend₁ (by decide)) (by decide) h₁
  obtain ⟨t₃, rfl, ht₃, h₃, hend₃⟩ := exists_space_of_tokens ht₂ hend₂ htag h₂
  obtain ⟨t₄, rfl, ht₄, h₄, -⟩ := exists_space_of_tokens ht₃ hend₃ halias h₃
  obtain ⟨s₅, t₅, hs₅, rfl, -, -, -⟩ := exists_gap_of_tokens ht₄ h₄
  refine ⟨t₅, Typedef.read?_eq_some_iff.2 ⟨s₅, hs₅, isName_of_isIdentText htag,
    isName_of_isIdentText halias, ?_⟩⟩
  rw [hs₀]
  rfl

theorem Typedef.ofTokens?_eq_none_of_read? {opens : Text → Bool} {t : Text} {ws : List Text}
    (ht : Text.squeeze t = t) (hstart : Text.startsBlank t = false)
    (hread : Typedef.read? t = none) (h : Text.tokens t = "typedef".toList :: ws) :
    Typedef.ofTokens? opens ("typedef".toList :: ws) = none := by
  rw [Option.eq_none_iff_forall_ne_some]
  intro d hd
  obtain ⟨htag, halias, first, -, hprefix⟩ := Typedef.ofTokens?_eq_some_iff.1 hd
  obtain ⟨rfl, -⟩ := List.cons_prefix_cons.1 hprefix
  rw [← h] at hprefix
  obtain ⟨tail, hsome⟩ := Typedef.exists_read? ht hstart htag halias hprefix
  rw [hread] at hsome
  cases hsome

/-- One character more in front, where nothing is read, adds no place and takes none away. -/
theorem placed_tokens_cons {c : Char} {t : Text} (hsqueeze : Text.squeeze (c :: t) = c :: t)
    (hread : Typedef.read? (c :: t) = none) :
    Typedef.placed Typedef.endsInKeyword (Text.tokens (c :: t)) =
      Typedef.placed Typedef.endsInKeyword (Text.tokens t) := by
  by_cases hc : isBlank c = true
  · rw [Text.tokens_blank hc]
  have hc : isBlank c = false := Bool.eq_false_iff.2 hc
  by_cases htouch : (isIdent c && t.head?.any isIdent) = true
  · obtain ⟨hident, hhead⟩ := Bool.and_eq_true_iff.1 htouch
    cases t with
    | nil => cases hhead
    | cons d t =>
      obtain ⟨v, vs, hv, htokens⟩ := Text.exists_tokens_of_touching hident
        (show isIdent d = true by simpa using hhead) t
      rw [htokens, hv, Typedef.placed_cons, Typedef.placed_cons]
      congr 2
      by_cases hword : c :: v = "typedef".toList
      · -- the word is new, and what follows it has not the tokens of a typedef
        have hshort : v = "ypedef".toList := (List.cons_eq_cons.1 hword).2
        have hstart : Text.startsBlank (c :: d :: t) = false := by
          simpa [Text.startsBlank] using hc
        rw [hword] at htokens ⊢
        rw [Typedef.ofTokens?_eq_none_of_read? hsqueeze hstart hread htokens,
          Typedef.ofTokens?_eq_none (by rw [hshort]; decide)]
      · exact Typedef.ofTokens?_congr (Typedef.endsInKeyword_cons hword) vs
  · rw [Text.tokens_cons_of_apart hc (Bool.eq_false_iff.2 htouch), Typedef.placed_cons,
      Typedef.ofTokens?_eq_none (Typedef.endsInKeyword_singleton c)]
    rfl

/-- **The search finds the typedefs at the places,** from the first token behind the skipped
    characters on. -/
theorem typedefsFrom_eq_placed {t : Text} (hsqueeze : Text.squeeze t = t) (hascii : IsAscii t)
    (skip : Nat) : typedefsFrom skip t =
      Typedef.placed Typedef.endsInKeyword (Text.tokens (t.drop skip)) := by
  induction t generalizing skip with
  | nil =>
    rw [List.drop_nil]
    rfl
  | cons c t ih =>
    have ih := ih (Text.squeeze_cons_eq_iff.1 hsqueeze).2
      fun d hd => hascii d (List.mem_cons_of_mem _ hd)
    cases skip with
    | succ skip => exact ih skip
    | zero =>
      cases hread : Typedef.read? (c :: t) with
      | none =>
        rw [typedefsFrom, hread, List.drop_zero, placed_tokens_cons hsqueeze hread]
        exact ih 0
      | some r =>
        obtain ⟨d, tail⟩ := r
        obtain ⟨htag, halias, htokens⟩ := Typedef.tokens_of_read? hascii hread
        rw [typedefsFrom, hread, List.drop_zero, htokens, Typedef.placed_tokens htag halias]
        obtain ⟨a, rfl⟩ := Typedef.exists_append_of_read? hread
        have hdrop : (a ++ tail).drop ((a ++ tail).length - tail.length) = tail := by simp
        show d :: typedefsFrom ((a ++ tail).length - tail.length) (a ++ tail) = _
        rw [ih, hdrop]

end Header

/-! ## 5. Reading a header -/

open Header (Typedef)

/-- What is found in a header are the typedefs at the places of its tokens, where `opens`
    says which words open a typedef. -/
structure Declarations.ListsTypedefs (found : Declarations) (opens : Text → Bool)
    (ts : List Text) : Prop where
  /-- The opaque types are the names that stand somewhere both as the tag and as the alias. -/
  opaqueTypes : ∀ name, name ∈ found.opaqueTypes.nativeNames ↔
    IsIdentText name ∧
      ∃ first, opens first = true ∧ (Typedef.mk name name).tokens first <:+: ts
  /-- The places where tag and alias are different names are counted. -/
  otherTypedefs : found.otherTypedefs = (Typedef.placed opens ts).countP (!·.isHandle)

/-- A typedef that a longer word opens adds nothing: it declares an opaque type that the
    keyword declares too. -/
def Header.Typedef.KeywordSuffices (ts : List Text) : Prop :=
  ∀ d ∈ Typedef.placed Typedef.isLonger ts,
    d.isHandle = true ∧ d ∈ Typedef.placed Typedef.isKeyword ts

instance (ts : List Text) : Decidable (Typedef.KeywordSuffices ts) :=
  inferInstanceAs (Decidable (∀ d ∈ Typedef.placed Typedef.isLonger ts,
    d.isHandle = true ∧ d ∈ Typedef.placed Typedef.isKeyword ts))

theorem Header.Typedef.eq_mk_of_isHandle {d : Typedef} (h : d.isHandle = true) :
    d = ⟨d.aliasName, d.aliasName⟩ := by
  obtain ⟨tag, aliasName⟩ := d
  obtain rfl : tag = aliasName := of_decide_eq_true h
  rfl

theorem Declarations.ListsTypedefs.isKeyword_iff {found : Declarations} {ts : List Text}
    (hends : found.ListsTypedefs Typedef.endsInKeyword ts) :
    found.ListsTypedefs Typedef.isKeyword ts ↔ Typedef.KeywordSuffices ts := by
  have hperm := Typedef.placed_endsInKeyword_perm ts
  have hnative : ∀ name, name ∈ found.opaqueTypes.nativeNames ↔
      ⟨name, name⟩ ∈ Typedef.placed Typedef.isKeyword ts ∨
        ⟨name, name⟩ ∈ Typedef.placed Typedef.isLonger ts := by
    intro name
    rw [hends.opaqueTypes, ← Typedef.mk_mem_placed_iff, hperm.mem_iff, List.mem_append]
  have hcount : found.otherTypedefs = (Typedef.placed Typedef.isKeyword ts).countP (!·.isHandle) +
      (Typedef.placed Typedef.isLonger ts).countP (!·.isHandle) := by
    rw [hends.otherTypedefs, hperm.countP_eq, List.countP_append]
  constructor
  · intro h d hd
    have hnone : (Typedef.placed Typedef.isLonger ts).countP (!·.isHandle) = 0 := by
      have := h.otherTypedefs
      omega
    have hhandle : d.isHandle = true := by
      simpa using List.countP_eq_zero.1 hnone d hd
    refine ⟨hhandle, ?_⟩
    rw [Typedef.eq_mk_of_isHandle hhandle] at hd ⊢
    rw [Typedef.mk_mem_placed_iff, ← h.opaqueTypes, hnative]
    exact Or.inr hd
  · intro h
    constructor
    · intro name
      rw [hnative, ← Typedef.mk_mem_placed_iff]
      exact or_iff_left_of_imp fun hlonger => (h _ hlonger).2
    · have hnone : (Typedef.placed Typedef.isLonger ts).countP (!·.isHandle) = 0 := by
        rw [List.countP_eq_zero]
        intro d hd
        simp [(h d hd).1]
      omega

namespace Conventions

theorem listsTypedefs_endsInKeyword (x : Conventions) {header : Text}
    (hascii : IsAscii header) :
    (x.extract header).declarations.ListsTypedefs Typedef.endsInKeyword
      (Text.tokens (Header.normalize header)) := by
  have hplaced : Header.typedefs (Header.normalize header) =
      Typedef.placed Typedef.endsInKeyword (Text.tokens (Header.normalize header)) :=
    Header.typedefsFrom_eq_placed (Text.squeeze_collapse _) (Header.isAscii_normalize hascii) 0
  constructor
  · intro name
    rw [mem_nativeNames_extract, hplaced, ← Typedef.mk_mem_placed_iff]
    constructor
    · rintro ⟨d, hd, hhandle, rfl⟩
      rwa [Typedef.eq_mk_of_isHandle hhandle] at hd
    · intro hname
      exact ⟨⟨name, name⟩, hname, decide_eq_true rfl, rfl⟩
  · rw [← hplaced, List.countP_eq_length_filter]
    rfl

/-- **Typedefs are recognised by the end of their first word.**  The opaque types of an ASCII
    header, and the number of its other typedefs, are those of all places where a word that
    ends in `typedef` opens a typedef.  Exactly when longer words add nothing, they are those
    of the places where the word `typedef` itself does. -/
theorem listsTypedefs_extract (x : Conventions) {header : Text} (hascii : IsAscii header) :
    (x.extract header).declarations.ListsTypedefs Typedef.endsInKeyword
      (Text.tokens (Header.normalize header)) ∧
    ((x.extract header).declarations.ListsTypedefs Typedef.isKeyword
      (Text.tokens (Header.normalize header)) ↔
      Typedef.KeywordSuffices (Text.tokens (Header.normalize header))) :=
  ⟨listsTypedefs_endsInKeyword x hascii, (listsTypedefs_endsInKeyword x hascii).isKeyword_iff⟩

/-- A header in which a longer word declares an opaque type that the keyword declares too. -/
def longerWordHeader : Text :=
  "mytypedef struct A A; typedef struct A A; typedef struct A B;"

theorem listsTypedefs_extract_of_longerWord :
    (builtin.extract longerWordHeader).declarations.ListsTypedefs Typedef.endsInKeyword
        (Text.tokens (Header.normalize longerWordHeader)) ∧
      (builtin.extract longerWordHeader).declarations.ListsTypedefs Typedef.isKeyword
        (Text.tokens (Header.normalize longerWordHeader)) := by
  have hascii : IsAscii longerWordHeader := by decide
  have hsuffices :
      Typedef.KeywordSuffices (Text.tokens (Header.normalize longerWordHeader)) := by
    decide +kernel
  obtain ⟨hends, hword⟩ := listsTypedefs_extract builtin hascii
  exact ⟨hends, hword.2 hsuffices⟩

/-- A longer word declares an opaque type that the keyword does not declare. -/
theorem not_forall_listsTypedefs_isKeyword :
    ¬ ∀ (x : Conventions) (header : Text), IsAscii header →
      (∀ name ∈ (x.extract header).declarations.opaqueTypes.nativeNames,
        Identifier.startsWithDigit name = false) →
      (x.extract header).declarations.ListsTypedefs Typedef.isKeyword
        (Text.tokens (Header.normalize header)) := by
  intro h
  have hascii : IsAscii "mytypedef struct Foo Foo;".toList := by decide
  have hlists := h builtin "mytypedef struct Foo Foo;" hascii (by decide +kernel)
  have hsuffices := (listsTypedefs_endsInKeyword builtin hascii).isKeyword_iff.1 hlists
  exact absurd hsuffices (by decide +kernel)

end Conventions

end HeaderBindings
