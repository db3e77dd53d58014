import HeaderBindings.Proofs.Parameter.Blanks

/-!
# Writing parameter lists

The converse of reading a parameter list.  A parameter is a type with a name, a type alone,
or a callback (`WrittenParam`), and may be written as any of many texts (`IsWritten`): stars,
`const` and blanks stand anywhere around the words of a type, blanks anywhere in a callback
but inside `(*`, and its arguments are any text with balanced parentheses.

Two things are proved of every such text.  The list is not cut inside of it (`IsUncut`), and
its declarator is read as the parameter it was written for.  So a list is read as the
parameters it was written for, whatever blank segments stand between them
(`params_joinWith`).
-/

namespace HeaderBindings

/-! ## 1. Tokens of a type -/

/-- The characters that cut a list or change its depth. -/
def listMarks : List Char := [',', '(', ')']

theorem not_mem_listMarks_of_isBlank {c : Char} (hc : isBlank c = true) : c ∉ listMarks := by
  have hmarks : ∀ d ∈ listMarks, isBlank d = false := by decide
  exact fun hmem => ne_of_isBlank hc (hmarks c hmem) rfl

structure IsDeclaratorWord (w : Text) : Prop where
  isInk : Text.IsInk w
  star : '*' ∉ w
  marks : ∀ c ∈ w, c ∉ listMarks
  ne_const : w ≠ constWord

instance (w : Text) : Decidable (IsDeclaratorWord w) :=
  decidable_of_iff (Text.IsInk w ∧ '*' ∉ w ∧ (∀ c ∈ w, c ∉ listMarks) ∧ w ≠ constWord)
    ⟨fun ⟨h₁, h₂, h₃, h₄⟩ => ⟨h₁, h₂, h₃, h₄⟩, fun ⟨h₁, h₂, h₃, h₄⟩ => ⟨h₁, h₂, h₃, h₄⟩⟩

theorem IsDeclaratorWord.isTypeWord {w : Text} (h : IsDeclaratorWord w) : IsTypeWord w :=
  ⟨h.isInk, h.star, h.ne_const⟩

namespace Declarator

inductive Token where
  | word (w : Text)
  | const
  | star
  | blank (c : Char)
  deriving DecidableEq, Repr

namespace Token

def text : Token → Text
  | word w => w
  | const => constWord
  | star => ['*']
  | blank c => [c]

/-- The word of a token that names the type. -/
def word? : Token → Option Text
  | word w => some w
  | _ => none

/-- Would the token run into a word beside it? -/
def isSolid : Token → Bool
  | word _ | const => true
  | star | blank _ => false

def IsWellFormed : Token → Prop
  | word w => IsDeclaratorWord w
  | blank c => isBlank c = true
  | const | star => True

instance (k : Token) : Decidable k.IsWellFormed := by
  cases k with
  | word w => exact inferInstanceAs (Decidable (IsDeclaratorWord w))
  | blank c => exact inferInstanceAs (Decidable (isBlank c = true))
  | const => exact inferInstanceAs (Decidable True)
  | star => exact inferInstanceAs (Decidable True)

end Token

/-- The tokens written out. -/
def written (ks : List Token) : Text := ks.flatMap Token.text

/-- What the tokens say, wherever they stand. -/
def specifiers (ks : List Token) : Specifiers :=
  ⟨ks.filterMap Token.word?, ks.count .star, Token.const ∈ ks⟩

/-- Well-formed tokens in which no word touches another one. -/
structure AreApart (ks : List Token) : Prop where
  wellFormed : ∀ k ∈ ks, k.IsWellFormed
  apart : ks.IsChain fun k l => ¬ (k.isSolid = true ∧ l.isSolid = true)

instance (ks : List Token) : Decidable (AreApart ks) :=
  decidable_of_iff ((∀ k ∈ ks, k.IsWellFormed) ∧
      ks.IsChain fun k l => ¬ (k.isSolid = true ∧ l.isSolid = true))
    ⟨fun ⟨h₁, h₂⟩ => ⟨h₁, h₂⟩, fun ⟨h₁, h₂⟩ => ⟨h₁, h₂⟩⟩

theorem AreApart.tail {k : Token} {ks : List Token} (h : AreApart (k :: ks)) : AreApart ks :=
  ⟨fun l hl => h.wellFormed l (List.mem_cons_of_mem k hl), h.apart.tail⟩

end Declarator

/-! ## 2. Reading tokens -/

namespace Declarator

theorem AreApart.startsApart {k : Token} {ks : List Token} (h : AreApart (k :: ks))
    (hk : k.isSolid = true) : StartsApart (written ks) := by
  intro c hc
  cases ks with
  | nil => cases hc
  | cons l ks =>
    have hl : ¬ (k.isSolid = true ∧ l.isSolid = true) := (List.isChain_cons_cons.1 h.apart).1
    cases l with
    | word w => exact absurd ⟨hk, rfl⟩ hl
    | const => exact absurd ⟨hk, rfl⟩ hl
    | star =>
      obtain rfl : '*' = c := Option.some.inj hc
      exact Or.inr rfl
    | blank d =>
      obtain rfl : d = c := Option.some.inj hc
      exact Or.inl (h.wellFormed (.blank d) (by simp))

/-- **Tokens are read for what they say.** -/
theorem ofText_written {ks : List Token} (h : AreApart ks) :
    Specifiers.ofText (written ks) = specifiers ks := by
  induction ks with
  | nil => rfl
  | cons k ks ih =>
    have hk := h.wellFormed k List.mem_cons_self
    have hwritten : written (k :: ks) = k.text ++ written ks := rfl
    have hrest := ih h.tail
    rw [hwritten]
    cases k with
    | word w =>
      rw [Token.text, Specifiers.ofText_word hk.isTypeWord (h.startsApart rfl), hrest]
      simp [specifiers, Token.word?]
    | const =>
      rw [Token.text, Specifiers.ofText_const (h.startsApart rfl), hrest]
      simp [specifiers, Token.word?, List.filterMap_cons]
    | star =>
      rw [Token.text, List.singleton_append, Specifiers.ofText_star, hrest]
      simp [specifiers, Token.word?, List.filterMap_cons]
    | blank c =>
      rw [Token.text, List.singleton_append, Specifiers.ofText_blank hk, hrest]
      simp [specifiers, Token.word?, List.filterMap_cons]

theorem AreApart.not_mem_listMarks {ks : List Token} (h : AreApart ks) :
    ∀ c ∈ written ks, c ∉ listMarks := by
  intro c hc
  obtain ⟨k, hk, hc⟩ := List.mem_flatMap.1 hc
  have hformed := h.wellFormed k hk
  cases k with
  | word w => exact hformed.marks c hc
  | const => exact (by decide : ∀ d ∈ constWord, d ∉ listMarks) c hc
  | star =>
    obtain rfl := List.mem_singleton.1 hc
    decide
  | blank d =>
    obtain rfl := List.mem_singleton.1 hc
    exact not_mem_listMarks_of_isBlank hformed

end Declarator

/-! ## 3. Written parameters -/

/-- No part from the beginning on closes more parentheses than it opens, and all are closed. -/
structure IsBalanced (t : Text) : Prop where
  opened : ∀ a ∈ t.inits, a.count ')' ≤ a.count '('
  closed : t.count '(' = t.count ')'

instance (t : Text) : Decidable (IsBalanced t) :=
  decidable_of_iff ((∀ a ∈ t.inits, a.count ')' ≤ a.count '(') ∧ t.count '(' = t.count ')')
    ⟨fun ⟨h₁, h₂⟩ => ⟨h₁, h₂⟩, fun ⟨h₁, h₂⟩ => ⟨h₁, h₂⟩⟩

def Specifiers.cType (s : Specifiers) : CType := ⟨Text.unwords s.words, s.stars, s.isConst⟩

/-- A parameter, apart from the way it is written. -/
inductive WrittenParam where
  | named (type : Specifiers) (name : Text)
  | unnamed (type : Specifiers)
  | callback (name : Option Text)
  deriving DecidableEq, Repr

namespace WrittenParam

/-- What the parameter at a place of the list is read as. -/
def param (opaques : OpaqueTypes) (index : Nat) : WrittenParam → Param
  | named type name => ⟨name, type.cType, TypeMapping.map opaques type.cType⟩
  | unnamed type => ⟨positionalName index, type.cType, TypeMapping.map opaques type.cType⟩
  | callback name => ⟨name.getD (positionalName index), ⟨"void", 1, false⟩, .machineWord⟩

/-- The texts that a parameter may be written as. -/
inductive IsWritten (opaques : OpaqueTypes) : WrittenParam → Text → Prop
  /-- The tokens of the type and the name. -/
  | named (type : List Declarator.Token) (name trail : Text)
      (apart : Declarator.AreApart (type ++ [.word name]))
      (base : (Declarator.specifiers type).words ≠ []) (blank : IsBlankText trail) :
      IsWritten opaques (.named (Declarator.specifiers type) name)
        (Declarator.written type ++ name ++ trail)
  /-- The tokens of a type with a single word, which is known. -/
  | unnamed (type : List Declarator.Token) (word : Text) (apart : Declarator.AreApart type)
      (base : (Declarator.specifiers type).words = [word])
      (known : TypeMapping.namesType opaques word = true) :
      IsWritten opaques (.unnamed (Declarator.specifiers type)) (Declarator.written type)
  /-- `result (*name)(args)`, with blanks around the name and behind the parentheses. -/
  | callback (result lead : Text) (name : Option Text) (trail gap args rest : Text)
      (marks : ∀ c ∈ result, c ∉ listMarks) (word : ∀ w ∈ name, IsDeclaratorWord w)
      (balanced : IsBalanced args) (blank : ∀ b ∈ [lead, trail, gap, rest], IsBlankText b) :
      IsWritten opaques (.callback name)
        (result ++ callbackMark ++ (lead ++ name.getD [] ++ trail) ++ [')'] ++ gap ++ ['('] ++
          args ++ [')'] ++ rest)

/-- The texts that are not blank are written for the parameters, in order. -/
def AreWritten (opaques : OpaqueTypes) (ps : List WrittenParam) (ts : List Text) : Prop :=
  List.Forall₂ (IsWritten opaques) ps (ts.filter fun t => ¬ IsBlankText t)

end WrittenParam

/-! ## 4. Texts that are not cut -/

namespace ParameterList

theorem isUncut_opening (depth : Nat) : IsUncut depth ['('] (depth + 1) :=
  isUncut_singleton (by nofun)

theorem isUncut_closing (depth : Nat) : IsUncut (depth + 1) [')'] depth :=
  isUncut_singleton (by nofun)

theorem isUncut_of_ne {c : Char} {depth : Nat} (hopening : c ≠ '(') (hclosing : c ≠ ')')
    (h : c = ',' → depth ≠ 0) : IsUncut depth [c] depth := by
  have huncut := isUncut_singleton h
  rwa [depthAfter, if_neg hopening, if_neg hclosing] at huncut

theorem isUncut_of_not_mem_listMarks {t : Text} (h : ∀ c ∈ t, c ∉ listMarks) (depth : Nat) :
    IsUncut depth t depth := by
  induction t with
  | nil => exact isUncut_nil depth
  | cons c t ih =>
    have hc := h c List.mem_cons_self
    simp only [listMarks, List.mem_cons, List.not_mem_nil, or_false, not_or] at hc
    obtain ⟨hcomma, hopening, hclosing⟩ := hc
    exact (isUncut_of_ne hopening hclosing fun heq => absurd heq hcomma).append
      (ih fun d hd => h d (List.mem_cons_of_mem c hd))

theorem isUncut_of_isBlankText {t : Text} (h : IsBlankText t) (depth : Nat) :
    IsUncut depth t depth :=
  isUncut_of_not_mem_listMarks (fun c hc => not_mem_listMarks_of_isBlank (h c hc)) depth

/-- Inside parentheses a text is not cut as long as it does not close more of them than are
    open. -/
theorem isUncut_of_opened {t : Text} {depth : Nat}
    (h : ∀ a, a <+: t → a.count ')' ≤ depth + a.count '(') :
    IsUncut (depth + 1) t (depth + 1 + t.count '(' - t.count ')') := by
  induction t generalizing depth with
  | nil => exact isUncut_nil (depth + 1)
  | cons c t ih =>
    have hcount : ∀ a, a <+: t → (c :: a).count ')' ≤ depth + (c :: a).count '(' :=
      fun a ha => h (c :: a) (List.cons_prefix_cons.2 ⟨rfl, ha⟩)
    by_cases hopening : c = '('
    · subst hopening
      simp only [List.count_cons_self, List.count_cons_of_ne (by decide : '(' ≠ ')')]
        at hcount ⊢
      have hrest : ∀ a, a <+: t → a.count ')' ≤ depth + 1 + a.count '(' := by
        intro a ha
        have := hcount a ha
        omega
      have hafter : depth + 1 + (t.count '(' + 1) = depth + 1 + 1 + t.count '(' := by omega
      rw [hafter]
      exact (isUncut_opening (depth + 1)).append (ih hrest)
    · by_cases hclosing : c = ')'
      · subst hclosing
        simp only [List.count_cons_self, List.count_cons_of_ne (by decide : ')' ≠ '(')]
          at hcount ⊢
        obtain ⟨inner, rfl⟩ : ∃ inner, depth = inner + 1 :=
          Nat.exists_eq_add_of_le' (by simpa using hcount [] List.nil_prefix)
        have hrest : ∀ a, a <+: t → a.count ')' ≤ inner + a.count '(' := by
          intro a ha
          have := hcount a ha
          omega
        have hafter : inner + 1 + 1 + t.count '(' - (t.count ')' + 1) =
            inner + 1 + t.count '(' - t.count ')' := by omega
        rw [hafter]
        exact (isUncut_closing (inner + 1)).append (ih hrest)
      · simp only [List.count_cons_of_ne hopening, List.count_cons_of_ne hclosing]
          at hcount ⊢
        exact (isUncut_of_ne hopening hclosing fun _ => Nat.succ_ne_zero depth).append (ih hcount)

theorem isUncut_of_isBalanced {t : Text} (h : IsBalanced t) (depth : Nat) :
    IsUncut (depth + 1) t (depth + 1) := by
  have hopened : ∀ a, a <+: t → a.count ')' ≤ depth + a.count '(' := by
    intro a ha
    have := h.opened a ((List.mem_inits _ _).2 ha)
    omega
  have huncut := isUncut_of_opened hopened
  rwa [h.closed, Nat.add_sub_cancel] at huncut

end ParameterList

/-! ## 5. Reading parameters -/

namespace WrittenParam

open ParameterList (IsUncut isUncut_opening isUncut_closing isUncut_of_isBlankText
  isUncut_of_not_mem_listMarks isUncut_of_isBalanced isUncut_of_ne segments_joinWith)

variable {opaques : OpaqueTypes} {p : WrittenParam} {t : Text}

theorem written_concat (type : List Declarator.Token) (name : Text) :
    Declarator.written (type ++ [.word name]) = Declarator.written type ++ name := by
  rw [Declarator.written, List.flatMap_append, List.flatMap_singleton]
  rfl

theorem IsWritten.isUncut (h : IsWritten opaques p t) : IsUncut 0 t 0 := by
  cases h with
  | named type name trail apart base blank =>
    rw [← written_concat]
    exact (isUncut_of_not_mem_listMarks apart.not_mem_listMarks 0).append
      (isUncut_of_isBlankText blank 0)
  | unnamed type word apart base known =>
    exact isUncut_of_not_mem_listMarks apart.not_mem_listMarks 0
  | callback result lead name trail gap args rest marks word balanced blank =>
    have hname : ∀ c ∈ name.getD [], c ∉ listMarks := by
      cases name with
      | none => exact List.forall_mem_nil _
      | some w => exact (word w rfl).marks
    have hmark : IsUncut 0 callbackMark 1 :=
      (isUncut_opening 0).append (isUncut_of_ne (by decide) (by decide) (by nofun))
    have hown : IsUncut 1 (lead ++ name.getD [] ++ trail) 1 :=
      ((isUncut_of_isBlankText (blank lead (by simp)) 1).append
        (isUncut_of_not_mem_listMarks hname 1)).append
        (isUncut_of_isBlankText (blank trail (by simp)) 1)
    have hgap := isUncut_of_isBlankText (blank gap (by simp)) 0
    have hrest := isUncut_of_isBlankText (blank rest (by simp)) 0
    exact ((((((((isUncut_of_not_mem_listMarks marks 0).append hmark).append hown).append
      (isUncut_closing 0)).append hgap).append (isUncut_opening 0)).append
      (isUncut_of_isBalanced balanced 0)).append (isUncut_closing 0)).append hrest

theorem callbackName?_eq_none_of_marks (h : ∀ c ∈ t, c ∉ listMarks) : callbackName? t = none := by
  rw [callbackName?_eq_none_iff]
  intro hmark
  exact h '(' (hmark.subset (by decide)) (by decide)

theorem nameOfWords_of_isDeclaratorWord {w : Text} (hw : IsDeclaratorWord w) :
    nameOfWords [w] = w := by
  have hstar : w.dropWhile (· = '*') = w := by
    rw [List.dropWhile_eq_self_iff]
    intro hpos
    rw [decide_eq_true_iff]
    intro heq
    exact hw.star (heq ▸ List.getElem_mem hpos)
  simp [nameOfWords, hw.ne_const, hstar]

theorem callbackName?_of_written {result lead trail : Text} {name : Option Text}
    (marks : ∀ c ∈ result, c ∉ listMarks) (word : ∀ w ∈ name, IsDeclaratorWord w)
    (hlead : IsBlankText lead) (htrail : IsBlankText trail) (rest : Text) :
    callbackName? (result ++ callbackMark ++ (lead ++ name.getD [] ++ trail) ++ [')'] ++ rest) =
      some (name.getD []) := by
  have hmark : ¬ callbackMark <:+: result :=
    callbackName?_eq_none_iff.1 (callbackName?_eq_none_of_marks marks)
  have hname : ')' ∉ name.getD [] := by
    cases name with
    | none => exact List.not_mem_nil
    | some w => exact fun hmem => (word w rfl).marks _ hmem (by decide)
  have hclosing : ')' ∉ lead ++ name.getD [] ++ trail := by
    simp [hlead.not_mem (by decide : isBlank ')' = false),
      htrail.not_mem (by decide : isBlank ')' = false), hname]
  rw [List.append_assoc, List.append_assoc, List.singleton_append, callbackName?_append hmark,
    beforeClosing_append_closing hclosing, ignoresBlanks_words.append_blanks _ htrail,
    ignoresBlanks_words.blanks_append hlead]
  cases name with
  | none => rfl
  | some w =>
    rw [Option.getD_some, (word w rfl).isInk.words_eq,
      nameOfWords_of_isDeclaratorWord (word w rfl)]

theorem nameAndBase_concat (index : Nat) {ws : List Text} (hne : ws ≠ []) (name : Text) :
    Declarator.nameAndBase opaques index (ws ++ [name]) = (name, Text.unwords ws) := by
  obtain ⟨w, ws, rfl⟩ := List.exists_cons_of_ne_nil hne
  have hcons : ∀ {vs}, vs ≠ [] → Declarator.nameAndBase opaques index (w :: vs) =
      (vs.getLastD [], Text.unwords (w :: vs).dropLast) := by
    intro vs hvs
    obtain ⟨v, vs, rfl⟩ := List.exists_cons_of_ne_nil hvs
    rfl
  rw [List.cons_append, hcons (by simp), ← List.cons_append, List.dropLast_concat,
    List.getLastD_eq_getLast?, List.getLast?_concat, Option.getD_some]

/-- **A written parameter is read as the one it was written for.** -/
theorem IsWritten.param_ofText (h : IsWritten opaques p t) (index : Nat) :
    (Declarator.ofText opaques index t).param opaques = p.param opaques index := by
  cases h with
  | named type name trail apart base blank =>
    have hplain := callbackName?_eq_none_of_marks apart.not_mem_listMarks
    have hspecifiers := Declarator.ofText_written apart
    rw [← ignoresBlanks_callbackName?.append_blanks _ blank] at hplain
    rw [← ignoresBlanks_specifiers.append_blanks _ blank] at hspecifiers
    have hwords : (Declarator.specifiers (type ++ [.word name])).words =
        (Declarator.specifiers type).words ++ [name] := List.filterMap_append
    rw [← written_concat, Declarator.ofText_of_plain hplain, hspecifiers, hwords,
      nameAndBase_concat index base]
    simp [param, Declarator.param, Declarator.specifiers, Specifiers.cType]
  | unnamed type word apart base known =>
    have hplain := callbackName?_eq_none_of_marks apart.not_mem_listMarks
    rw [Declarator.ofText_of_plain hplain, Declarator.ofText_written apart, base,
      Declarator.nameAndBase, if_pos known]
    simp [param, Declarator.param, Specifiers.cType, base, Text.unwords_singleton]
  | callback result lead name trail gap args rest marks word balanced blank =>
    have hname := callbackName?_of_written marks word (blank lead (by simp))
      (blank trail (by simp)) (gap ++ ['('] ++ args ++ [')'] ++ rest)
    simp only [← List.append_assoc] at hname ⊢
    rw [Declarator.ofText_of_callback hname]
    cases name with
    | none => rfl
    | some w =>
      have hne : w ≠ [] := (word w rfl).isInk.1
      simp [param, Declarator.param, hne]

variable {ps : List WrittenParam} {ts : List Text}

theorem AreWritten.isUncut (h : AreWritten opaques ps ts) : ∀ t ∈ ts, IsUncut 0 t 0 := by
  intro t ht
  by_cases hblank : IsBlankText t
  · exact isUncut_of_isBlankText hblank 0
  · have hmem : t ∈ ts.filter fun t => ¬ IsBlankText t :=
      List.mem_filter.2 ⟨ht, by simpa using hblank⟩
    obtain ⟨i, hi, hget⟩ := List.getElem_of_mem hmem
    rw [← hget]
    exact (h.get (h.length_eq ▸ hi) hi).isUncut

/-- **Reading undoes writing.**  A list of written parameters and blank texts, joined by
    commas, is read as the parameters, each under its place among them. -/
theorem params_joinWith (h : AreWritten opaques ps ts)
    (hvoid : Text.collapse (Text.joinWith [','] ts) ≠ ("void" : Text)) :
    ParameterList.params opaques (Text.joinWith [','] ts) =
      ps.mapIdx fun index p => p.param opaques index := by
  have hsegments : ((ParameterList.segments (Text.joinWith [','] ts)).filter
      fun s => Text.words s ≠ []) = ts.filter fun t => ¬ IsBlankText t := by
    simp only [ne_eq, Text.words_eq_nil_iff]
    cases ts with
    | nil => rfl
    | cons t ts => rw [segments_joinWith (List.cons_ne_nil t ts) h.isUncut]
  rw [ParameterList.params, ParameterList.declarators_eq hvoid, hsegments]
  apply List.ext_getElem
  · rw [List.length_map, List.length_mapIdx, List.length_mapIdx, h.length_eq]
  · intro i hi hi'
    rw [List.length_map, List.length_mapIdx] at hi
    rw [List.length_mapIdx] at hi'
    rw [List.getElem_map, List.getElem_mapIdx, List.getElem_mapIdx]
    exact (h.get hi' hi).param_ofText i

/-- A named parameter, a blank segment, a callback with commas in its arguments, and a type
    that is known from the header. -/
theorem params_joinWith_of_callback :
    ParameterList.params ⟨[.ofName "OgaModel"]⟩
        "char\tconst*path, ,void (* cb )(int, char (*)(int, int)), OgaModel*" =
      [⟨"path", ⟨"char", 1, true⟩, .underPointers (.scalar .cChar) 1 true⟩,
        ⟨"cb", ⟨"void", 1, false⟩, .machineWord⟩,
        ⟨"arg2", ⟨"OgaModel", 1, false⟩, .handle "OgaModel"⟩] := by
  have hpath : IsWritten ⟨[.ofName "OgaModel"]⟩ _ _ :=
    .named [.word "char", .blank '\t', .const, .star] "path" [] (by decide) (by decide)
      (by decide)
  have hcallback : IsWritten ⟨[.ofName "OgaModel"]⟩ _ _ :=
    .callback "void " " " (some "cb") " " [] "int, char (*)(int, int)" [] (by decide) (by decide)
      (by decide) (by decide)
  have hmodel : IsWritten ⟨[.ofName "OgaModel"]⟩ _ _ :=
    .unnamed [.blank ' ', .word "OgaModel", .star] "OgaModel" (by decide) (by decide) (by decide)
  have hwritten : AreWritten ⟨[.ofName "OgaModel"]⟩ _
      ["char\tconst*path", " ", "void (* cb )(int, char (*)(int, int))", " OgaModel*"] :=
    .cons hpath (.cons hcallback (.cons hmodel .nil))
  exact params_joinWith hwritten (by decide)

end WrittenParam

end HeaderBindings
