import HeaderBindings.Artifact.Table
import HeaderBindings.Proofs.Artifact.Extracted
import HeaderBindings.Proofs.Text.Cutting

/-!
# Reading generated lines

The two generated files are read back here, line by line: the fields of the structure,
the entries that resolve symbols, and methods with their signatures and their calls.
A reader knows the punctuation of a line and nothing of the functions that the line was
made for.

For each kind of line there is one theorem that says what the reader finds in the line of
a clean function.
-/

namespace HeaderBindings.Artifact

open Text

/-! ## 1. Types and signatures -/

/-- The parameter types and the return type of a function pointer or a method. -/
structure CallType where
  params : List Text
  result : Text
  deriving DecidableEq, Repr

/-- The signature of a method: its whole text and the parts of it. -/
structure Signature where
  text : Text
  name : Text
  params : List (Text × Text)
  result : Text
  deriving DecidableEq, Repr

def Signature.callType (s : Signature) : CallType := ⟨s.params.map (·.2), s.result⟩

/-- Read the end of a signature; without an arrow the return type is `()`. -/
def result? (t : Text) : Option Text :=
  if t = [] then some "()" else (" -> " : Text).isPrefixOf? t

def pointerType? (t : Text) : Option CallType := do
  let t ← ("unsafe extern \"C\" fn(" : Text).isPrefixOf? t
  let (params, t) ← cutLast? ')' t
  let result ← result? t
  return ⟨items params, result⟩

def param? (t : Text) : Option (Text × Text) :=
  match splitPair ':' ' ' t with
  | [name, type] => some (name, type)
  | _ => none

def signature? (text : Text) : Option Signature := do
  let t ← ("unsafe fn " : Text).isPrefixOf? text
  let (name, t) ← cutFirst? '(' t
  let (inside, t) ← cutLast? ')' t
  let result ← result? t
  match items inside with
  | receiver :: ps =>
    if receiver = ("&self" : Text) then
      let params ← ps.mapM param?
      return ⟨text, name, params, result⟩
    else none
  | [] => none

/-! ## 2. Fields, entries and methods -/

structure TableField where
  name : Text
  type : CallType
  deriving DecidableEq, Repr

/-- A field of the value that is made of resolved symbols. -/
structure TableEntry where
  field : Text
  symbol : Text
  deriving DecidableEq, Repr

/-- A method that calls the pointer in a field. -/
structure TableMethod where
  signature : Signature
  field : Text
  arguments : List Text
  deriving DecidableEq, Repr

def field? (l : Text) : Option TableField := do
  let t ← ("    " : Text).isPrefixOf? l
  let t ← ("," : Text).isSuffixOf? t
  let (name, t) ← cutFirst? ':' t
  let t ← (" " : Text).isPrefixOf? t
  let type ← pointerType? t
  return ⟨name, type⟩

/-- Read the line that resolves a symbol. -/
def resolved? (l : Text) : Option TableEntry := do
  let t ← ("            " : Text).isPrefixOf? l
  let t ← ("\")? \x7d," : Text).isSuffixOf? t
  let (field, t) ← cutFirst? ':' t
  let t ← (" unsafe \x7b " : Text).isPrefixOf? t
  let (call, symbol) ← cutLast? '"' t
  let _ ← ("::resolve(library, " : Text).isSuffixOf? call
  return ⟨field, symbol⟩

/-- Read the three lines of a method. -/
def method? (head body last : Text) : Option TableMethod := do
  let t ← ("    " : Text).isPrefixOf? head
  let t ← (" \x7b" : Text).isSuffixOf? t
  let signature ← signature? t
  let t ← ("        unsafe \x7b (self." : Text).isPrefixOf? body
  let t ← (") \x7d" : Text).isSuffixOf? t
  let (field, t) ← cutFirst? ')' t
  let arguments ← ("(" : Text).isPrefixOf? t
  if last = ("    \x7d" : Text) then return ⟨signature, field, items arguments⟩ else none

def methods? : List Text → Option (List TableMethod)
  | [] => some []
  | head :: body :: last :: rest => do
    let m ← method? head body last
    let ms ← methods? rest
    return m :: ms
  | _ => none

def declaredMethod? (l : Text) : Option Signature := do
  let t ← ("    " : Text).isPrefixOf? l
  let t ← (";" : Text).isSuffixOf? t
  signature? t

/-! ## 3. What is read in the lines of a clean function -/

def callType (f : Function) : CallType := ⟨f.params.map (·.type.text), f.returnType.text⟩

def declaredParams (f : Function) : List (Text × Text) :=
  (methodParams f).map fun p => (p.1, p.2.text)

def signature (f : Function) : Signature :=
  ⟨methodSignature f, methodName f, declaredParams f, f.returnType.text⟩

theorem notMem_type_text {t : SignatureType} (h : t.IsClean) {c : Char} (hc : c ∈ delimiters)
    (hfree : c ∉ [' ', '(', ')']) : c ∉ t.text := by
  simp only [List.mem_cons, List.not_mem_nil, or_false, not_or] at hfree
  rcases h with rfl | h
  · intro hmem
    rw [SignatureType.text_unit] at hmem
    rcases List.mem_pair.1 hmem with rfl | rfl
    · exact hfree.2.1 rfl
    · exact hfree.2.2 rfl
  · exact h.notMem_text hc hfree.1

theorem result?_returnText (t : SignatureType) : result? (returnText t) = some t.text := by
  unfold returnText
  split
  · rename_i hunit
    have hunit : t = .unit := of_decide_eq_true hunit
    rw [hunit, SignatureType.text_unit]
    rfl
  · have hne : (" -> " : Text) ++ t.text ≠ [] := by simp
    rw [result?, if_neg hne]
    exact isPrefixOf?_append " -> " t.text

theorem notMem_returnText {t : SignatureType} (h : t.IsClean) : ')' ∉ returnText t := by
  unfold returnText
  split
  · exact List.not_mem_nil
  · rename_i hunit
    have hvalue : t.IsValue := h.resolve_left fun ht => hunit (decide_eq_true ht)
    have htext : ')' ∉ t.text := hvalue.notMem_text (by decide) (by decide)
    simpa using htext

theorem pointerType?_pointerType {f : Function} (h : f.IsClean) :
    pointerType? (pointerType f) = some (callType f) := by
  have htypes : ∀ p ∈ f.params.map (·.type.text), p ≠ [] ∧ ¬ [',', ' '] <:+: p := by
    intro p hp
    obtain ⟨q, hq, rfl⟩ := List.mem_map.1 hp
    have hclean := h.paramTypes q hq
    refine ⟨SignatureType.text_ne_nil hclean, ?_⟩
    exact not_isInfix_of_notMem List.mem_cons_self
      (notMem_type_text hclean (by decide) (by decide))
  have hshape : pointerType f = "unsafe extern \"C\" fn(" ++
      (joinWith ", " (f.params.map (·.type.text)) ++ ')' :: returnText f.returnType) := by
    unfold pointerType
    rw [List.append_assoc, List.append_assoc]
    rfl
  rw [hshape]
  simp only [pointerType?, isPrefixOf?_append, Option.bind_eq_bind, Option.bind_some,
    cutLast?_append (notMem_returnText h.returnType), result?_returnText, items_joinWith htypes]
  rfl

theorem length_argumentNames (ps : List Param) : (argumentNames ps).length = ps.length := by
  rw [argumentNames, length_unique, List.length_map]

theorem map_fst_declaredParams (f : Function) :
    (declaredParams f).map (·.1) = argumentNames f.params := by
  have hlength : (argumentNames f.params).length ≤ (f.params.map (·.type)).length := by
    rw [length_argumentNames, List.length_map]
  rw [declaredParams, List.map_map]
  exact List.map_fst_zip hlength

theorem map_snd_declaredParams (f : Function) :
    (declaredParams f).map (·.2) = f.params.map (·.type.text) := by
  have hlength : (f.params.map (·.type)).length ≤ (argumentNames f.params).length := by
    rw [length_argumentNames, List.length_map]
  have hzip : (methodParams f).map (·.2) = f.params.map (·.type) := List.map_snd_zip hlength
  calc (declaredParams f).map (·.2) = ((methodParams f).map (·.2)).map (·.text) := by
        rw [declaredParams, List.map_map, List.map_map]
        rfl
    _ = f.params.map (·.type.text) := by
        rw [hzip, List.map_map]
        rfl

theorem notMem_argumentNames {f : Function} (h : f.IsClean) {name : Text}
    (hname : name ∈ argumentNames f.params) {c : Char} (hc : c ∈ delimiters)
    (hfree : isBlank c = true ∨ c = ')') : c ∉ name := by
  intro hmem
  obtain ⟨base, hbase, hcbase⟩ := exists_mem_of_mem_unique hc hname hmem
  obtain ⟨p, hp, rfl⟩ := List.mem_map.1 hbase
  obtain ⟨hink, hclose⟩ := (h.paramNames p hp).2 c (mem_of_mem_escape hc hcbase)
  rcases hfree with hblank | rfl
  · rw [hblank] at hink
    cases hink
  · exact hclose rfl

theorem argumentName_ne_nil {f : Function} (h : f.IsClean) {name : Text}
    (hname : name ∈ argumentNames f.params) : name ≠ [] := by
  refine ne_nil_of_mem_unique ?_ hname
  intro base hbase
  obtain ⟨p, hp, rfl⟩ := List.mem_map.1 hbase
  exact escape_ne_nil (h.paramNames p hp).1

theorem mem_declaredParams {f : Function} {p : Text × Text} (hp : p ∈ declaredParams f) :
    p.1 ∈ argumentNames f.params ∧ ∃ q ∈ f.params, q.type.text = p.2 := by
  constructor
  · rw [← map_fst_declaredParams]
    exact List.mem_map_of_mem hp
  · apply List.mem_map.1
    rw [← map_snd_declaredParams]
    exact List.mem_map_of_mem hp

def declaredText (p : Text × Text) : Text := p.1 ++ ':' :: ' ' :: p.2

theorem paramText_eq (p : Text × SignatureType) :
    paramText p = ", " ++ declaredText (p.1, p.2.text) := by
  unfold paramText
  rw [List.append_assoc, List.append_assoc]
  rfl

theorem param?_declaredText {f : Function} (h : f.IsClean) {p : Text × Text}
    (hp : p ∈ declaredParams f) : param? (declaredText p) = some p := by
  obtain ⟨hname, q, hq, hqtext⟩ := mem_declaredParams hp
  have hspace : ' ' ∉ p.1 := notMem_argumentNames h hname (by decide) (Or.inl (by decide))
  have hcolon : ':' ∉ p.2 := by
    rw [← hqtext]
    exact notMem_type_text (h.paramTypes q hq) (by decide) (by decide)
  have hfirst : ¬ [':', ' '] <:+: p.1 :=
    not_isInfix_of_notMem (List.mem_cons_of_mem _ List.mem_cons_self) hspace
  have hsecond : ¬ [':', ' '] <:+: p.2 := not_isInfix_of_notMem List.mem_cons_self hcolon
  rw [param?, declaredText, splitPair_append (by decide) hfirst, splitPair_eq_singleton hsecond]

/-- No comma with a space stands inside of a declared parameter: its name has no space and
    its type no comma. -/
theorem not_isInfix_declaredText {f : Function} (h : f.IsClean) {p : Text × Text}
    (hp : p ∈ declaredParams f) : ¬ [',', ' '] <:+: declaredText p := by
  obtain ⟨hname, q, hq, hqtext⟩ := mem_declaredParams hp
  have hspace : ' ' ∉ p.1 := notMem_argumentNames h hname (by decide) (Or.inl (by decide))
  have hcomma : ',' ∉ p.2 := by
    rw [← hqtext]
    exact notMem_type_text (h.paramTypes q hq) (by decide) (by decide)
  have hsplit : declaredText p = (p.1 ++ [':']) ++ ' ' :: p.2 := by simp [declaredText]
  rw [hsplit]
  apply not_pair_isInfix_append
  · simpa using hspace
  · simpa using hcomma
  · simp

theorem mapM_map_eq_some {α β γ : Type} {f : α → β} {g : β → Option γ} {h : α → γ}
    {l : List α} (hl : ∀ a ∈ l, g (f a) = some (h a)) : (l.map f).mapM g = some (l.map h) := by
  induction l with
  | nil => rfl
  | cons a l ih =>
    have hrest := ih fun b hb => hl b (List.mem_cons_of_mem _ hb)
    rw [List.map_cons, List.mapM_cons, hl a List.mem_cons_self, hrest]
    rfl

theorem signature?_methodSignature {f : Function} (h : f.IsClean) :
    signature? (methodSignature f) = some (signature f) := by
  have hname : '(' ∉ methodName f := (isBare_methodName h.stem).not_mem (by decide)
  have hinside : joinWith ", " ("&self" :: (declaredParams f).map declaredText) =
      "&self" ++ (methodParams f).flatMap paramText := by
    rw [joinWith_cons, declaredParams, List.map_map, List.flatMap_map,
      funext paramText_eq]
    rfl
  have hitems : items ("&self" ++ (methodParams f).flatMap paramText) =
      ("&self" : Text) :: (declaredParams f).map declaredText := by
    rw [← hinside]
    apply items_joinWith
    intro t ht
    rcases List.mem_cons.1 ht with rfl | ht
    · exact ⟨by decide, by decide⟩
    · obtain ⟨p, hp, rfl⟩ := List.mem_map.1 ht
      exact ⟨by simp [declaredText], not_isInfix_declaredText h hp⟩
  have hparams : ((declaredParams f).map declaredText).mapM param? = some (declaredParams f) := by
    have hread := mapM_map_eq_some (h := id) fun p hp => param?_declaredText h hp
    rwa [List.map_id] at hread
  have hshape : methodSignature f = "unsafe fn " ++ (methodName f ++ '(' ::
      (("&self" ++ (methodParams f).flatMap paramText) ++ ')' :: returnText f.returnType)) := by
    unfold methodSignature
    simp only [List.append_assoc]
    rfl
  rw [signature?, hshape]
  simp only [isPrefixOf?_append, Option.bind_eq_bind, Option.bind_some, cutFirst?_append hname,
    cutLast?_append (notMem_returnText h.returnType), result?_returnText, hitems, hparams]
  rw [← hshape]
  rfl

/-! ## 4. What is read in the lines of the table -/

def tableField (e : Function × Text) : TableField := ⟨e.2, callType e.1⟩

def tableEntry (e : Function × Text) : TableEntry := ⟨e.2, e.1.symbol⟩

def tableMethod (e : Function × Text) : TableMethod :=
  ⟨signature e.1, e.2, argumentNames e.1.params⟩

theorem field?_fieldLine {e : Function × Text} (hf : e.1.IsClean) (hname : IsBare e.2) :
    field? (fieldLine e) = some (tableField e) := by
  have hshape : fieldLine e = "    " ++ ((e.2 ++ ':' :: (" " ++ pointerType e.1)) ++ ",") := by
    unfold fieldLine
    simp only [List.append_assoc]
    rfl
  rw [field?, hshape]
  simp only [isPrefixOf?_append, isSuffixOf?_append, Option.bind_eq_bind, Option.bind_some,
    cutFirst?_append (hname.not_mem (c := ':') (by decide)), pointerType?_pointerType hf]
  rfl

theorem resolved?_resolveLine {e : Function × Text} (hf : e.1.IsClean) (hname : IsBare e.2)
    (runtime : Text) : resolved? (resolveLine runtime e) = some (tableEntry e) := by
  have hshape : resolveLine runtime e = "            " ++ ((e.2 ++ ':' :: (" unsafe \x7b " ++
      ((runtime ++ "::resolve(library, ") ++ '"' :: e.1.symbol))) ++ "\")? \x7d,") := by
    have hquote : ("::resolve(library, \"" : Text) = "::resolve(library, " ++ ['"'] := by decide
    unfold resolveLine
    simp only [hquote, List.append_assoc, List.cons_append, List.nil_append]
    rfl
  rw [resolved?, hshape]
  simp only [isPrefixOf?_append, isSuffixOf?_append, Option.bind_eq_bind, Option.bind_some,
    cutFirst?_append (hname.not_mem (c := ':') (by decide)),
    cutLast?_append (hf.symbol.not_mem (c := '"') (by decide))]
  rfl

theorem items_argumentNames {f : Function} (h : f.IsClean) :
    items (joinWith ", " (argumentNames f.params)) = argumentNames f.params := by
  apply items_joinWith
  intro name hname
  refine ⟨argumentName_ne_nil h hname, ?_⟩
  have hspace : ' ' ∉ name := notMem_argumentNames h hname (by decide) (Or.inl (by decide))
  exact not_isInfix_of_notMem (List.mem_cons_of_mem _ List.mem_cons_self) hspace

theorem methods?_forwardLines_append {e : Function × Text} (hf : e.1.IsClean)
    (hname : IsBare e.2) (ls : List Text) :
    methods? (forwardLines e ++ ls) = (methods? ls).map (tableMethod e :: ·) := by
  have hhead : "    " ++ methodSignature e.1 ++ " \x7b" =
      "    " ++ (methodSignature e.1 ++ " \x7b") := List.append_assoc ..
  have hbody : "        unsafe \x7b (self." ++ e.2 ++ ")(" ++
      joinWith ", " (argumentNames e.1.params) ++ ") \x7d" =
      "        unsafe \x7b (self." ++ ((e.2 ++ ')' :: ("(" ++
        joinWith ", " (argumentNames e.1.params))) ++ ") \x7d") := by
    simp only [List.append_assoc]
    rfl
  rw [forwardLines, hhead, hbody]
  simp only [List.cons_append, List.nil_append, methods?, method?, isPrefixOf?_append,
    isSuffixOf?_append, Option.bind_eq_bind, Option.bind_some, signature?_methodSignature hf,
    cutFirst?_append (hname.not_mem (c := ')') (by decide)), items_argumentNames hf, if_true]
  cases methods? ls <;> rfl

theorem methods?_flatMap_forwardLines {es : List (Function × Text)}
    (hes : ∀ e ∈ es, e.1.IsClean ∧ IsBare e.2) :
    methods? (es.flatMap forwardLines) = some (es.map tableMethod) := by
  induction es with
  | nil => rfl
  | cons e es ih =>
    obtain ⟨hf, hname⟩ := hes e List.mem_cons_self
    have hrest := ih fun d hd => hes d (List.mem_cons_of_mem _ hd)
    rw [List.flatMap_cons, methods?_forwardLines_append hf hname, hrest]
    rfl

theorem declaredMethod?_line {f : Function} (h : f.IsClean) :
    declaredMethod? ("    " ++ methodSignature f ++ ";") = some (signature f) := by
  have hshape : "    " ++ methodSignature f ++ ";" = "    " ++ (methodSignature f ++ ";") :=
    List.append_assoc ..
  rw [declaredMethod?, hshape]
  simp only [isPrefixOf?_append, isSuffixOf?_append, Option.bind_eq_bind, Option.bind_some,
    signature?_methodSignature h]

/-! ## 5. Files -/

/-- Is the line code, rather than empty or a comment? -/
def isCode (l : Text) : Bool := !(l = [] || startsWith (l.dropWhile (· = ' ')) "//")

def codeLines (t : Text) : List Text := (lines t).filter isCode

/-- The lines between the first opening line and the closing line behind it, and what
    follows. -/
def block? (opening closing : Text) (ls : List Text) : Option (List Text × List Text) := do
  let (_, ls) ← cutFirst? opening ls
  cutFirst? closing ls

/-- The lines between the braces of an item, which may be on one line. -/
def body? (item : Text) (ls : List Text) : Option (List Text) :=
  if item ++ " \x7b\x7d" ∈ ls then some []
  else (block? (item ++ " \x7b") ['\x7d'] ls).map (·.1)

structure Table where
  fields : List TableField
  entries : List TableEntry
  methods : List TableMethod
  deriving DecidableEq, Repr

/-- Read the file of the function table. -/
def table? (t : Text) : Option Table := do
  let (fieldLines, ls) ← block? "pub struct Funcs \x7b" ['\x7d'] (codeLines t)
  let fields ← fieldLines.mapM field?
  let (entryLines, ls) ← block? "        Ok(Self \x7b" "        \x7d)" ls
  let entries ← entryLines.mapM resolved?
  let methodLines ← body? "impl Api for Funcs" ls
  let methods ← methods? methodLines
  return ⟨fields, entries, methods⟩

def trait? (t : Text) : Option (List Signature) := do
  let ls ← body? "pub trait Api" (codeLines t)
  ls.mapM declaredMethod?

end HeaderBindings.Artifact
