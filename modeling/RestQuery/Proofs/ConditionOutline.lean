import RestQuery.Proofs.ConditionBuilding
import RestQuery.Proofs.ConditionEncoding

/-!
# Outlines

The outline of a condition is its tree with all values written out: the operators, the quantifiers,
the columns, the languages and the texts of the values. `outline_of_encode` says that a condition
without reserved characters in its texts is encoded by writing down its outline.
-/

namespace RestQuery

open Text

/-- The right-hand side of a test with its values written out. -/
inductive Operand where
  | text (s : String)
  | list (texts : List String)
  | range (low high : String)

/-- A condition with its values written out. A search without a language is a plain test. -/
inductive Outline where
  | test (column : String) (op : Operator) (operand : Operand)
  | quantified (column : String) (op quantifier : Operator) (texts : List String)
  | search (column : String) (op : Operator) (language query : String)
  | not (o : Outline)
  | group (op : Operator) (os : List Outline)

mutual

/-- The outline of a condition. What the caller encoded has none. -/
def Condition.outline : Condition → Outcome Outline
  | .comparison op column v =>
    match op, v with
    | .member, .tuple xs => do return .test column .member (.list (← Value.operandTexts xs))
    | op, v => do return .test column op (.text (← v.operandText))
  | .quantified op column vs q => do return .quantified column op q (← Value.operandTexts vs)
  | .textSearch op column query language =>
    if language.truth then do
      let language ← language.display
      return .search column op language (← query.display)
    else do return .test column op (.text (← query.operandText))
  | .between column low high => do
    let low ← low.operandText
    return .test column .between (.range low (← high.operandText))
  | .not c => do return .not (← c.outline)
  | .and cs => do return .group .and (← Condition.outlines cs)
  | .or cs => do return .group .or (← Condition.outlines cs)
  | .raw v => .error (Condition.shapeless (.condition (.raw v)))

def Condition.outlines : List Condition → Outcome (List Outline)
  | [] => .ok []
  | c :: cs => do return (← c.outline) :: (← Condition.outlines cs)

end

/-! ### Reserved characters -/

/-- The characters that callers keep out of names and values. -/
def isReserved (c : Char) : Bool := c == ',' || c == '.' || c == '(' || c == ')'

def FreeChars (s : List Char) : Prop := ∀ c ∈ s, isReserved c = false

/-- A text without reserved characters. -/
def Free (s : String) : Prop := FreeChars s.toList

instance (s : List Char) : Decidable (FreeChars s) := List.decidableBAll _ s

instance (s : String) : Decidable (Free s) := inferInstanceAs (Decidable (FreeChars s.toList))

/-- A value whose text as an operand, if it has one, is free of reserved characters. -/
def Value.FreeOperand (v : Value) : Prop := ∀ s, v.operandText = .ok s → Free s

/-- A value whose own text, if it has one, is free of reserved characters. -/
def Value.FreeDisplay (v : Value) : Prop := ∀ s, v.display = .ok s → Free s

/-- The conditions without encoded parts whose names and values are free of reserved characters and
whose lists of values are not empty. -/
inductive Condition.Unreserved : Condition → Prop where
  | comparison {op : Operator} {column : String} {v : Value} (other : op ≠ .member)
      (name : Free column) (text : v.FreeOperand) : Unreserved (.comparison op column v)
  | among {column : String} {xs : List Value} (name : Free column) (filled : xs ≠ [])
      (texts : ∀ x ∈ xs, x.FreeOperand) : Unreserved (.comparison .member column (.tuple xs))
  | quantified {op q : Operator} {column : String} {vs : List Value} (name : Free column)
      (filled : vs ≠ []) (texts : ∀ v ∈ vs, v.FreeOperand) : Unreserved (.quantified op column vs q)
  | search {op : Operator} {column : String} {query language : Value}
      (given : language.truth = true) (name : Free column) (tongue : language.FreeDisplay)
      (text : query.FreeDisplay) : Unreserved (.textSearch op column query language)
  | plainSearch {op : Operator} {column : String} {query language : Value}
      (missing : language.truth = false) (name : Free column) (text : query.FreeOperand) :
      Unreserved (.textSearch op column query language)
  | between {column : String} {low high : Value} (name : Free column) (low_text : low.FreeOperand)
      (high_text : high.FreeOperand) : Unreserved (.between column low high)
  | not {c : Condition} (part : Unreserved c) : Unreserved (.not c)
  | and {cs : List Condition} (parts : ∀ c ∈ cs, Unreserved c) : Unreserved (.and cs)
  | or {cs : List Condition} (parts : ∀ c ∈ cs, Unreserved c) : Unreserved (.or cs)

/-- A condition that the constructors build and whose texts leave the separators to the syntax. -/
structure Condition.Clean (c : Condition) : Prop where
  built : c.Built
  unreserved : c.Unreserved

namespace Outline

def operandChars : Operand → List Char
  | .text s => s.toList
  | .list texts => '(' :: ((commaJoin texts).toList ++ [')'])
  | .range low high => '[' :: (low.toList ++ ',' :: (high.toList ++ [']']))

mutual

/-- The characters of an outline. -/
def chars : Outline → List Char
  | test column op operand => column.toList ++ '.' :: (op.token.toList ++ '.' :: operandChars operand)
  | quantified column op q texts =>
    (column.toList ++ '=' :: op.token.toList) ++
      '(' :: (q.token.toList ++ ')' :: '.' :: '{' :: ((commaJoin texts).toList ++ ['}']))
  | search column op language query =>
    (column.toList ++ '=' :: op.token.toList) ++ '(' :: (language.toList ++ ')' :: '.' :: query.toList)
  | not o => ['n', 'o', 't'] ++ '.' :: o.chars
  | group op os => op.token.toList ++ '(' :: (joined os ++ [')'])

/-- The characters of some outlines with commas between them. -/
def joined : List Outline → List Char
  | [] => []
  | [o] => o.chars
  | o :: p :: os => o.chars ++ ',' :: joined (p :: os)

end

/-- An operand that goes with an operator. -/
inductive OperandClean : Operator → Operand → Prop where
  | text {op : Operator} {s : String} (plain : op.isPlain = true) (other : op ≠ .member)
      (free : Free s) : OperandClean op (.text s)
  | list {texts : List String} (filled : texts ≠ []) (free : ∀ s ∈ texts, Free s) :
      OperandClean .member (.list texts)
  | range {low high : String} (low_free : Free low) (high_free : Free high) :
      OperandClean .between (.range low high)

inductive Clean : Outline → Prop where
  | test {column : String} {op : Operator} {operand : Operand} (name : Free column)
      (fits : OperandClean op operand) : Clean (test column op operand)
  | quantified {column : String} {op q : Operator} {texts : List String} (name : Free column)
      (quantifiable : op.isQuantifiable = true) (quantifies : q.isQuantifier = true)
      (filled : texts ≠ []) (free : ∀ s ∈ texts, Free s) : Clean (quantified column op q texts)
  | search {column : String} {op : Operator} {language query : String} (name : Free column)
      (searches : op.isTextSearch = true) (tongue : Free language) (free : Free query) :
      Clean (search column op language query)
  | not {o : Outline} (part : Clean o) : Clean (not o)
  | group {op : Operator} {os : List Outline} (joins : op = .and ∨ op = .or)
      (parts : ∀ o ∈ os, Clean o) : Clean (group op os)

end Outline

/-! ### Encoding by outline -/

theorem Value.free_operandTexts {vs : List Value} {texts : List String}
    (free : ∀ v ∈ vs, v.FreeOperand) (shown : Value.operandTexts vs = .ok texts) :
    ∀ s ∈ texts, Free s := by
  rw [Value.operandTexts_eq_mapM] at shown
  intro s member
  obtain ⟨v, present, text⟩ := mapM_ok_mem shown s member
  exact free v present s text

theorem Value.operandTexts_ne_nil {vs : List Value} {texts : List String} (filled : vs ≠ [])
    (shown : Value.operandTexts vs = .ok texts) : texts ≠ [] :=
  mapM_ok_ne_nil (Value.operandTexts_eq_mapM vs ▸ shown) filled

theorem isPlain_of_isTextSearch {op : Operator} (searches : op.isTextSearch = true) :
    op.isPlain = true := by
  cases op <;> simp_all [Operator.isTextSearch, Operator.isPlain, Operator.isLogical,
    Operator.isQuantifier]

namespace Condition

/-- The encoding of a condition is its outline written down. -/
def Outlined (c : Condition) : Prop :=
  ∀ s, c.encode = .ok s → ∃ o, c.outline = .ok o ∧ o.Clean ∧ s.toList = o.chars

theorem outlines_of_encode {cs : List Condition} (outlined : ∀ c ∈ cs, c.Outlined)
    {texts : List String} (encoded : cs.mapM encode = .ok texts) :
    ∃ os, outlines cs = .ok os ∧ (∀ o ∈ os, o.Clean) ∧
      (commaJoin texts).toList = Outline.joined os := by
  induction cs generalizing texts with
  | nil =>
    rw [List.mapM_nil, pure_ok] at encoded
    subst encoded
    exact ⟨[], rfl, by simp, rfl⟩
  | cons c cs ih =>
    obtain ⟨s, rest, first, later, rfl⟩ := mapM_cons_ok.mp encoded
    obtain ⟨o, outline, clean, written⟩ := outlined c List.mem_cons_self s first
    obtain ⟨os, outlines, all_clean, joined⟩ :=
      ih (fun c member => outlined c (List.mem_cons_of_mem _ member)) later
    refine ⟨o :: os, ?_, List.forall_mem_cons.mpr ⟨clean, all_clean⟩, ?_⟩
    · simp only [Condition.outlines, outline, outlines]
      rfl
    · cases cs with
      | nil =>
        rw [List.mapM_nil, pure_ok] at later
        obtain rfl : os = [] := (Except.ok.inj outlines).symm
        subst later
        exact written
      | cons d ds =>
        obtain ⟨t, others, _, _, rfl⟩ := mapM_cons_ok.mp later
        simp only [Condition.outlines, bind_ok, pure_ok] at outlines
        obtain ⟨p, _, ps, _, rfl⟩ := outlines
        rw [toList_commaJoin_cons_cons, written, joined, Outline.joined]

theorem outline_of_encode {c : Condition} (built : c.Built) (free : c.Unreserved) :
    c.Outlined := by
  induction free with
  | comparison other name text =>
    intro s encoded
    obtain ⟨_, made, rfl⟩ := (encode_test (clause_comparison other _ _)).mp encoded
    simp only [bind_ok, pure_ok] at made
    obtain ⟨t, shown, rfl⟩ := made
    refine ⟨.test _ _ (.text t), ?_, .test name (.text built.parts.1 other (text t shown)), ?_⟩
    · unfold outline
      split
      · exact absurd rfl other
      · simp only [shown]
        rfl
    · simp [Outline.chars, Outline.operandChars]
  | among name filled texts =>
    intro s encoded
    obtain ⟨_, made, rfl⟩ := (encode_test (clause_among _ _)).mp encoded
    simp only [bind_ok, pure_ok] at made
    obtain ⟨ts, shown, rfl⟩ := made
    refine ⟨.test _ .member (.list ts), ?_, .test name (.list
      (Value.operandTexts_ne_nil filled shown) (Value.free_operandTexts texts shown)), ?_⟩
    · simp only [outline, shown]
      rfl
    · simp [Outline.chars, Outline.operandChars, Operator.token]
  | quantified name filled texts =>
    intro s encoded
    obtain ⟨_, made, rfl⟩ := (encode_test (clause_quantified _ _ _ _)).mp encoded
    simp only [bind_ok, pure_ok] at made
    obtain ⟨ts, shown, rfl⟩ := made
    refine ⟨.quantified _ _ _ ts, ?_, .quantified name built.parts.1 built.parts.2.2
      (Value.operandTexts_ne_nil filled shown) (Value.free_operandTexts texts shown), ?_⟩
    · simp only [outline, shown]
      rfl
    · simp [Outline.chars]
  | search given name tongue text =>
    intro s encoded
    obtain ⟨_, made, rfl⟩ := (encode_test (clause_search given _ _ _)).mp encoded
    simp only [bind_ok, pure_ok] at made
    obtain ⟨l, spoken, q, shown, rfl⟩ := made
    refine ⟨.search _ _ l q, ?_, .search name built.parts.1 (tongue l spoken) (text q shown), ?_⟩
    · simp only [outline, given, if_true, spoken, shown]
      rfl
    · simp [Outline.chars]
  | @plainSearch op _ _ _ missing name text =>
    intro s encoded
    obtain ⟨_, made, rfl⟩ := (encode_test (clause_search_plain missing _ _ _)).mp encoded
    simp only [bind_ok, pure_ok] at made
    obtain ⟨t, shown, rfl⟩ := made
    have searches : op.isTextSearch = true := built.parts.1
    have other : op ≠ .member := by
      rintro rfl
      exact absurd searches (by decide)
    refine ⟨.test _ op (.text t), ?_,
      .test name (.text (isPlain_of_isTextSearch searches) other (text t shown)), ?_⟩
    · simp only [outline, missing, shown]
      rfl
    · simp [Outline.chars, Outline.operandChars]
  | between name low_text high_text =>
    intro s encoded
    obtain ⟨_, made, rfl⟩ := (encode_test (clause_between _ _ _)).mp encoded
    simp only [bind_ok, pure_ok] at made
    obtain ⟨low, low_shown, high, high_shown, rfl⟩ := made
    refine ⟨.test _ .between (.range low high), ?_,
      .test name (.range (low_text low low_shown) (high_text high high_shown)), ?_⟩
    · simp only [outline, low_shown, high_shown]
      rfl
    · simp [Outline.chars, Outline.operandChars, Operator.token]
  | not part ih =>
    intro s encoded
    obtain ⟨text, inner, rfl⟩ := (encode_not (fun v same => by subst same; cases part)).mp encoded
    obtain ⟨o, outline, clean, written⟩ := ih built.parts text inner
    refine ⟨.not o, ?_, .not clean, by simp [Outline.chars, written]⟩
    simp only [Condition.outline, outline]
    rfl
  | and parts ih =>
    intro s encoded
    obtain ⟨texts, inner, rfl⟩ := encode_and.mp encoded
    obtain ⟨os, outlines, clean, joined⟩ :=
      outlines_of_encode (fun c member => ih c member (built.parts c member)) inner
    refine ⟨.group .and os, ?_, .group (.inl rfl) clean, ?_⟩
    · simp only [outline, outlines]
      rfl
    · simp [Outline.chars, Operator.token, joined]
  | or parts ih =>
    intro s encoded
    obtain ⟨texts, inner, rfl⟩ := encode_or.mp encoded
    obtain ⟨os, outlines, clean, joined⟩ :=
      outlines_of_encode (fun c member => ih c member (built.parts c member)) inner
    refine ⟨.group .or os, ?_, .group (.inr rfl) clean, ?_⟩
    · simp only [outline, outlines]
      rfl
    · simp [Outline.chars, Operator.token, joined]

end Condition

end RestQuery
