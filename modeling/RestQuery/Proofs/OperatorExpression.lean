import RestQuery.Proofs.ContractFaults
import RestQuery.Proofs.StepWrites

/-!
# Operator expressions

A raw operator expression is made of tokens between dots, each with at most one argument. The two
filters that take one accept what this grammar allows, and besides only a line break at the end of a
segment, which they do not see: `filters_accept_iff`.
-/

namespace RestQuery

open Text

namespace Operator

/-- A token of the vocabulary, perhaps with one argument in parentheses. -/
inductive Segment : List Char → Prop where
  | token (op : Operator) : Segment op.token.toList
  | applied (op : Operator) {argument : List Char} (no_open : '(' ∉ argument)
      (no_close : ')' ∉ argument) : Segment (op.token.toList ++ '(' :: (argument ++ [')']))

/-- A segment as it is checked: a line break at its end goes unseen. -/
def CheckedSegment (p : List Char) : Prop := ∃ q, Segment q ∧ (p = q ∨ p = q ++ ['\n'])

/-- Pieces with dots between them and none inside, at least one. -/
def Dotted (piece : List Char → Prop) (s : String) : Prop :=
  ∃ pieces : List (List Char), pieces ≠ [] ∧ (∀ p ∈ pieces, piece p ∧ '.' ∉ p) ∧
    s = joinWith "." (pieces.map String.ofList)

theorem dotted_iff {piece : List Char → Prop} {s : String} :
    Dotted piece s ↔ ∀ p ∈ splitChars '.' s.toList, piece p := by
  constructor
  · rintro ⟨pieces, filled, each, rfl⟩
    have split := splitChars_joinWith filled fun p member => (each p member).2
    intro p member
    have here : p ∈ pieces := split ▸ member
    exact (each p here).1
  · intro each
    have joined := joinWith_splitChars '.' s.toList
    rw [String.ofList_toList] at joined
    exact ⟨_, splitChars_ne_nil '.' s.toList,
      fun p member => ⟨each p member, notMem_of_mem_splitChars member⟩, joined.symm⟩

/-! ### Segments -/

theorem atEnd_iff {s : List Char} : atEnd s = true ↔ s = [] ∨ s = ['\n'] := by
  simp [atEnd, List.isEmpty_iff]

theorem isArgument_iff {s : List Char} :
    isArgument s = true ↔ ∃ argument rest, '(' ∉ argument ∧ ')' ∉ argument ∧ atEnd rest = true ∧
      s = '(' :: (argument ++ ')' :: rest) := by
  have inside {argument : List Char} (no_open : '(' ∉ argument) (no_close : ')' ∉ argument) :
      ∀ c ∈ argument, (c != '(' && c != ')') = true := by
    intro c member
    have not_open : c ≠ '(' := fun same => no_open (same ▸ member)
    have not_close : c ≠ ')' := fun same => no_close (same ▸ member)
    simp [not_open, not_close]
  constructor
  · intro found
    unfold isArgument at found
    split at found
    · rename_i s
      split at found
      · rename_i rest stopped
        have whole := List.takeWhile_append_dropWhile (p := fun c => c != '(' && c != ')') (l := s)
        rw [stopped] at whole
        have passed : ∀ c ∈ s.takeWhile fun c => c != '(' && c != ')',
            (c != '(' && c != ')') = true := List.all_eq_true.mp List.all_takeWhile
        refine ⟨_, rest, ?_, ?_, found, congrArg ('(' :: ·) whole.symm⟩
        · exact fun member => absurd (passed _ member) (by decide)
        · exact fun member => absurd (passed _ member) (by decide)
      · cases found
    · cases found
  · rintro ⟨argument, rest, no_open, no_close, ended, rfl⟩
    have stopped : (argument ++ ')' :: rest).dropWhile (fun c => c != '(' && c != ')') =
        ')' :: rest := by
      rw [List.dropWhile_append_of_pos (inside no_open no_close),
        List.dropWhile_cons_of_neg (by decide)]
    simp only [isArgument, stopped]
    exact ended

/-- No name goes on where a segment may stop or an argument starts. -/
theorem takeWhile_isNameChar {rest : List Char} (stops : atEnd rest = true ∨ isArgument rest = true) :
    rest.takeWhile isNameChar = [] := by
  rcases stops with ended | applied
  · rcases atEnd_iff.mp ended with rfl | rfl
    · rfl
    · rfl
  · obtain ⟨argument, tail, _, _, _, rfl⟩ := isArgument_iff.mp applied
    exact List.takeWhile_cons_of_neg (by decide)

theorem segmentName?_eq_some {p : List Char} {name : String} :
    segmentName? p = some name ↔ ∃ rest, p = name.toList ++ rest ∧ name ≠ "" ∧
      (∀ c ∈ name.toList, isNameChar c = true) ∧
      (atEnd rest = true ∨ isArgument rest = true) := by
  have whole := List.takeWhile_append_dropWhile (p := isNameChar) (l := p)
  unfold segmentName?
  constructor
  · intro found
    simp only [Option.ite_none_right_eq_some, Option.some.injEq, Bool.and_eq_true,
      Bool.not_eq_true', Bool.or_eq_true] at found
    obtain ⟨⟨filled, stops⟩, rfl⟩ := found
    refine ⟨_, ?_, ?_, ?_, stops⟩
    · rw [String.toList_ofList, whole]
    · intro empty
      have none := congrArg String.toList empty
      rw [String.toList_ofList, String.toList_empty] at none
      rw [none] at filled
      cases filled
    · rw [String.toList_ofList]
      exact List.all_eq_true.mp List.all_takeWhile
  · rintro ⟨rest, rfl, filled, letters, stops⟩
    have nothing := takeWhile_isNameChar stops
    have all := List.takeWhile_append_dropWhile (p := isNameChar) (l := rest)
    rw [nothing, List.nil_append] at all
    have written : name.toList ≠ [] := fun none => filled (String.toList_eq_nil_iff.mp none)
    simp only [List.takeWhile_append_of_pos letters, List.dropWhile_append_of_pos letters, nothing,
      all, List.append_nil, String.ofList_toList]
    rw [if_pos]
    simp [written, stops]

theorem isNameChar_of_mem_token (op : Operator) : ∀ c ∈ op.token.toList, isNameChar c = true := by
  have letters : op.token.toList.all isNameChar = true := by
    cases op <;> decide
  exact List.all_eq_true.mp letters

theorem token_ne_empty (op : Operator) : op.token ≠ "" := by
  cases op <;> decide

/-- What passes the check of one segment names an operator and is a segment, a line break aside. -/
theorem checkedSegment_iff {p : List Char} :
    CheckedSegment p ↔ ∃ op : Operator, segmentName? p = some op.token := by
  simp only [segmentName?_eq_some]
  constructor
  · rintro ⟨q, segment, same⟩
    obtain ⟨tail, ended, rfl⟩ : ∃ tail, atEnd tail = true ∧ p = q ++ tail := by
      rcases same with rfl | rfl
      · exact ⟨[], rfl, (List.append_nil p).symm⟩
      · exact ⟨['\n'], rfl, rfl⟩
    cases segment with
    | token op =>
      exact ⟨op, tail, rfl, token_ne_empty op, isNameChar_of_mem_token op, Or.inl ended⟩
    | @applied op argument no_open no_close =>
      refine ⟨op, '(' :: (argument ++ ')' :: tail), by simp, token_ne_empty op,
        isNameChar_of_mem_token op, Or.inr ?_⟩
      exact isArgument_iff.mpr ⟨argument, tail, no_open, no_close, ended, rfl⟩
  · rintro ⟨op, rest, rfl, _, _, ended | applied⟩
    · refine ⟨_, .token op, ?_⟩
      rcases atEnd_iff.mp ended with rfl | rfl
      · exact Or.inl (List.append_nil _)
      · exact Or.inr rfl
    · obtain ⟨argument, tail, no_open, no_close, ended, rfl⟩ := isArgument_iff.mp applied
      refine ⟨_, .applied op no_open no_close, ?_⟩
      rcases atEnd_iff.mp ended with rfl | rfl
      · exact Or.inl rfl
      · exact Or.inr (by simp)

theorem Segment.getLast?_ne {p : List Char} (segment : Segment p) : p.getLast? ≠ some '\n' := by
  cases segment with
  | token op => cases op <;> decide
  | @applied op argument =>
    rw [← List.cons_append, ← List.append_assoc, List.getLast?_concat]
    decide

theorem segment_iff {p : List Char} :
    Segment p ↔ CheckedSegment p ∧ p.getLast? ≠ some '\n' := by
  constructor
  · exact fun segment => ⟨⟨p, segment, Or.inl rfl⟩, segment.getLast?_ne⟩
  · rintro ⟨⟨q, segment, rfl | rfl⟩, closed⟩
    · exact segment
    · exact absurd List.getLast?_concat closed

/-! ### Expressions -/

theorem parse_text_ok {name : String} {op : Operator} :
    parse (.text name) = .ok op ↔ name = op.token := by
  constructor
  · intro parsed
    cases known : ofToken? name with
    | none => simp [parse, known] at parsed
    | some op' =>
      simp only [parse, known, Except.ok.injEq] at parsed
      rw [← parsed, token_of_ofToken? known]
  · rintro rfl
    exact parse_text_token op

theorem checkSegments_ok {malformed : Fault} {pieces : List (List Char)} :
    checkSegments malformed pieces = .ok () ↔ ∀ p ∈ pieces, CheckedSegment p := by
  induction pieces with
  | nil => simp [checkSegments]
  | cons p rest ih =>
    rw [List.forall_mem_cons, checkedSegment_iff, ← ih, checkSegments]
    cases found : segmentName? p with
    | none => simp
    | some name => simp only [bind_ok, parse_text_ok, Option.some.injEq, exists_and_right]

theorem expression_ok {operation s e : String} :
    expression operation (.text s) = .ok e ↔ Dotted CheckedSegment s ∧ e = s := by
  rw [dotted_iff]
  by_cases empty : s = ""
  · subst empty
    have unchecked : ¬ CheckedSegment [] := by
      rw [checkedSegment_iff]
      rintro ⟨op, found⟩
      cases found
    simp [expression, splitChars, unchecked]
  · have checked : expression operation (.text s) = do
        checkSegments (.argument operation "operator" "an operator expression" (.text s))
          (splitChars '.' s.toList)
        return s := if_neg empty
    rw [checked, bind_ok]
    constructor
    · rintro ⟨_, each, same⟩
      exact ⟨checkSegments_ok.mp each, (pure_ok.mp same).symm⟩
    · rintro ⟨each, rfl⟩
      exact ⟨(), checkSegments_ok.mpr each, rfl⟩

end Operator

/-! ### The filters -/

/-- What a filter by an operator expression comes to: it succeeds exactly if the expression passes,
what it leaves is a text stored under the column, and to be refused is the fault of the caller. -/
structure Request.StoresExpression (r : Request) (column : Value) (key s stored : String)
    (x : Outcome Request) : Prop where
  accepted : (∃ r', x = .ok r') ↔ Operator.Dotted Operator.CheckedSegment s
  left : ∀ r', x = .ok r' →
    r.replaceQuery column (.text stored) = .ok r' ∧ (key, stored) ∈ r'.query.entries
  blamed : ∀ f, x = .error f → f.isContractViolation = true

namespace Query

theorem mem_replace (q : Query) (key text : String) : (key, text) ∈ (q.replace key text).entries := by
  unfold replace put
  split
  · rename_i held
    obtain ⟨e, member, same⟩ := List.any_eq_true.mp held
    refine List.mem_map.mpr ⟨e, member, ?_⟩
    rw [if_pos same, beq_iff_eq.mp same]
  · exact List.mem_append_right _ List.mem_cons_self

end Query

namespace Request

variable {r : Request} {column value : Value} {key text : String}

theorem exists_replaceQuery (named : column.display = .ok key) (text : String) :
    ∃ r', r.replaceQuery column (.text text) = .ok r' ∧ (key, text) ∈ r'.query.entries := by
  cases column with
  | text k =>
    cases named
    exact ⟨_, rfl, Query.mem_replace r.query k text⟩
  | _ =>
    refine ⟨{ r with query := r.query.append key text }, ?_, List.mem_append_right _ List.mem_cons_self⟩
    exact bind_ok.mpr ⟨text, rfl, bind_ok.mpr ⟨key, named, rfl⟩⟩

theorem storesExpression {operation s stored : String} (named : column.display = .ok key)
    {store : String → Outcome Request} (stores : store s = r.replaceQuery column (.text stored)) :
    r.StoresExpression column key s stored
      (Operator.expression operation (.text s) >>= store) := by
  obtain ⟨r', replaced, held⟩ := exists_replaceQuery (r := r) named stored
  have passes : Operator.expression operation (.text s) = .ok s ↔
      Operator.Dotted Operator.CheckedSegment s :=
    Operator.expression_ok.trans (and_iff_left rfl)
  have contained (f : Fault) (refused : Operator.expression operation (.text s) = .error f) :
      f.isContractViolation = true := by
    have shows : (Value.text s).Shows True := fun _ => rfl
    rcases Operator.contained_expression operation shows f refused with blamed | ⟨_, long⟩
    · exact blamed
    · exact absurd trivial long
  cases checked : Operator.expression operation (.text s) with
  | ok e =>
    obtain ⟨dotted, rfl⟩ := Operator.expression_ok.mp checked
    have done : (Except.ok e >>= store : Outcome Request) = .ok r' := stores.trans replaced
    refine ⟨⟨fun _ => dotted, fun _ => ⟨r', done⟩⟩, fun r'' done' => ?_, fun f failed => ?_⟩
    · cases done.symm.trans done'
      exact ⟨replaced, held⟩
    · cases done.symm.trans failed
  | error f =>
    rw [checked] at passes
    refine ⟨⟨?_, fun dotted => nomatch passes.mpr dotted⟩, ?_, ?_⟩
    · rintro ⟨_, ⟨⟩⟩
    · rintro _ ⟨⟩
    · rintro _ ⟨⟩
      exact contained f checked

/-- The filters that take an operator expression accept those of the grammar and store them as they
are, negated or not. They refuse all others, except that they overlook a line break at the end of a
segment: the grammar is what they accept without one. -/
theorem filters_accept_iff (r : Request) (named : column.display = .ok key)
    (rendered : value.operandText = .ok text) (s : String) :
    r.StoresExpression column key s (s ++ "." ++ text) (r.filterRaw column (.text s) value) ∧
      r.StoresExpression column key s ("not." ++ s ++ "." ++ text)
        (r.filterNot column (.text s) value) ∧
      (Operator.Dotted Operator.Segment s ↔ Operator.Dotted Operator.CheckedSegment s ∧
        ∀ p ∈ splitChars '.' s.toList, p.getLast? ≠ some '\n') := by
  refine ⟨storesExpression named ?_, storesExpression named ?_, ?_⟩
  · rw [rendered]
    rfl
  · rw [rendered]
    rfl
  · simp only [Operator.dotted_iff, ← forall_and, Operator.segment_iff]

theorem filters_accept_iff_compound :
    let r : Request := { url := .text "http://h/t", query := ⟨[("a", "is.null")]⟩ }
    (Value.text "c").display = .ok "c" ∧ (Value.list [.int 1, .null]).operandText = .ok "[1,null]" ∧
      Operator.Dotted Operator.Segment "not.fts(simple english)" ∧
      (∃ r', r.filterRaw (.text "c") (.text "not.fts(simple english)") (.list [.int 1, .null]) =
          .ok r' ∧ ("c", "not.fts(simple english).[1,null]") ∈ r'.query.entries) ∧
      ∃ f, r.filterNot (.text "c") (.text "fts(a.b)") (.list [.int 1, .null]) = .error f ∧
        f.isContractViolation = true := by
  intro r
  have named : (Value.text "c").display = .ok "c" := rfl
  have rendered : (Value.list [.int 1, .null]).operandText = .ok "[1,null]" := rfl
  have grammatical : Operator.Dotted Operator.Segment "not.fts(simple english)" := by
    refine ⟨["not".toList, "fts(simple english)".toList], by decide, ?_, by decide⟩
    refine List.forall_mem_cons.mpr ⟨⟨.token .not, by decide⟩,
      List.forall_mem_singleton.mpr ⟨?_, by decide⟩⟩
    exact @Operator.Segment.applied .fullText "simple english".toList (by decide) (by decide)
  obtain ⟨stores, _, grammar⟩ := filters_accept_iff r named rendered "not.fts(simple english)"
  obtain ⟨_, refuses, _⟩ := filters_accept_iff r named rendered "fts(a.b)"
  obtain ⟨r', done⟩ := stores.accepted.mpr (grammar.mp grammatical).1
  exact ⟨named, rendered, grammatical, ⟨r', done, (stores.left r' done).2⟩, _, rfl,
    refuses.blamed _ rfl⟩

/-- A token with a line break behind it is no expression, and yet it is sent to the server. -/
theorem line_break_accepted :
    let client : Client := ⟨"http://h", "k", "public", [], "/rest/v1"⟩
    ¬ Operator.Dotted Operator.Segment "eq\n" ∧
      ∃ r', (client.seed "t").filterRaw (.text "a") (.text "eq\n") (.int 1) = .ok r' ∧
        r'.query.entries = [("a", "eq\n.1")] := by
  refine ⟨?_, _, rfl, rfl⟩
  rw [Operator.dotted_iff]
  intro each
  have segment : Operator.Segment ['e', 'q', '\n'] := each _ (by decide)
  exact segment.getLast?_ne rfl

end Request

end RestQuery
