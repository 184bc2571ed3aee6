import RestQuery.Proofs.ConditionOutline

/-!
# Encodings are read in one way

A clean outline can be read off any text that starts with it and goes on at a boundary, so no two
clean conditions have the same encoding unless their outlines agree.
-/

namespace RestQuery

open Text

/-! ### Up to the next reserved character -/

/-- A text that is empty or starts with a reserved character. -/
def Stops (r : List Char) : Prop := ∀ c ∈ r.head?, isReserved c = true

theorem Stops.cons {c : Char} (reserved : isReserved c = true) (r : List Char) :
    Stops (c :: r) := by
  intro d first
  obtain rfl : c = d := by simpa using first
  exact reserved

/-- What stands before the first reserved character is determined by the text. -/
theorem split_at_mark {s t r q : List Char} (s_free : FreeChars s) (t_free : FreeChars t)
    (r_stops : Stops r) (q_stops : Stops q) (same : s ++ r = t ++ q) : s = t ∧ r = q := by
  induction s generalizing t with
  | nil =>
    cases t with
    | nil => exact ⟨rfl, same⟩
    | cons c t =>
      obtain rfl : r = c :: t ++ q := same
      have reserved : isReserved c = true := r_stops c rfl
      have free : isReserved c = false := t_free c List.mem_cons_self
      exact absurd reserved (by simp [free])
  | cons c s ih =>
    have free : isReserved c = false := s_free c List.mem_cons_self
    cases t with
    | nil =>
      obtain rfl : q = c :: s ++ r := same.symm
      have reserved : isReserved c = true := q_stops c rfl
      exact absurd reserved (by simp [free])
    | cons d t =>
      obtain ⟨rfl, rest⟩ := List.cons.inj same
      obtain ⟨rfl, after⟩ := ih (fun c member => s_free c (List.mem_cons_of_mem _ member))
        (fun c member => t_free c (List.mem_cons_of_mem _ member)) rest
      exact ⟨rfl, after⟩

/-- A text whose first reserved character is a dot or an opening parenthesis, as in every outline. -/
def Fresh (m : List Char) : Prop :=
  ∃ s c r, FreeChars s ∧ (c = '.' ∨ c = '(') ∧ m = s ++ c :: r

/-- The ways in which a text goes on after an outline. -/
inductive Boundary : List Char → Prop where
  | done : Boundary []
  | close (r : List Char) : Boundary (')' :: r)
  | next {m : List Char} (fresh : Fresh m) : Boundary (',' :: m)

theorem Boundary.stops {r : List Char} (boundary : Boundary r) : Stops r := by
  cases boundary with
  | done => exact fun c first => absurd first (by simp)
  | close r => exact Stops.cons (by decide) r
  | next fresh => exact Stops.cons (by decide) _

theorem not_fresh {s r : List Char} (free : FreeChars s) (stops : Stops r)
    (dot : r.head? ≠ some '.') (opening : r.head? ≠ some '(') : ¬ Fresh (s ++ r) := by
  rintro ⟨t, c, q, t_free, mark, same⟩
  have reserved : isReserved c = true := by
    rcases mark with rfl | rfl <;> decide
  obtain ⟨_, rfl⟩ := split_at_mark free t_free stops (Stops.cons reserved q) same
  rcases mark with rfl | rfl
  · exact dot rfl
  · exact opening rfl

theorem Boundary.not_fresh {s r : List Char} (free : FreeChars s) (boundary : Boundary r) :
    ¬ Fresh (s ++ r) := by
  refine RestQuery.not_fresh free boundary.stops ?_ ?_
  · cases boundary <;> simp
  · cases boundary <;> simp

theorem FreeChars.append {s t : List Char} (s_free : FreeChars s) (t_free : FreeChars t) :
    FreeChars (s ++ t) := by
  intro c member
  rcases List.mem_append.mp member with member | member
  · exact s_free c member
  · exact t_free c member

theorem Operator.free_token (op : Operator) : Free op.token := by
  cases op <;> decide

theorem Operator.equals_not_mem_token (op : Operator) : '=' ∉ op.token.toList := by
  cases op <;> decide

/-! ### Lists of texts -/

/-- The texts of a list are followed by a text with a comma or by the boundary. -/
theorem texts_not_fresh {texts : List String} (free : ∀ s ∈ texts, Free s) {close r : List Char}
    (close_free : FreeChars close) (boundary : Boundary r) :
    ¬ Fresh ((commaJoin texts).toList ++ (close ++ r)) := by
  cases texts with
  | nil =>
    change ¬ Fresh (close ++ r)
    exact boundary.not_fresh close_free
  | cons s texts =>
    have s_free : Free s := free s List.mem_cons_self
    cases texts with
    | nil =>
      rw [← List.append_assoc]
      exact boundary.not_fresh (s_free.append close_free)
    | cons t texts =>
      rw [toList_commaJoin_cons_cons, List.append_assoc]
      exact not_fresh s_free (Stops.cons (by decide) _) (by simp) (by simp)

theorem read_texts (close : List Char) {texts others : List String} (filled : texts ≠ []) (others_filled : others ≠ [])
    (free : ∀ s ∈ texts, Free s) (others_free : ∀ s ∈ others, Free s) {r q : List Char}
    (close_free : FreeChars close) (r_boundary : Boundary r) (q_boundary : Boundary q)
    (same : (commaJoin texts).toList ++ (close ++ r) = (commaJoin others).toList ++ (close ++ q)) :
    texts = others ∧ r = q := by
  induction texts generalizing others with
  | nil => exact absurd rfl filled
  | cons s texts ih =>
    obtain ⟨s', others, rfl⟩ := List.exists_cons_of_ne_nil others_filled
    obtain ⟨s_free, free⟩ := List.forall_mem_cons.mp free
    obtain ⟨s_free', others_free⟩ := List.forall_mem_cons.mp others_free
    have comma (m : List Char) : Stops (',' :: m) := Stops.cons (by decide) m
    -- A list that ends where the other one goes on would be followed by a fresh text.
    cases texts with
    | nil =>
      cases others with
      | nil =>
        change s.toList ++ (close ++ r) = s'.toList ++ (close ++ q) at same
        rw [← List.append_assoc, ← List.append_assoc] at same
        obtain ⟨texts_same, rest⟩ := split_at_mark (s_free.append close_free)
          (s_free'.append close_free) r_boundary.stops q_boundary.stops same
        exact ⟨by rw [String.toList_injective (List.append_cancel_right texts_same)], rest⟩
      | cons t' others =>
        rw [toList_commaJoin_cons_cons, List.append_assoc] at same
        change s.toList ++ (close ++ r) = _ at same
        rw [← List.append_assoc] at same
        obtain ⟨_, rfl⟩ := split_at_mark (s_free.append close_free) s_free' r_boundary.stops
          (comma _) same
        cases r_boundary with
        | next fresh => exact absurd fresh (texts_not_fresh others_free close_free q_boundary)
    | cons t texts =>
      rw [toList_commaJoin_cons_cons, List.append_assoc] at same
      cases others with
      | nil =>
        change _ = s'.toList ++ (close ++ q) at same
        rw [← List.append_assoc s'.toList] at same
        obtain ⟨_, rfl⟩ := split_at_mark s_free (s_free'.append close_free) (comma _)
          q_boundary.stops same
        cases q_boundary with
        | next fresh => exact absurd fresh (texts_not_fresh free close_free r_boundary)
      | cons t' others =>
        rw [toList_commaJoin_cons_cons, List.append_assoc] at same
        obtain ⟨text_same, rest⟩ := split_at_mark s_free s_free' (comma _) (comma _) same
        obtain ⟨later, rest⟩ := ih (List.cons_ne_nil t texts) (List.cons_ne_nil t' others) free
          others_free (List.cons.inj rest).2
        exact ⟨by rw [String.toList_injective text_same, later], rest⟩

/-! ### Outlines -/

theorem read_operand {op : Operator} {a b : Operand} (a_fits : Outline.OperandClean op a)
    (b_fits : Outline.OperandClean op b) {r q : List Char} (r_boundary : Boundary r)
    (q_boundary : Boundary q)
    (same : Outline.operandChars a ++ r = Outline.operandChars b ++ q) : a = b ∧ r = q := by
  cases a_fits with
  | text plain other free =>
    cases b_fits with
    | text _ _ free' =>
      obtain ⟨text, rest⟩ := split_at_mark free free' r_boundary.stops q_boundary.stops same
      exact ⟨by rw [String.toList_injective text], rest⟩
    | list _ _ => exact absurd rfl other
    | range _ _ => exact absurd plain (by decide)
  | list filled free =>
    cases b_fits with
    | text _ other _ => exact absurd rfl other
    | list filled' free' =>
      simp only [Outline.operandChars, List.cons_append, List.append_assoc, List.cons.injEq,
        true_and, List.nil_append] at same
      obtain ⟨rfl, rest⟩ := read_texts [] filled filled' free free'
        (by decide) (.close r) (.close q) same
      exact ⟨rfl, (List.cons.inj rest).2⟩
  | @range low high low_free high_free =>
    cases b_fits with
    | text plain _ _ => exact absurd plain (by decide)
    | @range low' high' low_free' high_free' =>
      have bracket : FreeChars [']'] := by decide
      simp only [Outline.operandChars, List.cons_append, List.append_assoc, List.cons.injEq,
        true_and] at same
      obtain ⟨low_same, same⟩ := split_at_mark low_free low_free' (Stops.cons (by decide) _)
        (Stops.cons (by decide) _) same
      have same : high.toList ++ [']'] ++ r = high'.toList ++ [']'] ++ q := by
        simpa using (List.cons.inj same).2
      obtain ⟨high_same, rest⟩ := split_at_mark (high_free.append bracket)
        (high_free'.append bracket) r_boundary.stops q_boundary.stops same
      have high_same := List.append_cancel_right high_same
      exact ⟨by rw [String.toList_injective low_same, String.toList_injective high_same], rest⟩

/-- The first reserved character of an operand and of what follows it is not a dot. -/
theorem operand_without_dot {op : Operator} {a : Operand} (fits : Outline.OperandClean op a)
    {s r m : List Char} (boundary : Boundary r) (free : FreeChars s) :
    Outline.operandChars a ++ r ≠ s ++ '.' :: m := by
  intro same
  have dot : Stops ('.' :: m) := Stops.cons (by decide) m
  cases fits with
  | text _ _ text_free =>
    obtain ⟨_, rfl⟩ := split_at_mark text_free free boundary.stops dot same
    cases boundary
  | list _ _ =>
    have nothing : FreeChars [] := by decide
    obtain ⟨_, rest⟩ := split_at_mark nothing free (Stops.cons (by decide) _) dot same
    exact absurd (List.cons.inj rest).1 (by decide)
  | @range low _ low_free _ =>
    have bracket : FreeChars ('[' :: low.toList) := List.forall_mem_cons.mpr ⟨by decide, low_free⟩
    simp only [Outline.operandChars, List.cons_append, List.append_assoc] at same
    rw [← List.cons_append] at same
    obtain ⟨_, rest⟩ := split_at_mark bracket free (Stops.cons (by decide) _) dot same
    exact absurd (List.cons.inj rest).1 (by decide)

namespace Outline

/-- The characters of an outline before its first reserved one. -/
def lead : Outline → List Char
  | test column _ _ => column.toList
  | quantified column op _ _ | search column op _ _ => column.toList ++ '=' :: op.token.toList
  | not _ => ['n', 'o', 't']
  | group op _ => op.token.toList

def mark : Outline → Char
  | test _ _ _ | not _ => '.'
  | quantified _ _ _ _ | search _ _ _ _ | group _ _ => '('

def body : Outline → List Char
  | test _ op operand => op.token.toList ++ '.' :: operandChars operand
  | quantified _ _ q texts =>
    q.token.toList ++ ')' :: '.' :: '\x7b' :: ((commaJoin texts).toList ++ ['\x7d'])
  | search _ _ language query => language.toList ++ ')' :: '.' :: query.toList
  | not o => o.chars
  | group _ os => joined os ++ [')']

theorem chars_eq (o : Outline) : o.chars = o.lead ++ o.mark :: o.body := by
  cases o <;> simp [chars, lead, mark, body]

theorem mark_reserved (o : Outline) : isReserved o.mark = true := by
  cases o <;> rfl

theorem free_lead {o : Outline} (clean : o.Clean) : FreeChars o.lead := by
  cases clean with
  | test name _ => exact name
  | quantified name _ _ _ _ =>
    exact name.append (List.forall_mem_cons.mpr ⟨by decide, Operator.free_token _⟩)
  | search name _ _ _ =>
    exact name.append (List.forall_mem_cons.mpr ⟨by decide, Operator.free_token _⟩)
  | not _ =>
    change FreeChars ['n', 'o', 't']
    decide
  | group _ _ => exact Operator.free_token _

theorem fresh {o : Outline} (clean : o.Clean) (r : List Char) : Fresh (o.chars ++ r) := by
  refine ⟨o.lead, o.mark, o.body ++ r, free_lead clean, ?_, ?_⟩
  · cases o <;> simp [mark]
  · rw [chars_eq, List.append_assoc, List.cons_append]

theorem same_head {o p : Outline} (o_clean : o.Clean) (p_clean : p.Clean) {r q : List Char}
    (same : o.chars ++ r = p.chars ++ q) :
    o.lead = p.lead ∧ o.mark = p.mark ∧ o.body ++ r = p.body ++ q := by
  rw [chars_eq, chars_eq, List.append_assoc, List.append_assoc] at same
  obtain ⟨lead, rest⟩ := split_at_mark (free_lead o_clean) (free_lead p_clean)
    (Stops.cons o.mark_reserved _) (Stops.cons p.mark_reserved _) same
  exact ⟨lead, List.cons.inj rest⟩

/-! ### Reading an outline -/

/-- An outline that is read off every text that starts with it and goes on at a boundary. -/
def Readable (o : Outline) : Prop :=
  ∀ p r q, p.Clean → Boundary r → Boundary q → o.chars ++ r = p.chars ++ q → o = p ∧ r = q

/-- What follows the first one of joined outlines. -/
def after : List Outline → List Char → List Char
  | [], r => ')' :: r
  | o :: os, r => ',' :: (joined (o :: os) ++ ')' :: r)

theorem joined_cons (o : Outline) (os : List Outline) (r : List Char) :
    joined (o :: os) ++ ')' :: r = o.chars ++ after os r := by
  cases os with
  | nil => rfl
  | cons p os => simp [joined, after]

theorem boundary_after {os : List Outline} (clean : ∀ o ∈ os, o.Clean) (r : List Char) :
    Boundary (after os r) := by
  cases os with
  | nil => exact .close r
  | cons o os =>
    change Boundary (',' :: (joined (o :: os) ++ ')' :: r))
    rw [joined_cons]
    exact .next (fresh (clean o List.mem_cons_self) _)

theorem joined_ne_nil {o : Outline} {os : List Outline} (clean : o.Clean) (r q : List Char) :
    joined (o :: os) ++ ')' :: r ≠ ')' :: q := by
  rw [joined_cons]
  intro same
  have nothing : FreeChars [] := by decide
  exact not_fresh nothing (Stops.cons (by decide) q) (by simp) (by simp) (same ▸ fresh clean _)

theorem read_joined {os ps : List Outline} (readable : ∀ o ∈ os, o.Readable)
    (os_clean : ∀ o ∈ os, o.Clean) (ps_clean : ∀ p ∈ ps, p.Clean) {r q : List Char}
    (same : joined os ++ ')' :: r = joined ps ++ ')' :: q) : os = ps ∧ r = q := by
  induction os generalizing ps with
  | nil =>
    cases ps with
    | nil => exact ⟨rfl, (List.cons.inj same).2⟩
    | cons p ps => exact absurd same.symm (joined_ne_nil (ps_clean p List.mem_cons_self) q r)
  | cons o os ih =>
    cases ps with
    | nil => exact absurd same (joined_ne_nil (os_clean o List.mem_cons_self) r q)
    | cons p ps =>
      obtain ⟨o_readable, readable⟩ := List.forall_mem_cons.mp readable
      obtain ⟨_, os_clean⟩ := List.forall_mem_cons.mp os_clean
      obtain ⟨p_clean, tail_clean⟩ := List.forall_mem_cons.mp ps_clean
      rw [joined_cons, joined_cons] at same
      obtain ⟨rfl, rest⟩ := o_readable p _ _ p_clean (boundary_after os_clean r)
        (boundary_after tail_clean q) same
      -- Both go on, or both are at their last outline.
      cases os with
      | nil =>
        cases ps with
        | nil => exact ⟨rfl, (List.cons.inj rest).2⟩
        | cons p ps => exact absurd (List.cons.inj rest).1 (by decide)
      | cons o' os =>
        cases ps with
        | nil => exact absurd (List.cons.inj rest).1 (by decide)
        | cons p' ps =>
          obtain ⟨later, after_same⟩ := ih readable os_clean tail_clean (List.cons.inj rest).2
          exact ⟨by rw [later], after_same⟩

theorem dotted {p : Outline} (clean : p.Clean) (mark : '.' = p.mark) :
    (∃ column op operand, p = test column op operand ∧ OperandClean op operand) ∨
      ∃ o, p = not o ∧ o.Clean := by
  cases clean with
  | @test column op operand _ fits => exact Or.inl ⟨column, op, operand, rfl, fits⟩
  | @not o part => exact Or.inr ⟨o, rfl, part⟩
  | quantified _ _ _ _ _ => exact absurd mark (by simp [Outline.mark])
  | search _ _ _ _ => exact absurd mark (by simp [Outline.mark])
  | group _ _ => exact absurd mark (by simp [Outline.mark])

theorem braced {p : Outline} (clean : p.Clean) (mark : '(' = p.mark) :
    (∃ column op q texts, p = quantified column op q texts ∧ op.isQuantifiable = true ∧
        texts ≠ [] ∧ ∀ s ∈ texts, Free s) ∨
      (∃ column op language query, p = search column op language query ∧
        op.isTextSearch = true ∧ Free language ∧ Free query) ∨
      ∃ op os, p = group op os ∧ ∀ o ∈ os, o.Clean := by
  cases clean with
  | test _ _ => exact absurd mark (by simp [Outline.mark])
  | not _ => exact absurd mark (by simp [Outline.mark])
  | @quantified column op q texts _ quantifiable _ filled free =>
    exact Or.inl ⟨column, op, q, texts, rfl, quantifiable, filled, free⟩
  | @search column op language query _ searches tongue free =>
    exact Or.inr (Or.inl ⟨column, op, language, query, rfl, searches, tongue, free⟩)
  | @group op os _ parts => exact Or.inr (Or.inr ⟨op, os, rfl, parts⟩)

/-- A test on a column named like a negation is no negation. -/
theorem test_ne_negation {op : Operator} {a : Operand} (fits : OperandClean op a) {o : Outline}
    (clean : o.Clean) {r q : List Char} (boundary : Boundary r) :
    op.token.toList ++ '.' :: (operandChars a ++ r) ≠ o.chars ++ q := by
  intro same
  rw [chars_eq, List.append_assoc] at same
  obtain ⟨token, rest⟩ := split_at_mark op.free_token (free_lead clean)
    (Stops.cons (by decide) _) (Stops.cons o.mark_reserved _) same
  obtain ⟨mark, rest⟩ := List.cons.inj rest
  obtain ⟨_, op', operand', rfl, _⟩ | ⟨o, rfl, _⟩ := dotted clean mark
  · have rest : operandChars a ++ r = op'.token.toList ++ '.' :: (operandChars operand' ++ q) := by
      simpa [body] using rest
    exact operand_without_dot fits boundary op'.free_token rest
  · obtain rfl : op = .not := Operator.token_inj (String.toList_injective token)
    cases fits with
    | text plain _ _ => exact absurd plain (by decide)

theorem column_op_same {column column' : String} {op op' : Operator}
    (same : column.toList ++ '=' :: op.token.toList = column'.toList ++ '=' :: op'.token.toList) :
    column = column' ∧ op = op' := by
  obtain ⟨name, token⟩ :=
    split_at_last op.equals_not_mem_token op'.equals_not_mem_token same
  exact ⟨String.toList_injective name, Operator.token_inj (String.toList_injective token)⟩

/-- A group has no column in front of it. -/
theorem column_ne_group {column : String} {op op' : Operator} :
    column.toList ++ '=' :: op.token.toList ≠ op'.token.toList := by
  intro same
  exact op'.equals_not_mem_token (same ▸ List.mem_append_right _ List.mem_cons_self)

theorem not_search_of_quantifiable {op : Operator} (quantifiable : op.isQuantifiable = true) :
    op.isTextSearch ≠ true := by
  cases op <;> first | exact absurd quantifiable (by decide) | decide

theorem readable_test {column : String} {op : Operator} {operand : Operand} (name : Free column)
    (fits : OperandClean op operand) : (test column op operand).Readable := by
  intro p r q p_clean r_boundary q_boundary same
  obtain ⟨lead, mark, rest⟩ := same_head (.test name fits) p_clean same
  obtain ⟨column', op', operand', rfl, fits'⟩ | ⟨o, rfl, part⟩ := dotted p_clean mark
  · obtain rfl : column = column' := String.toList_injective lead
    simp only [body, List.append_assoc, List.cons_append] at rest
    obtain ⟨token, operands⟩ := split_at_mark op.free_token op'.free_token
      (Stops.cons (by decide) _) (Stops.cons (by decide) _) rest
    obtain rfl : op = op' := Operator.token_inj (String.toList_injective token)
    obtain ⟨rfl, after_same⟩ :=
      read_operand fits fits' r_boundary q_boundary (List.cons.inj operands).2
    exact ⟨rfl, after_same⟩
  · simp only [body, List.append_assoc, List.cons_append] at rest
    exact absurd rest (test_ne_negation fits part r_boundary)

theorem readable_not {o : Outline} (part : o.Clean) (readable : o.Readable) :
    (not o).Readable := by
  intro p r q p_clean r_boundary q_boundary same
  obtain ⟨_, mark, rest⟩ := same_head (.not part) p_clean same
  obtain ⟨_, _, _, rfl, fits'⟩ | ⟨o', rfl, part'⟩ := dotted p_clean mark
  · simp only [body, List.append_assoc, List.cons_append] at rest
    exact absurd rest.symm (test_ne_negation fits' part q_boundary)
  · obtain ⟨rfl, after_same⟩ := readable o' r q part' r_boundary q_boundary rest
    exact ⟨rfl, after_same⟩

theorem readable_quantified {column : String} {op quantifier : Operator} {texts : List String}
    (clean : (quantified column op quantifier texts).Clean)
    (quantifiable : op.isQuantifiable = true) (filled : texts ≠ [])
    (free : ∀ s ∈ texts, Free s) : (quantified column op quantifier texts).Readable := by
  intro p r q p_clean r_boundary q_boundary same
  obtain ⟨lead, mark, rest⟩ := same_head clean p_clean same
  obtain ⟨column', op', quantifier', texts', rfl, _, filled', free'⟩ |
    ⟨_, _, _, _, rfl, searches, _, _⟩ | ⟨_, _, rfl, _⟩ := braced p_clean mark
  · obtain ⟨rfl, rfl⟩ := column_op_same lead
    simp only [body, List.append_assoc, List.cons_append] at rest
    obtain ⟨token, lists⟩ := split_at_mark quantifier.free_token quantifier'.free_token
      (Stops.cons (by decide) _) (Stops.cons (by decide) _) rest
    obtain rfl : quantifier = quantifier' := Operator.token_inj (String.toList_injective token)
    have brace : FreeChars ['\x7d'] := by decide
    simp only [List.cons.injEq, true_and] at lists
    obtain ⟨rfl, after_same⟩ :=
      read_texts ['\x7d'] filled filled' free free' brace r_boundary q_boundary lists
    exact ⟨rfl, after_same⟩
  · obtain ⟨_, rfl⟩ := column_op_same lead
    exact absurd searches (not_search_of_quantifiable quantifiable)
  · exact absurd lead column_ne_group

theorem readable_search {column : String} {op : Operator} {language query : String}
    (name : Free column) (searches : op.isTextSearch = true) (tongue : Free language)
    (free : Free query) : (search column op language query).Readable := by
  intro p r q p_clean r_boundary q_boundary same
  obtain ⟨lead, mark, rest⟩ := same_head (.search name searches tongue free) p_clean same
  obtain ⟨_, _, _, _, rfl, quantifiable, _, _⟩ |
    ⟨column', op', language', query', rfl, _, tongue', free'⟩ | ⟨_, _, rfl, _⟩ :=
    braced p_clean mark
  · obtain ⟨_, rfl⟩ := column_op_same lead
    exact absurd searches (not_search_of_quantifiable quantifiable)
  · obtain ⟨rfl, rfl⟩ := column_op_same lead
    simp only [body, List.append_assoc, List.cons_append] at rest
    obtain ⟨spoken, queries⟩ := split_at_mark tongue tongue' (Stops.cons (by decide) _)
      (Stops.cons (by decide) _) rest
    obtain rfl : language = language' := String.toList_injective spoken
    simp only [List.cons.injEq, true_and] at queries
    obtain ⟨text, after_same⟩ :=
      split_at_mark free free' r_boundary.stops q_boundary.stops queries
    obtain rfl : query = query' := String.toList_injective text
    exact ⟨rfl, after_same⟩
  · exact absurd lead column_ne_group

theorem readable_group {op : Operator} {os : List Outline} (clean : (group op os).Clean)
    (parts : ∀ o ∈ os, o.Clean) (readable : ∀ o ∈ os, o.Readable) :
    (group op os).Readable := by
  intro p r q p_clean _ _ same
  obtain ⟨lead, mark, rest⟩ := same_head clean p_clean same
  obtain ⟨_, _, _, _, rfl, _⟩ | ⟨_, _, _, _, rfl, _⟩ | ⟨op', os', rfl, parts'⟩ :=
    braced p_clean mark
  · exact absurd lead.symm column_ne_group
  · exact absurd lead.symm column_ne_group
  · obtain rfl : op = op' := Operator.token_inj (String.toList_injective lead)
    simp only [body, List.append_assoc, List.cons_append, List.nil_append] at rest
    obtain ⟨rfl, after_same⟩ := read_joined readable parts parts' rest
    exact ⟨rfl, after_same⟩

theorem readable_of_clean {o : Outline} (clean : o.Clean) : o.Readable := by
  induction clean with
  | test name fits => exact readable_test name fits
  | quantified name quantifiable quantifies filled free =>
    exact readable_quantified (.quantified name quantifiable quantifies filled free) quantifiable
      filled free
  | search name searches tongue free => exact readable_search name searches tongue free
  | not part ih => exact readable_not part ih
  | group joins parts ih => exact readable_group (.group joins parts) parts ih

end Outline

/-! ### Encodings -/

namespace Condition

/-- Two clean conditions with one encoding are the same tree over the same texts. -/
theorem outline_eq_of_encode_eq {c d : Condition} (c_clean : c.Clean) (d_clean : d.Clean)
    {s : String} (c_encoded : c.encode = .ok s) (d_encoded : d.encode = .ok s) :
    ∃ o, c.outline = .ok o ∧ d.outline = .ok o := by
  obtain ⟨o, c_outline, o_clean, written⟩ :=
    outline_of_encode c_clean.built c_clean.unreserved s c_encoded
  obtain ⟨p, d_outline, p_clean, written'⟩ :=
    outline_of_encode d_clean.built d_clean.unreserved s d_encoded
  have same : o.chars ++ [] = p.chars ++ [] := by rw [← written, ← written']
  obtain ⟨rfl, _⟩ := Outline.readable_of_clean o_clean p [] [] p_clean .done .done same
  exact ⟨o, c_outline, d_outline⟩

/-- A search without a language and the comparison that reads like it, in a group and negated. -/
theorem outline_eq_of_encode_eq_plain_search :
    let c : Condition := .or [.not (.textSearch .fullText "not" (.text "cat") .null),
      .quantified .eq "size" [.int 1, .int 2] .any]
    let d : Condition := .or [.not (.comparison .fullText "not" (.text "cat")),
      .quantified .eq "size" [.text "1", .text "2"] .any]
    c.Clean ∧ d.Clean ∧ c.encode = .ok "or(not.not.fts.cat,size=eq(any).\x7b1,2\x7d)" ∧
      d.encode = .ok "or(not.not.fts.cat,size=eq(any).\x7b1,2\x7d)" ∧
      ∃ o, c.outline = .ok o ∧ d.outline = .ok o := by
  intro c d
  have shown (v : Value) (s : String) (same : v.operandText = .ok s) (free : Free s) :
      v.FreeOperand := by
    intro t made
    obtain rfl : s = t := Except.ok.inj (same.symm.trans made)
    exact free
  have c_clean : c.Clean := by
    refine ⟨.or (List.forall_mem_cons.mpr ⟨.not ?_, List.forall_mem_singleton.mpr ?_⟩),
      .or (List.forall_mem_cons.mpr ⟨.not ?_, List.forall_mem_singleton.mpr ?_⟩)⟩
    · exact .textSearch (.text "fts") (.text "not") (.text "cat") .null rfl
    · exact .quantified (.text "eq") (.text "size") (.list [.int 1, .int 2]) (.text "any") rfl
    · exact .plainSearch rfl (by decide) (shown _ "cat" rfl (by decide))
    · refine .quantified (by decide) (by simp) (List.forall_mem_cons.mpr
        ⟨shown _ "1" rfl (by decide), List.forall_mem_singleton.mpr ?_⟩)
      exact shown _ "2" rfl (by decide)
  have d_clean : d.Clean := by
    refine ⟨.or (List.forall_mem_cons.mpr ⟨.not ?_, List.forall_mem_singleton.mpr ?_⟩),
      .or (List.forall_mem_cons.mpr ⟨.not ?_, List.forall_mem_singleton.mpr ?_⟩)⟩
    · exact .comparison (.text "fts") (.text "not") (.text "cat") rfl
    · exact .quantified (.text "eq") (.text "size") (.list [.text "1", .text "2"]) (.text "any") rfl
    · exact .comparison (by decide) (by decide) (shown _ "cat" rfl (by decide))
    · refine .quantified (by decide) (by simp) (List.forall_mem_cons.mpr
        ⟨shown _ "1" rfl (by decide), List.forall_mem_singleton.mpr ?_⟩)
      exact shown _ "2" rfl (by decide)
  have c_encoded : c.encode = .ok "or(not.not.fts.cat,size=eq(any).\x7b1,2\x7d)" := rfl
  have d_encoded : d.encode = .ok "or(not.not.fts.cat,size=eq(any).\x7b1,2\x7d)" := rfl
  exact ⟨c_clean, d_clean, c_encoded, d_encoded,
    outline_eq_of_encode_eq c_clean d_clean c_encoded d_encoded⟩

end Condition

end RestQuery
