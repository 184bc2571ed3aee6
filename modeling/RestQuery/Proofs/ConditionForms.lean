import RestQuery.Proofs.ConditionBuilding

/-!
# Short forms of conditions

A condition can be written as a text or as a tuple that starts with an operator, and whatever it
joins or negates in the same way. `toCondition_of_form` says that a condition is read back from
each of its short forms.
-/

namespace RestQuery

/-- An operator is given by itself or by its token. -/
inductive Operator.Spells (op : Operator) : Value → Prop where
  | member : Spells op (.member (.operator op))
  | token : Spells op (.text op.token)

theorem Operator.parse_of_spells {op : Operator} {head : Value} (spelled : op.Spells head) :
    parse head = .ok op := by
  cases spelled with
  | member => exact parse_member op
  | token => exact parse_text_token op

mutual

/-- The short forms of a condition. Where one holds items, these stand in a list or in a tuple. -/
inductive Condition.Form : Condition → Value → Prop where
  | raw (s : String) : Form (.raw (.text s)) (.text s)
  | comparison {op : Operator} {head : Value} (spelled : op.Spells head) (column : String)
      (v : Value) : Form (.comparison op column v) (.tuple [head, .text column, v])
  | among {head items : Value} {xs : List Value} (spelled : Operator.member.Spells head)
      (column : String) (listed : items.listItems? = some xs) :
      Form (.comparison .member column (.tuple xs)) (.tuple [head, .text column, items])
  | quantified {op q : Operator} {head items : Value} {vs : List Value} (spelled : op.Spells head)
      (column : String) (listed : items.listItems? = some vs) :
      Form (.quantified op column vs q)
        (.tuple [head, .text column, items, .map [(.text q.token, .bool true)]])
  | textSearch {op : Operator} {head : Value} (spelled : op.Spells head) (column : String)
      (query language : Value) :
      Form (.textSearch op column query language)
        (.tuple [head, .text column, query, .map [(.text "lang", language)]])
  | between {head bounds low high : Value} (spelled : Operator.between.Spells head)
      (column : String) (listed : bounds.listItems? = some [low, high]) :
      Form (.between column low high) (.tuple [head, .text column, bounds])
  | not {head v : Value} {c : Condition} (spelled : Operator.not.Spells head) (form : Form c v) :
      Form (.not c) (.tuple [head, v])
  | and {head items : Value} {cs : List Condition} {vs : List Value}
      (spelled : Operator.and.Spells head) (listed : items.listItems? = some vs)
      (forms : Forms cs vs) : Form (.and cs) (.tuple [head, items])
  | or {head items : Value} {cs : List Condition} {vs : List Value}
      (spelled : Operator.or.Spells head) (listed : items.listItems? = some vs)
      (forms : Forms cs vs) : Form (.or cs) (.tuple [head, items])

/-- A short form for each of some conditions. -/
inductive Condition.Forms : List Condition → List Value → Prop where
  | nil : Forms [] []
  | cons {c : Condition} {cs : List Condition} {v : Value} {vs : List Value} (form : Form c v)
      (forms : Forms cs vs) : Forms (c :: cs) (v :: vs)

end

mutual

/-- A condition with a short form: what the caller encoded is a text, and every search names its
language. -/
def Condition.sayable : Condition → Bool
  | .raw (.text _) => true
  | .raw _ => false
  | .textSearch _ _ _ language => language.truth
  | .not c => c.sayable
  | .and cs | .or cs => Condition.allSayable cs
  | _ => true

def Condition.allSayable : List Condition → Bool
  | [] => true
  | c :: cs => c.sayable && Condition.allSayable cs

end

namespace Condition

/-! ### Reading -/

theorem withOptions_quantifier {op q : Operator} (quantifies : q.isQuantifier = true)
    (column values : Value) :
    withOptions op column values [(.text q.token, .bool true)] =
      quantify op column values (.member (.operator q)) := by
  cases q with
  | all | any => rfl
  | _ => cases quantifies

theorem withOptions_language {language : Value} (given : language.truth = true) (op : Operator)
    (column query : Value) :
    withOptions op column query [(.text "lang", language)] = search op column query language := by
  have named : option "lang" [(.text "lang", language)] = language := rfl
  unfold withOptions
  simp only [named, if_pos given]
  cases language with
  | null => cases given
  | _ => rfl

/-- What a tuple of two stands for. -/
theorem toCondition_pair {op : Operator} {head : Value} (spelled : op.Spells head) (v : Value) :
    (Value.tuple [head, v]).toCondition =
      match op with
      | .not => mkNot v
      | .and => mkAnd v
      | .or => mkOr v
      | _ => .error (shapeless (.tuple [head, v])) := by
  rw [Value.toCondition, Operator.parse_of_spells spelled]
  cases op with
  | _ => rfl

/-- What a tuple of three stands for. -/
theorem toCondition_triple {op : Operator} {head : Value} (spelled : op.Spells head)
    (column v : Value) :
    (Value.tuple [head, column, v]).toCondition =
      if op = .between then betweenTuple column v else compare op column v := by
  rw [Value.toCondition, Operator.parse_of_spells spelled]
  cases op with
  | _ => rfl

theorem toCondition_options {op : Operator} {head : Value} (spelled : op.Spells head)
    (column v : Value) (options : List (Value × Value)) :
    (Value.tuple [head, column, v, .map options]).toCondition =
      withOptions op column v options := by
  rw [Value.toCondition, Operator.parse_of_spells spelled]
  rfl

theorem toConditions_of_items {items : Value} {vs : List Value}
    (listed : items.listItems? = some vs) (operation : String) :
    items.toConditions operation = Value.allToConditions vs := by
  cases items with
  | list xs | tuple xs =>
    cases listed
    rw [Value.toConditions]
  | _ => cases listed

mutual

theorem Form.read {c : Condition} {v : Value} (form : c.Form v) (built : c.Built)
    (sayable : c.sayable = true) : v.toCondition = .ok c := by
  match form with
  | .raw s => rw [Value.toCondition]
  | @Form.comparison op _ spelled column v =>
    obtain ⟨plain, filled, listed⟩ := built.parts
    rw [toCondition_triple spelled, if_neg (isPlain_iff.mp plain).2.2, compare_iff]
    refine ⟨plain, column, rfl, filled, ?_⟩
    by_cases among : op = .member
    · obtain ⟨xs, rfl⟩ := listed among
      exact Or.inl ⟨among, xs, rfl, by rw [among]⟩
    · exact Or.inr ⟨among, rfl⟩
  | .among spelled column listed =>
    obtain ⟨plain, filled, _⟩ := built.parts
    rw [toCondition_triple spelled, if_neg nofun, compare_iff]
    exact ⟨plain, column, rfl, filled, Or.inl ⟨rfl, _, listed, rfl⟩⟩
  | .quantified spelled column listed =>
    obtain ⟨quantifiable, filled, quantifies⟩ := built.parts
    rw [toCondition_options spelled, withOptions_quantifier quantifies, quantify_iff]
    exact ⟨quantifiable, column, _, _, rfl, filled, rfl, quantifies, listed, rfl⟩
  | .textSearch spelled column query language =>
    obtain ⟨searches, filled⟩ := built.parts
    rw [toCondition_options spelled, withOptions_language sayable, search_iff]
    exact ⟨searches, column, rfl, filled, rfl⟩
  | .between spelled column listed =>
    have filled : column ≠ "" := built.parts
    have named : columnName "between" (.text column) = .ok column := columnName_ok.mpr ⟨rfl, filled⟩
    rw [toCondition_triple spelled, if_pos rfl, betweenTuple, listed]
    simp only [mkBetween, named]
    rfl
  | .not spelled form =>
    rw [toCondition_pair spelled]
    simp only [mkNot, form.read built.parts sayable]
    rfl
  | .and spelled listed forms =>
    rw [toCondition_pair spelled]
    simp only [mkAnd, toConditions_of_items listed, forms.read built.parts sayable]
    rfl
  | .or spelled listed forms =>
    rw [toCondition_pair spelled]
    simp only [mkOr, toConditions_of_items listed, forms.read built.parts sayable]
    rfl

theorem Forms.read {cs : List Condition} {vs : List Value} (forms : Forms cs vs)
    (built : ∀ c ∈ cs, c.Built) (sayable : allSayable cs = true) :
    Value.allToConditions vs = .ok cs := by
  match forms with
  | .nil => rw [Value.allToConditions]
  | .cons form forms =>
    obtain ⟨first, rest⟩ := List.forall_mem_cons.mp built
    obtain ⟨sayable, others⟩ := (Bool.and_eq_true _ _).mp sayable
    rw [Value.allToConditions, form.read first sayable, forms.read rest others]
    rfl

end

/-! ### Writing -/

mutual

theorem exists_form : ∀ {c : Condition}, c.Built → c.sayable = true → ∃ v, c.Form v
  | .comparison op column v, _, _ =>
    ⟨.tuple [.text op.token, .text column, v], .comparison .token column v⟩
  | .quantified op column vs q, _, _ =>
    ⟨.tuple [.text op.token, .text column, .list vs, .map [(.text q.token, .bool true)]],
      .quantified .token column rfl⟩
  | .textSearch op column query language, _, _ =>
    ⟨.tuple [.text op.token, .text column, query, .map [(.text "lang", language)]],
      .textSearch .token column query language⟩
  | .between column low high, _, _ =>
    ⟨.tuple [.text "between", .text column, .list [low, high]], .between .token column rfl⟩
  | .not _, built, sayable => by
    obtain ⟨v, form⟩ := exists_form built.parts sayable
    exact ⟨.tuple [.text "not", v], .not .token form⟩
  | .and _, built, sayable => by
    obtain ⟨vs, forms⟩ := exists_forms built.parts sayable
    exact ⟨.tuple [.text "and", .list vs], .and .token rfl forms⟩
  | .or _, built, sayable => by
    obtain ⟨vs, forms⟩ := exists_forms built.parts sayable
    exact ⟨.tuple [.text "or", .list vs], .or .token rfl forms⟩
  | .raw (.text s), _, _ => ⟨.text s, .raw s⟩

theorem exists_forms : ∀ {cs : List Condition}, (∀ c ∈ cs, c.Built) → allSayable cs = true →
    ∃ vs, Forms cs vs
  | [], _, _ => ⟨[], .nil⟩
  | c :: cs, built, sayable => by
    obtain ⟨first, rest⟩ := List.forall_mem_cons.mp built
    obtain ⟨sayable, others⟩ := (Bool.and_eq_true _ _).mp sayable
    obtain ⟨v, form⟩ := exists_form first sayable
    obtain ⟨vs, forms⟩ := exists_forms rest others
    exact ⟨v :: vs, .cons form forms⟩

end

/-- A condition that the constructors build has a short form and is what each of its short forms
stands for. -/
theorem toCondition_of_form {c : Condition} (built : c.Built) (sayable : c.sayable = true) :
    (∃ v, c.Form v) ∧ ∀ v, c.Form v → v.toCondition = .ok c :=
  ⟨exists_form built sayable, fun _ form => form.read built sayable⟩

theorem toCondition_of_form_nested :
    let either : Condition := .or [.textSearch .webText "body" (.text "cat") (.text "english"),
      .between "age" (.int 18) .null]
    let eitherForm : Value := .tuple [.text "or", .tuple [
      .tuple [.member (.operator .webText), .text "body", .text "cat",
        .map [(.text "lang", .text "english")]],
      .tuple [.text "between", .text "age", .list [.int 18, .null]]]]
    let c : Condition := .not (.and [.quantified .like "name" [.text "a%", .text "%b"] .all, either,
      .comparison .member "id" (.tuple [.int 1]), .comparison .is "on" (.bool true),
      .raw (.text "x.is.null")])
    let form : Value := .tuple [.text "not", .tuple [.member (.operator .and), .list [
      .tuple [.text "like", .text "name", .list [.text "a%", .text "%b"],
        .map [(.text "all", .bool true)]],
      eitherForm, .tuple [.text "in", .text "id", .list [.int 1]],
      .tuple [.member (.operator .is), .text "on", .bool true], .text "x.is.null"]]]
    c.Built ∧ c.sayable = true ∧ c.Form form ∧ form.toCondition = .ok c := by
  intro either eitherForm c form
  have either_built : either.Built :=
    .or (List.forall_mem_cons.mpr ⟨.textSearch (.text "wfts") (.text "body") _ _ rfl,
      List.forall_mem_singleton.mpr (.between (.text "age") _ _ rfl)⟩)
  have built : c.Built := by
    refine .not (.and ?_)
    simp only [List.forall_mem_cons]
    exact ⟨.quantified (.text "like") (.text "name") (.list _) (.text "all") rfl, either_built,
      .comparison (.text "in") (.text "id") (.list [.int 1]) rfl,
      .comparison (.text "is") (.text "on") _ rfl, .raw _, by simp⟩
  have either_form : either.Form eitherForm :=
    .or .token rfl (.cons (.textSearch .member _ _ _) (.cons (.between .token _ rfl) .nil))
  have written : c.Form form := by
    refine .not .token (.and .member rfl
      (.cons ?_ (.cons either_form (.cons ?_ (.cons ?_ (.cons ?_ .nil))))))
    · exact .quantified .token "name" rfl
    · exact .among .token "id" rfl
    · exact .comparison .member "on" (.bool true)
    · exact .raw "x.is.null"
  exact ⟨built, rfl, written, (toCondition_of_form built rfl).2 form written⟩

end Condition

end RestQuery
