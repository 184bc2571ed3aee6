import RestQuery.Proofs.ConditionBuilding
import RestQuery.Proofs.WritableValues

/-!
# The conditions inside a value

A value is read as a condition by the constructors alone, so that every condition inside the
result, at whatever depth, has what the constructors ask for. `nodes_of_toCondition` says so, and
that the result is read as itself and is encoded without any complaint about its parts.
-/

namespace RestQuery

mutual

/-- The conditions in a value, at any depth. -/
def Value.nodes : Value → List Condition
  | .condition c => c.nodes
  | .list xs | .tuple xs | .set xs => Value.allNodes xs
  | .map es => Value.entryNodes es
  | .record fs => Value.fieldNodes fs
  | _ => []

def Value.allNodes : List Value → List Condition
  | [] => []
  | x :: xs => x.nodes ++ Value.allNodes xs

def Value.entryNodes : List (Value × Value) → List Condition
  | [] => []
  | (k, v) :: es => (k.nodes ++ v.nodes) ++ Value.entryNodes es

def Value.fieldNodes : List (String × Value) → List Condition
  | [] => []
  | (_, v) :: fs => v.nodes ++ Value.fieldNodes fs

/-- A condition with those it joins or negates and those among its values, at any depth. -/
def Condition.nodes : Condition → List Condition
  | .comparison op column v => .comparison op column v :: v.nodes
  | .quantified op column vs q => .quantified op column vs q :: Value.allNodes vs
  | .textSearch op column query language =>
    .textSearch op column query language :: (query.nodes ++ language.nodes)
  | .between column low high => .between column low high :: (low.nodes ++ high.nodes)
  | .not c => .not c :: c.nodes
  | .and cs => .and cs :: Condition.allNodes cs
  | .or cs => .or cs :: Condition.allNodes cs
  | .raw v => .raw v :: v.nodes

def Condition.allNodes : List Condition → List Condition
  | [] => []
  | c :: cs => c.nodes ++ Condition.allNodes cs

end

/-- Every condition in a value was built by a constructor. -/
def Value.AllBuilt (v : Value) : Prop := ∀ d ∈ v.nodes, d.Built

theorem Value.AllBuilt.item {xs : List Value} (inside : (tuple xs).AllBuilt) {x : Value}
    (member : x ∈ xs) : x.AllBuilt := by
  induction xs with
  | nil => cases member
  | cons y ys ih =>
    obtain ⟨here, later⟩ := List.forall_mem_append.mp inside
    rcases List.mem_cons.mp member with rfl | member
    · exact here
    · exact ih later member

namespace Condition

/-- A condition and all those in it were built by constructors. -/
def AllBuilt (c : Condition) : Prop := ∀ d ∈ c.nodes, d.Built

theorem mem_nodes (c : Condition) : c ∈ c.nodes := by
  cases c with
  | _ => exact List.mem_cons_self

theorem mem_allNodes {c : Condition} {cs : List Condition} (member : c ∈ cs) : c ∈ allNodes cs := by
  induction cs with
  | nil => cases member
  | cons c' cs ih =>
    rcases List.mem_cons.mp member with rfl | later
    · exact List.mem_append_left _ c.mem_nodes
    · exact List.mem_append_right _ (ih later)

/-! ### Constructors -/

variable {op : Operator} {column value : Value} {c : Condition}

theorem allBuilt_not (built : c.AllBuilt) : (not c).AllBuilt :=
  List.forall_mem_cons.mpr ⟨.not (built c c.mem_nodes), built⟩

theorem allBuilt_and {cs : List Condition} (built : ∀ d ∈ allNodes cs, d.Built) :
    (and cs).AllBuilt :=
  List.forall_mem_cons.mpr ⟨.and fun c member => built c (mem_allNodes member), built⟩

theorem allBuilt_or {cs : List Condition} (built : ∀ d ∈ allNodes cs, d.Built) :
    (or cs).AllBuilt :=
  List.forall_mem_cons.mpr ⟨.or fun c member => built c (mem_allNodes member), built⟩

theorem allNodes_of_items {items : Value} {xs : List Value} (listed : items.listItems? = some xs) :
    Value.allNodes xs = items.nodes := by
  cases items with
  | list _ | tuple _ =>
    cases listed
    rfl
  | _ => cases listed

theorem allBuilt_compare (made : compare op column value = .ok c) (inside : value.AllBuilt) :
    c.AllBuilt := by
  have built : c.Built := .comparison (.member (.operator op)) column value made
  obtain ⟨_, name, _, _, ⟨_, xs, listed, rfl⟩ | ⟨_, rfl⟩⟩ := compare_iff.mp made
  · refine List.forall_mem_cons.mpr ⟨built, ?_⟩
    rw [Value.nodes, allNodes_of_items listed]
    exact inside
  · exact List.forall_mem_cons.mpr ⟨built, inside⟩

theorem allBuilt_quantify {values quantifier : Value}
    (made : quantify op column values quantifier = .ok c) (inside : values.AllBuilt) :
    c.AllBuilt := by
  have built : c.Built := .quantified (.member (.operator op)) column values quantifier made
  obtain ⟨_, name, q, xs, _, _, _, _, listed, rfl⟩ := quantify_iff.mp made
  refine List.forall_mem_cons.mpr ⟨built, ?_⟩
  rw [allNodes_of_items listed]
  exact inside

theorem allBuilt_search {query language : Value} (made : search op column query language = .ok c)
    (query_built : query.AllBuilt) (language_built : language.AllBuilt) : c.AllBuilt := by
  have built : c.Built := .textSearch (.member (.operator op)) column query language made
  obtain ⟨_, name, _, _, rfl⟩ := search_iff.mp made
  exact List.forall_mem_cons.mpr
    ⟨built, List.forall_mem_append.mpr ⟨query_built, language_built⟩⟩

theorem allBuilt_betweenTuple {bounds : Value} (made : betweenTuple column bounds = .ok c)
    (inside : bounds.AllBuilt) : c.AllBuilt := by
  unfold betweenTuple at made
  split at made
  · rename_i low high listed
    have built : c.Built := .between column low high made
    obtain ⟨name, _, same⟩ := bind_ok.mp made
    obtain rfl := pure_ok.mp same
    refine List.forall_mem_cons.mpr ⟨built, ?_⟩
    have nodes : low.nodes ++ (high.nodes ++ []) = bounds.nodes := allNodes_of_items listed
    rw [← List.append_nil high.nodes, nodes]
    exact inside
  · cases made

theorem allBuilt_null : Value.null.AllBuilt := nofun

theorem allBuilt_lookup {key : String} {v : Value} {es : List (Value × Value)}
    (found : Value.lookup key es = some v) (inside : (Value.map es).AllBuilt) : v.AllBuilt := by
  fun_induction Value.lookup key es with
  | case1 => cases found
  | case2 w es =>
    cases found
    exact (List.forall_mem_append.mp inside).1
  | case3 k w es other ih => exact ih found (List.forall_mem_append.mp inside).2
  | case4 e es other ih => exact ih found (List.forall_mem_append.mp inside).2

theorem allBuilt_option {options : List (Value × Value)} (name : String)
    (inside : (Value.map options).AllBuilt) : (option name options).AllBuilt := by
  unfold option
  cases found : Value.lookup name options with
  | none => exact allBuilt_null
  | some v => exact allBuilt_lookup found inside

theorem allBuilt_withOptions {options : List (Value × Value)}
    (made : withOptions op column value options = .ok c) (inside : value.AllBuilt)
    (given : (Value.map options).AllBuilt) : c.AllBuilt := by
  have language : (if (option "lang" options).truth then option "lang" options
      else option "config" options).AllBuilt := by
    split
    · exact allBuilt_option "lang" given
    · exact allBuilt_option "config" given
  unfold withOptions at made
  dsimp only at made
  split at made
  · cases made
  · split at made
    · exact allBuilt_quantify made inside
    · split at made
      · exact allBuilt_compare made inside
      · exact allBuilt_search made inside language

end Condition

/-! ### Short forms -/

namespace Value

theorem pair_ok {head v : Value} {c : Condition} (read : (tuple [head, v]).toCondition = .ok c) :
    (∃ d, v.toCondition = .ok d ∧ c = .not d) ∨
      (∃ cs, v.toConditions "and" = .ok cs ∧ c = .and cs) ∨
        ∃ cs, v.toConditions "or" = .ok cs ∧ c = .or cs := by
  rw [toCondition] at read
  obtain ⟨op, _, read⟩ := bind_ok.mp read
  split at read
  · obtain ⟨d, inner, same⟩ := bind_ok.mp read
    exact Or.inl ⟨d, inner, (pure_ok.mp same).symm⟩
  · obtain ⟨cs, inner, same⟩ := bind_ok.mp read
    exact Or.inr (Or.inl ⟨cs, inner, (pure_ok.mp same).symm⟩)
  · obtain ⟨cs, inner, same⟩ := bind_ok.mp read
    exact Or.inr (Or.inr ⟨cs, inner, (pure_ok.mp same).symm⟩)
  · cases read

/-- A field of a record is read like a tuple of its name and its value. -/
theorem fieldsToConditions_cons (name : String) (v : Value) (fs : List (String × Value)) :
    fieldsToConditions ((name, v) :: fs) = (do
      return (← (tuple [.text name, v]).toCondition) :: (← fieldsToConditions fs)) := by
  rw [fieldsToConditions, toCondition]
  cases Operator.parse (.text name) with
  | error f => rfl
  | ok op =>
    cases op with
    | not => cases v.toCondition with | _ => rfl
    | and => cases v.toConditions "and" with | _ => rfl
    | or => cases v.toConditions "or" with | _ => rfl
    | _ => rfl

theorem allBuilt_pair {head v : Value} {c : Condition}
    (single : ∀ {d}, v.toCondition = .ok d → d.AllBuilt)
    (several : ∀ {operation cs}, v.toConditions operation = .ok cs →
      ∀ d ∈ Condition.allNodes cs, d.Built)
    (read : (tuple [head, v]).toCondition = .ok c) : c.AllBuilt := by
  obtain ⟨d, inner, rfl⟩ | ⟨cs, inner, rfl⟩ | ⟨cs, inner, rfl⟩ := pair_ok read
  · exact Condition.allBuilt_not (single inner)
  · exact Condition.allBuilt_and (several inner)
  · exact Condition.allBuilt_or (several inner)

mutual

theorem allBuilt_toCondition : ∀ {v : Value} {c : Condition}, v.AllBuilt →
    v.toCondition = .ok c → c.AllBuilt
  | v, c, inside, read => by
    unfold toCondition at read
    split at read
    · cases read
      exact inside
    · cases read
      exact List.forall_mem_singleton.mpr (.raw _)
    · rename_i head x
      have part : x.AllBuilt := inside.item (by simp)
      exact allBuilt_pair (allBuilt_toCondition part) (allBuilt_toConditions part)
        (by rw [toCondition]; exact read)
    · obtain ⟨op, _, read⟩ := bind_ok.mp read
      split at read
      · exact Condition.allBuilt_betweenTuple read (inside.item (by simp))
      · exact Condition.allBuilt_compare read (inside.item (by simp))
    · obtain ⟨op, _, read⟩ := bind_ok.mp read
      exact Condition.allBuilt_withOptions read (inside.item (by simp)) (inside.item (by simp))
    · obtain ⟨op, _, read⟩ := bind_ok.mp read
      cases read
    · cases read

theorem allBuilt_toConditions : ∀ {v : Value} {operation : String} {cs : List Condition},
    v.AllBuilt → v.toConditions operation = .ok cs → ∀ d ∈ Condition.allNodes cs, d.Built
  | .list xs, _, _, inside, read | .tuple xs, _, _, inside, read | .set xs, _, _, inside, read => by
    rw [Value.toConditions] at read
    exact allBuilt_allToConditions inside read
  | .bytes [], _, _, _, read => by
    cases read
    nofun
  | .record fs, _, _, inside, read => by
    rw [Value.toConditions] at read
    exact allBuilt_fieldsToConditions inside read

theorem allBuilt_allToConditions : ∀ {xs : List Value} {cs : List Condition},
    (∀ d ∈ allNodes xs, d.Built) → allToConditions xs = .ok cs →
      ∀ d ∈ Condition.allNodes cs, d.Built
  | [], _, _, read => by
    cases read
    nofun
  | x :: xs, _, inside, read => by
    obtain ⟨here, later⟩ := List.forall_mem_append.mp inside
    rw [Value.allToConditions] at read
    obtain ⟨c, first, read⟩ := bind_ok.mp read
    obtain ⟨cs, rest, same⟩ := bind_ok.mp read
    obtain rfl := pure_ok.mp same
    exact List.forall_mem_append.mpr
      ⟨allBuilt_toCondition here first, allBuilt_allToConditions later rest⟩

theorem allBuilt_fieldsToConditions : ∀ {fs : List (String × Value)} {cs : List Condition},
    (∀ d ∈ fieldNodes fs, d.Built) → fieldsToConditions fs = .ok cs →
      ∀ d ∈ Condition.allNodes cs, d.Built
  | [], _, _, read => by
    cases read
    nofun
  | (name, v) :: fs, _, inside, read => by
    obtain ⟨here, later⟩ := List.forall_mem_append.mp inside
    rw [fieldsToConditions_cons] at read
    obtain ⟨c, first, read⟩ := bind_ok.mp read
    obtain ⟨cs, rest, same⟩ := bind_ok.mp read
    obtain rfl := pure_ok.mp same
    exact List.forall_mem_append.mpr
      ⟨allBuilt_pair (allBuilt_toCondition here) (allBuilt_toConditions here) first,
        allBuilt_fieldsToConditions later rest⟩

end

theorem foreign_encoded (c : Condition) : Foreign (condition c).encoded := by
  have encodes : Foreign (c.encode >>= fun s => pure (text s)) :=
    (Foreign.of_writes (Condition.writes_encode (c.writes_shown Json.writes_printMap))).map text
  cases c with
  | raw v => rfl
  | _ => exact encodes

/-- A value in which every condition was built by a constructor is read as a condition in which every
condition has the parts that the constructors ask for. To encode it is no contract violation, and it
is read as itself. -/
theorem nodes_of_toCondition {v : Value} {c : Condition} (inside : ∀ d ∈ v.nodes, d.Built)
    (read : v.toCondition = .ok c) :
    (∀ d ∈ c.nodes, d.Parts) ∧
      (∀ f, (condition c).encoded = .error f → f.isContractViolation = false) ∧
      (condition c).toCondition = .ok c := by
  refine ⟨fun d member => (allBuilt_toCondition inside read d member).parts, fun f failed => ?_, ?_⟩
  · have foreign := foreign_encoded c
    rw [failed] at foreign
    exact foreign.2
  · rw [toCondition]

theorem nodes_of_toCondition_nested :
    let ready : Condition := .not (.comparison .eq "a" (.condition (.between "b" (.int 1) .null)))
    let v : Value := .tuple [.text "and", .list [.tuple [.member (.operator .or), .record
      [("not", .condition ready)]]]]
    let c : Condition := .and [.or [.not ready]]
    (∀ d ∈ v.nodes, d.Built) ∧ v.toCondition = .ok c ∧ c.nodes.length = 6 ∧
      (∀ d ∈ c.nodes, d.Parts) ∧ (condition c).toCondition = .ok c := by
  intro ready v c
  have bounds : (Condition.between "b" (.int 1) .null).Built := .between (.text "b") _ _ rfl
  have test : (Condition.comparison .eq "a" (.condition (.between "b" (.int 1) .null))).Built :=
    .comparison (.text "eq") (.text "a") _ rfl
  have inside : ∀ d ∈ v.nodes, d.Built := by
    show ∀ d ∈ [ready, _, _], d.Built
    simp only [List.forall_mem_cons]
    exact ⟨.not test, test, bounds, by simp⟩
  have read : v.toCondition = .ok c := rfl
  obtain ⟨parts, _, again⟩ := nodes_of_toCondition inside read
  exact ⟨inside, read, rfl, parts, again⟩

end Value

end RestQuery
