import RestQuery.Proofs.WritableValues
import RestQuery.Request.Step

/-!
# Faults of the caller

Whatever the checks of conditions and of the arguments of a step refuse is the fault of the caller.
They can say so unless a whole number in what they refuse is too long for the message: lemmas here
speak of values whose numbers are all short if some proposition holds.
-/

namespace RestQuery

open Text

/-- A fault that blames the caller, or the failure to say so, for which some number has to be long. -/
def Fault.Blames (short : Prop) (f : Fault) : Prop :=
  f.isContractViolation = true ∨ f = .tooLongToWrite ∧ ¬ short

/-- Nothing goes wrong but what blames the caller. -/
def Contained {α : Type} (short : Prop) (x : Outcome α) : Prop :=
  ∀ f, x = .error f → f.Blames short

/-- A value that can be shown in a message if all numbers are short. -/
def Value.Shows (short : Prop) (v : Value) : Prop := short → v.legible = true

section Contained

variable {α β : Type} {short : Prop} {x : Outcome α}

theorem contained_ok (a : α) : Contained short (.ok a : Outcome α) := nofun

theorem contained_violation {f : Fault} (blamed : f.isContractViolation = true) :
    Contained short (.error f : Outcome α) := by
  rintro _ ⟨⟩
  exact Or.inl blamed

theorem contained_showing {v : Value} {f : Fault} (shows : v.Shows short)
    (blamed : f.isContractViolation = true) : Contained short (.error (.showing v f) : Outcome α) := by
  unfold Fault.showing
  split
  · exact contained_violation blamed
  · next long =>
    rintro _ ⟨⟩
    exact Or.inr ⟨rfl, fun all => long (shows all)⟩

theorem contained_argument {operation argument expected : String} {actual : Value}
    (shows : actual.Shows short) :
    Contained short (.error (.argument operation argument expected actual) : Outcome α) :=
  contained_showing shows rfl

theorem contained_operator {token : Value} {reason : String} (shows : token.Shows short) :
    Contained short (.error (.operator token reason) : Outcome α) :=
  contained_showing shows rfl

theorem contained_misplaced (op : Operator) (reason : String) :
    Contained short (.error (op.misplaced reason) : Outcome α) :=
  contained_operator fun _ => rfl

namespace Contained

theorem bind {f : α → Outcome β} (first : Contained short x)
    (second : ∀ a, Contained short (f a)) : Contained short (x >>= f) := by
  cases x with
  | ok a => exact second a
  | error fault =>
    rintro _ ⟨⟩
    exact first fault rfl

theorem map (f : α → β) (contained : Contained short x) :
    Contained short (x >>= fun a => pure (f a)) :=
  contained.bind fun a => contained_ok (f a)

theorem refuse {p : Prop} [Decidable p] {fault : Fault} {f : β → Outcome α}
    (blamed : Contained short (.error fault : Outcome α)) (otherwise : Contained short x) :
    Contained short (if p then throw fault >>= f else x) := by
  split
  · exact blamed
  · exact otherwise

theorem accept {p : Prop} [Decidable p] {fault : Fault} {a : α}
    (blamed : Contained short (.error fault : Outcome α)) :
    Contained short (if p then .ok a else .error fault : Outcome α) := by
  split
  · exact contained_ok a
  · exact blamed

theorem mapM {f : α → Outcome β} {xs : List α} (each : ∀ a ∈ xs, Contained short (f a)) :
    Contained short (xs.mapM f) := by
  induction xs with
  | nil => exact contained_ok []
  | cons x xs ih =>
    obtain ⟨first, rest⟩ := List.forall_mem_cons.mp each
    rw [List.mapM_cons]
    exact first.bind fun b => (ih rest).map (b :: ·)

end Contained

/-! ### Parts of a value that is shown -/

namespace Value.Shows

variable {xs : List Value}

theorem item (shows : (tuple xs).Shows short) : ∀ x ∈ xs, x.Shows short :=
  fun x member all => allLegible_iff.mp (shows all) x member

theorem of_items (each : ∀ x ∈ xs, x.Shows short) : (tuple xs).Shows short :=
  fun all => allLegible_iff.mpr fun x member => each x member all

theorem byte (b : UInt8) : (int b.toNat).Shows short := by
  intro _
  have digits : (toString (b.toNat : Int).natAbs).length ≤ 3 := by
    rw [Int.natAbs_natCast, Nat.toString_eq_repr, Nat.length_repr_le_iff (by decide)]
    exact Nat.lt_of_lt_of_le b.toNat_lt (by decide)
  exact decide_eq_true (digits.trans (by decide))

/-- The items of an ordered sequence are shown with it. -/
theorem sequenceItem {v : Value} (shows : v.Shows short) (listed : v.sequenceItems? = some xs) :
    ∀ x ∈ xs, x.Shows short := by
  cases v with
  | list _ | tuple _ =>
    cases listed
    exact shows.item
  | text s =>
    cases listed
    exact List.forall_mem_map.mpr fun c _ _ => rfl
  | bytes bs =>
    cases listed
    exact List.forall_mem_map.mpr fun b _ => byte b
  | _ => cases listed

theorem pair {name : String} {v : Value} (shows : v.Shows short) :
    (tuple [text name, v]).Shows short :=
  of_items (List.forall_mem_cons.mpr ⟨fun _ => rfl, List.forall_mem_singleton.mpr shows⟩)

theorem field {name : String} {v : Value} {fs : List (String × Value)}
    (shows : (record ((name, v) :: fs)).Shows short) :
    v.Shows short ∧ (record fs).Shows short :=
  ⟨fun all => (Bool.and_eq_true_iff.mp (shows all)).1,
    fun all => (Bool.and_eq_true_iff.mp (shows all)).2⟩

theorem entry {k v : Value} {es : List (Value × Value)} (shows : (map ((k, v) :: es)).Shows short) :
    k.Shows short ∧ v.Shows short ∧ (map es).Shows short := by
  have parts (all : short) := Bool.and_eq_true_iff.mp (shows all)
  have rest (all : short) := Bool.and_eq_true_iff.mp (parts all).2
  exact ⟨fun all => (parts all).1, fun all => (rest all).1, fun all => (rest all).2⟩

end Value.Shows

/-! ### Conditions -/

theorem Operator.contained_parse {v : Value} (shows : v.Shows short) :
    Contained short (parse v) := by
  unfold parse
  split
  · exact contained_ok _
  · split
    · exact contained_ok _
    · exact contained_operator fun _ => rfl
  · exact contained_operator shows

namespace Condition

variable {column value : Value}

theorem contained_columnName (operation : String) (shows : column.Shows short) :
    Contained short (columnName operation column) := by
  unfold columnName
  split
  · split
    · exact contained_argument fun _ => rfl
    · exact contained_ok _
  · exact contained_argument shows

theorem contained_compare (op : Operator) (named : column.Shows short) (given : value.Shows short) :
    Contained short (compare op column value) := by
  unfold compare
  refine .refuse (contained_misplaced op _) (.refuse (contained_misplaced op _)
    ((contained_columnName op.token named).bind fun name => ?_))
  split
  · split
    · exact contained_ok _
    · exact contained_argument given
  · exact contained_ok _

theorem contained_quantify (op : Operator) {values quantifier : Value} (named : column.Shows short)
    (given : values.Shows short) (chosen : quantifier.Shows short) :
    Contained short (quantify op column values quantifier) := by
  unfold quantify
  refine .refuse (contained_misplaced op _) ((Operator.contained_parse chosen).bind fun q =>
    .refuse (contained_misplaced q _) ?_)
  refine (contained_columnName op.token named).bind fun name => ?_
  split
  · exact contained_ok _
  · exact contained_argument given

theorem contained_search (op : Operator) (named : column.Shows short) (query language : Value) :
    Contained short (search op column query language) := by
  unfold search
  exact .refuse (contained_misplaced op _) ((contained_columnName op.token named).map _)

theorem contained_betweenTuple {bounds : Value} (named : column.Shows short)
    (given : bounds.Shows short) : Contained short (betweenTuple column bounds) := by
  unfold betweenTuple
  split
  · exact (contained_columnName "between" named).map _
  · exact contained_argument given

theorem contained_withOptions (op : Operator) {options : List (Value × Value)}
    (named : column.Shows short) (given : value.Shows short) (chosen : (Value.map options).Shows short) :
    Contained short (withOptions op column value options) := by
  unfold withOptions
  dsimp only
  split
  · exact contained_argument chosen
  · split
    · exact contained_quantify op named given fun _ => rfl
    · split
      · exact contained_compare op named given
      · exact contained_search op named value _

end Condition

mutual

theorem Value.contained_toCondition : ∀ v : Value, v.Shows short → Contained short v.toCondition
  | v, shows => by
    unfold Value.toCondition
    split
    · exact contained_ok _
    · exact contained_ok _
    · next head x =>
      have part := shows.item
      refine (Operator.contained_parse (part head (by simp))).bind fun op => ?_
      split
      · exact (Value.contained_toCondition x (part x (by simp))).map _
      · exact (Value.contained_toConditions "and" x (part x (by simp))).map _
      · exact (Value.contained_toConditions "or" x (part x (by simp))).map _
      · exact contained_argument shows
    · next head x y =>
      have part := shows.item
      refine (Operator.contained_parse (part head (by simp))).bind fun op => ?_
      split
      · exact Condition.contained_betweenTuple (part x (by simp)) (part y (by simp))
      · exact Condition.contained_compare _ (part x (by simp)) (part y (by simp))
    · next head x y options =>
      have part := shows.item
      exact (Operator.contained_parse (part head (by simp))).bind fun op =>
        Condition.contained_withOptions op (part x (by simp)) (part y (by simp)) (part _ (by simp))
    · next head rest _ _ _ =>
      exact (Operator.contained_parse (shows.item head (by simp))).bind fun op =>
        contained_argument shows
    · exact contained_argument shows

theorem Value.contained_toConditions (operation : String) :
    ∀ v : Value, v.Shows short → Contained short (v.toConditions operation)
  | .list xs, shows | .tuple xs, shows | .set xs, shows =>
    Value.contained_allToConditions xs (Value.Shows.item shows)
  | .bytes [], _ => contained_ok _
  | .bytes (b :: _), _ => contained_argument (Value.Shows.byte b)
  | .record fs, shows => Value.contained_fieldsToConditions fs shows
  | .null, shows | .bool _, shows | .int _, shows | .float _, shows | .text _, shows
  | .unpaired _, shows | .map _, shows | .uuid _, shows | .decimal _, shows | .date _, shows
  | .moment _, shows | .clock _, shows | .member _, shows | .condition _, shows =>
    contained_argument shows

theorem Value.contained_allToConditions :
    ∀ xs : List Value, (∀ x ∈ xs, x.Shows short) → Contained short (Value.allToConditions xs)
  | [], _ => contained_ok _
  | x :: xs, each =>
    (Value.contained_toCondition x (each x List.mem_cons_self)).bind fun c =>
      (Value.contained_allToConditions xs fun y member =>
        each y (List.mem_cons_of_mem _ member)).map (c :: ·)

theorem Value.contained_fieldsToConditions : ∀ fs : List (String × Value),
    (Value.record fs).Shows short → Contained short (Value.fieldsToConditions fs)
  | [], _ => contained_ok _
  | (name, v) :: fs, shows => by
    obtain ⟨part, others⟩ := shows.field
    refine (Operator.contained_parse fun _ => rfl).bind fun op => ?_
    have rest (c : Condition) := (Value.contained_fieldsToConditions fs others).map (c :: ·)
    dsimp only
    split
    · exact (Value.contained_toCondition v part).bind fun c => rest (.not c)
    · exact (Value.contained_toConditions "and" v part).bind fun cs => rest (.and cs)
    · exact (Value.contained_toConditions "or" v part).bind fun cs => rest (.or cs)
    · exact contained_argument part.pair

end

/-! ### Arguments -/

namespace Operator

theorem contained_checkSegments {malformed : Fault}
    (blamed : Contained short (.error malformed : Outcome Unit)) (segments : List (List Char)) :
    Contained short (checkSegments malformed segments) := by
  induction segments with
  | nil => exact contained_ok _
  | cons s rest ih =>
    unfold checkSegments
    split
    · exact blamed
    · exact (contained_parse fun _ => rfl).bind fun _ => ih

theorem contained_expression (operation : String) {v : Value} (shows : v.Shows short) :
    Contained short (expression operation v) := by
  unfold expression
  split
  · exact contained_ok _
  · split
    · exact contained_argument fun _ => rfl
    · exact (contained_checkSegments (contained_argument fun _ => rfl) _).map _
  · exact contained_argument shows

end Operator

theorem Count.contained_coerce (operation : String) {v : Value} (shows : v.Shows short) :
    Contained short (coerce operation v) := by
  unfold coerce
  split
  · exact contained_ok _
  · exact contained_ok _
  · exact contained_ok _
  · exact contained_ok _
  · exact contained_argument shows

theorem Returning.contained_coerce (operation : String) {v : Value} (shows : v.Shows short) :
    Contained short (coerce operation v) := by
  unfold coerce
  split
  · exact contained_ok _
  · exact contained_ok _
  · exact contained_ok _
  · exact contained_ok _
  · exact contained_argument shows

namespace Request

theorem contained_columnList {columns : Value} (shows : columns.Shows short) :
    Contained short (columnList columns) := by
  unfold columnList
  split
  · exact contained_ok _
  · split
    · exact contained_ok _
    · exact contained_argument shows

theorem contained_payload (operation : String) {data : Value} (shows : data.Shows short) :
    Contained short (payload operation data) :=
  .accept (contained_argument shows)

theorem contained_projected {column : Value} (shows : column.Shows short) :
    Contained short (projected column) := by
  unfold projected
  split
  · exact contained_ok _
  · exact contained_argument shows

theorem contained_projection {columns : Value} (shows : columns.Shows short) :
    Contained short (projection columns) := by
  unfold projection
  dsimp only
  split
  · exact contained_ok _
  · exact contained_ok _
  · split
    · next xs listed =>
      exact (Contained.mapM fun x member =>
        contained_projected (shows.sequenceItem listed x member)).bind fun _ => contained_ok _
    · exact contained_argument shows

theorem contained_window {first last : Value} (from_first : first.Shows short)
    (to_last : last.Shows short) : Contained short (window first last) := by
  unfold window
  split
  · exact contained_ok _
  · exact contained_ok _
  · exact contained_argument (Value.Shows.of_items
      (List.forall_mem_cons.mpr ⟨from_first, List.forall_mem_singleton.mpr to_last⟩))

variable (r : Request)

theorem contained_select {columns count : Value} (listed : columns.Shows short)
    (counted : count.Shows short) (returning : Value) :
    Contained short (r.select columns count returning) :=
  (Count.contained_coerce "select" counted).bind fun _ => (contained_columnList listed).map _

theorem contained_update {data returning count : Value} (given : data.Shows short)
    (asked : returning.Shows short) (counted : count.Shows short) :
    Contained short (r.update data returning count) :=
  (Returning.contained_coerce "update" asked).bind fun _ =>
    (Count.contained_coerce "update" counted).bind fun _ =>
      (contained_payload "update" given).map _

theorem contained_delete {returning count : Value} (asked : returning.Shows short)
    (counted : count.Shows short) : Contained short (r.delete returning count) :=
  (Returning.contained_coerce "delete" asked).bind fun _ =>
    (Count.contained_coerce "delete" counted).map _

theorem contained_post (operation : String) {data : Value} (given : data.Shows short)
    (preferences : List String) (target : Option String) :
    Contained short (r.post operation data preferences target) :=
  (contained_payload operation given).map _

theorem contained_returnRows {columns : Value} (named : columns.Shows short) :
    Contained short (r.returnRows columns) :=
  (contained_projection named).map _

theorem contained_chooseSchema {name : Value} (shows : name.Shows short) :
    Contained short (r.chooseSchema name) := by
  unfold chooseSchema
  split
  · split
    · exact contained_argument fun _ => rfl
    · exact contained_ok _
  · exact contained_argument shows

end Request

end Contained

end RestQuery
