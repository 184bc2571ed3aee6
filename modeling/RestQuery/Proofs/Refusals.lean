import RestQuery.Proofs.JsonData
import RestQuery.Response.Basic

/-!
# What a refusal keeps

The map that comes with an error status becomes the body of a refusal, which keeps every field: those
with a meaning of their own under their names, all others in their order. Only a name with half of a
surrogate pair stands in the way: `ofValue_whole`.
-/

namespace RestQuery

open Text

/-- What a map gives under a name. -/
inductive Gives (es : List (Value × Value)) (name : String) : Option Value → Prop where
  | here {v : Value} (member : (.text name, v) ∈ es) : Gives es name (some v)
  | absent (missing : ∀ v, (.text name, v) ∉ es) : Gives es name none

variable {es : List (Value × Value)} {name : String}

theorem gives_cons_other {e : Value × Value} {o : Option Value} (other : e.1 ≠ .text name)
    (gives : Gives es name o) : Gives (e :: es) name o := by
  cases gives with
  | here member => exact .here (List.mem_cons_of_mem _ member)
  | absent missing =>
    refine .absent fun v member => ?_
    rcases List.mem_cons.mp member with rfl | later
    · exact other rfl
    · exact missing v later

theorem gives_lookup (es : List (Value × Value)) (name : String) :
    Gives es name (Value.lookup name es) := by
  induction es with
  | nil => exact .absent fun _ => List.not_mem_nil
  | cons e es ih =>
    obtain ⟨k, v⟩ := e
    cases k with
    | text k =>
      rw [Value.lookup]
      split
      · next same =>
        subst same
        exact .here List.mem_cons_self
      · next other => exact gives_cons_other (fun same => other (Value.text.inj same)) ih
    | _ => exact gives_cons_other nofun ih

theorem Gives.unique (distinct : (es.map (·.1)).Nodup) {o o' : Option Value}
    (gives : Gives es name o) (gives' : Gives es name o') : o = o' := by
  cases gives with
  | absent missing =>
    cases gives' with
    | absent => rfl
    | here member => exact absurd member (missing _)
  | here member =>
    cases gives' with
    | absent missing => exact absurd member (missing _)
    | here member' =>
      exact congrArg some (congrArg Prod.snd (List.inj_on_of_nodup_map distinct member member' rfl))

/-- The message that stands for what is given as one. A text with half of a pair is shown. -/
inductive MessageOf : Option Value → String → Prop where
  | absent : MessageOf none ""
  | null : MessageOf (some .null) ""
  | text (s : String) : MessageOf (some (.text s)) s
  | shown (ps : List Point) : MessageOf (some (.unpaired ps)) (String.ofList (Point.shown ps))
  | written {v : Value} {t : String} (given : v ≠ .null) (other : ¬ v.IsText)
      (printed : Json.print v = .ok t) : MessageOf (some v) t

/-- The body of a refusal holds all that a map gives. -/
structure Keeps (es : List (Value × Value)) (body : ErrorBody) : Prop where
  message : ∀ o, Gives es "message" o → MessageOf o body.message
  code : ∀ o, Gives es "code" o → body.code = o.getD .null
  details : ∀ o, Gives es "details" o → body.details = o.getD .null
  hint : ∀ o, Gives es "hint" o → body.hint = o.getD .null
  others : body.extra.Sublist es
  other : ∀ e ∈ es, e ∈ body.extra ↔ ∀ field ∈ ErrorBody.fieldNames, e.1 ≠ .text field

namespace ErrorBody

theorem field_of_gives (distinct : (es.map (·.1)).Nodup) {o : Option Value}
    (gives : Gives es name o) : field name es = o.getD .null := by
  rw [field, (gives_lookup es name).unique distinct gives]

theorem isField_iff {k : Value} : isField k = true ↔ ∃ field ∈ fieldNames, k = .text field := by
  cases k with
  | text s => simp [isField]
  | _ => simp [isField]

theorem keyProblems_eq_nil (names : ∀ e ∈ es, e.1.IsText) : keyProblems es = [] := by
  rw [keyProblems, List.filterMap_eq_nil_iff]
  intro e member
  have named := names e member
  revert named
  cases e.1 with
  | text | unpaired => exact fun _ => rfl
  | _ => exact nofun

theorem isJson_field (json : (Value.map es).IsJson) (name : String) : (field name es).IsJson := by
  unfold field
  cases found : Value.lookup name es with
  | none => exact .null
  | some v =>
    have gives := found ▸ gives_lookup es name
    cases gives with
    | here member => exact json.values _ member

theorem messageText_ok {v : Value} (json : v.IsJson) :
    ∃ t, messageText v = .ok t ∧ MessageOf (some v) t := by
  obtain ⟨t, printed⟩ := json.print_ok
  cases json with
  | null => exact ⟨_, rfl, .null⟩
  | text text =>
    cases text with
    | text s => exact ⟨_, rfl, .text s⟩
    | unpaired ps => exact ⟨_, rfl, .shown ps⟩
  | _ => exact ⟨t, printed, .written nofun nofun printed⟩

theorem messageText_field (json : (Value.map es).IsJson) :
    ∃ t, messageText (field "message" es) = .ok t ∧ MessageOf (Value.lookup "message" es) t := by
  obtain ⟨t, read, meant⟩ := messageText_ok (isJson_field json "message")
  refine ⟨t, read, ?_⟩
  unfold field at read meant
  cases found : Value.lookup "message" es with
  | some v =>
    rw [found] at meant
    exact meant
  | none =>
    rw [found] at read
    cases read
    exact .absent

theorem ofValue_of_messageText (names : ∀ e ∈ es, e.1.IsText) {message : String}
    (read : messageText (field "message" es) = .ok message) :
    ofValue (.map es) =
      if es.any (·.1.isUnpaired) then .error (.invalidSettings [("", .notUtf8)])
      else .ok {
        message
        code := field "code" es
        details := field "details" es
        hint := field "hint" es
        extra := es.filter fun e => !isField e.1 } := by
  simp only [ofValue, read, keyProblems_eq_nil names]

/-- A name with half of a pair stands in the way of a refusal, whatever else the map holds. -/
theorem ofValue_halved (json : (Value.map es).IsJson) (halved : ∃ e ∈ es, e.1.isUnpaired = true) :
    ofValue (.map es) = .error (.invalidSettings [("", .notUtf8)]) := by
  obtain ⟨message, read, _⟩ := messageText_field json
  rw [ofValue_of_messageText json.names read, if_pos (List.any_eq_true.mpr halved)]

/-- Every other map from a document becomes the body of a refusal, and nothing in it is lost. -/
theorem ofValue_whole (json : (Value.map es).IsJson) (whole : ∀ e ∈ es, e.1.isUnpaired = false) :
    ∃ body, ofValue (.map es) = .ok body ∧ Keeps es body := by
  obtain ⟨message, read, meant⟩ := messageText_field json
  have distinct := json.distinct
  have unhalved : ¬ es.any (·.1.isUnpaired) = true := by
    rw [List.any_eq_true]
    rintro ⟨e, member, halved⟩
    rw [whole e member] at halved
    cases halved
  rw [ofValue_of_messageText json.names read, if_neg unhalved]
  -- A name that stands twice could be looked up in either place, but a document has none.
  refine ⟨_, rfl, ?_, ?_, ?_, ?_, List.filter_sublist, ?_⟩
  · intro o gives
    rw [← (gives_lookup es "message").unique distinct gives]
    exact meant
  · exact fun o => field_of_gives distinct
  · exact fun o => field_of_gives distinct
  · exact fun o => field_of_gives distinct
  · intro e member
    rw [List.mem_filter, and_iff_right member, Bool.not_eq_true', ← Bool.not_eq_true, isField_iff]
    simp only [not_exists, not_and, ne_eq]

end ErrorBody

namespace ErrorReport

theorem of_ok {body : ErrorBody} {code : String} (status : Int)
    (displayed : body.code.display = .ok code) :
    ∃ report, ErrorReport.of status body = .ok report ∧ report.status = status ∧
      report.body = body := by
  have written : ∃ t, codeText body.code = .ok t := by
    unfold codeText
    split
    · exact ⟨_, bind_ok.mpr ⟨code, displayed, rfl⟩⟩
    · exact ⟨_, rfl⟩
  obtain ⟨t, written⟩ := written
  exact ⟨_, bind_ok.mpr ⟨t, written, rfl⟩, rfl, rfl⟩

/-- A map from a document with texts for names can be reported, under whatever status. -/
theorem of_whole (status : Int) (json : (Value.map es).IsJson)
    (whole : ∀ e ∈ es, e.1.isUnpaired = false) :
    ∃ body report, ErrorBody.ofValue (.map es) = .ok body ∧ Keeps es body ∧
      ErrorReport.of status body = .ok report ∧ report.status = status ∧ report.body = body := by
  obtain ⟨body, built, keeps⟩ := ErrorBody.ofValue_whole json whole
  have code : body.code.IsJson := by
    rw [keeps.code _ (gives_lookup es "code")]
    exact ErrorBody.isJson_field json "code"
  obtain ⟨report, reported, same, holds⟩ := of_ok status code.display_ok
  exact ⟨body, report, built, keeps, reported, same, holds⟩

end ErrorReport

/-! ### Refusals of a response -/

namespace Response

variable {status : Int} {data : Value}

/-- A map comes with an error status. -/
def Refuses (status : Int) (es : List (Value × Value)) (data : Value) : Prop :=
  400 ≤ status ∧ status ≤ 599 ∧ data = .map es

theorem isErrorStatus_iff : isErrorStatus status = true ↔ 400 ≤ status ∧ status ≤ 599 := by
  simp [isErrorStatus]

theorem refusalOf_of_refuses (refuses : Refuses status es data) :
    refusalOf status data = do
      return some (← ErrorReport.of status (← ErrorBody.ofValue (.map es))) := by
  obtain ⟨low, high, rfl⟩ := refuses
  exact if_pos (Bool.and_eq_true_iff.mpr ⟨isErrorStatus_iff.mpr ⟨low, high⟩, rfl⟩)

theorem refusalOf_halved (json : data.IsJson) (refuses : Refuses status es data)
    (halved : ∃ e ∈ es, e.1.isUnpaired = true) :
    refusalOf status data = .error (.invalidSettings [("", .notUtf8)]) := by
  have map : (Value.map es).IsJson := refuses.2.2 ▸ json
  rw [refusalOf_of_refuses refuses, ErrorBody.ofValue_halved map halved]
  rfl

theorem refusalOf_whole (json : data.IsJson) (refuses : Refuses status es data)
    (whole : ∀ e ∈ es, e.1.isUnpaired = false) :
    ∃ report, refusalOf status data = .ok (some report) ∧ report.status = status ∧
      Keeps es report.body := by
  have map : (Value.map es).IsJson := refuses.2.2 ▸ json
  obtain ⟨body, report, built, keeps, reported, same, holds⟩ := ErrorReport.of_whole status map whole
  refine ⟨report, ?_, same, holds ▸ keeps⟩
  rw [refusalOf_of_refuses refuses]
  exact bind_ok.mpr ⟨body, built, bind_ok.mpr ⟨report, reported, rfl⟩⟩

theorem refusalOf_accepted (accepted : ∀ es, ¬ Refuses status es data) :
    refusalOf status data = .ok none := by
  refine if_neg fun refused => ?_
  obtain ⟨error, map⟩ := Bool.and_eq_true_iff.mp refused
  cases data with
  | map es =>
    obtain ⟨low, high⟩ := isErrorStatus_iff.mp error
    exact accepted es ⟨low, high, rfl⟩
  | _ => cases map

/-- All that can become of the data of a response, as far as refusals go. -/
theorem refusalOf_cases (status : Int) (json : data.IsJson) :
    ((∀ es, ¬ Refuses status es data) ∧ refusalOf status data = .ok none) ∨
      (∃ es report, Refuses status es data ∧ refusalOf status data = .ok (some report) ∧
        report.status = status ∧ Keeps es report.body) ∨
      ∃ es, Refuses status es data ∧ (∃ e ∈ es, e.1.isUnpaired = true) ∧
        refusalOf status data = .error (.invalidSettings [("", .notUtf8)]) := by
  by_cases accepted : ∀ es, ¬ Refuses status es data
  · exact Or.inl ⟨accepted, refusalOf_accepted accepted⟩
  · obtain ⟨es, refuses⟩ := Classical.not_forall_not.mp accepted
    by_cases halved : ∃ e ∈ es, e.1.isUnpaired = true
    · exact Or.inr (Or.inr ⟨es, refuses, halved, refusalOf_halved json refuses halved⟩)
    · have whole : ∀ e ∈ es, e.1.isUnpaired = false := fun e member =>
        Bool.eq_false_iff.mpr fun half => halved ⟨e, member, half⟩
      obtain ⟨report, made⟩ := refusalOf_whole json refuses whole
      exact Or.inr (Or.inl ⟨es, report, refuses, made⟩)

theorem refusalOf_fails (json : data.IsJson) :
    (∃ f, refusalOf status data = .error f) ↔
      ∃ es, Refuses status es data ∧ ∃ e ∈ es, e.1.isUnpaired = true := by
  constructor
  · rintro ⟨f, failed⟩
    rcases refusalOf_cases status json with ⟨_, none⟩ | ⟨_, _, _, made, _⟩ | ⟨es, refuses, halved, _⟩
    · cases none.symm.trans failed
    · cases made.symm.trans failed
    · exact ⟨es, refuses, halved⟩
  · rintro ⟨es, refuses, halved⟩
    exact ⟨_, refusalOf_halved json refuses halved⟩

/-- There is a refusal if a map comes with an error status, and it is about that map. -/
theorem refusal_of_data (json : data.IsJson) {refusal : Option ErrorReport}
    (done : refusalOf status data = .ok refusal) :
    (refusal.isSome = true ↔ ∃ es, Refuses status es data) ∧
      ∀ report, refusal = some report → report.status = status ∧
        ∀ es, data = .map es → Keeps es report.body := by
  rcases refusalOf_cases status json with
    ⟨accepted, none⟩ | ⟨es, report, refuses, made, same, keeps⟩ | ⟨_, _, _, failed⟩
  · cases none.symm.trans done
    exact ⟨iff_of_false nofun fun ⟨es, refuses⟩ => accepted es refuses, nofun⟩
  · cases made.symm.trans done
    refine ⟨iff_of_true rfl ⟨es, refuses⟩, ?_⟩
    rintro _ ⟨⟩
    refine ⟨same, fun es' map => ?_⟩
    cases refuses.2.2.symm.trans map
    exact keeps
  · cases failed.symm.trans done

end Response

end RestQuery
