import RestQuery.Proofs.ReceivedBody
import RestQuery.Proofs.Refusals
import RestQuery.Proofs.ResponseHeaders

/-!
# What a response comes to

A response is decoded unless the total in its headers misleads, its body ought to be JSON and is
none, or its refusal cannot be made: `received_fails_iff`. What it is decoded to says all that was
received: `received_classifies`.
-/

namespace RestQuery

open Text

namespace Response

variable {status : Int} {headers : List (String × String)} {body text data : Value}

/-! ### Responses that are not decoded -/

/-- The headers give a range whose total passes for a number and is none. -/
def RangeMisleads (headers : List (String × String)) : Prop :=
  ∃ range total, Headers.Sends headers "content-range" range ∧ Totals range total ∧ Misleading total

/-- A body that is a document with a map in it. -/
def HoldsMap (headers : List (String × String)) (body : Value) (es : List (Value × Value)) : Prop :=
  Headers.DeclareJson headers ∧
    ∃ text, Reads True body text ∧ text ≠ .text "" ∧ Json.parse text = .ok (.map es)

theorem countOf_fails :
    (∃ f, countOf (.ofEntries headers) = .error f) ↔ RangeMisleads headers := by
  unfold RangeMisleads
  simp only [← Headers.find?_ofEntries_iff, exists_and_left]
  unfold countOf
  cases (Headers.ofEntries headers).find? "content-range" with
  | none => simp
  | some range => simp [parseCount_fails]

theorem Holds.isJson {json : Prop} (holds : Holds json text data) (known : text.IsText) :
    data.IsJson := by
  cases holds with
  | nothing => exact .null
  | document _ _ parsed => exact Json.isJson_of_parse parsed
  | plain => exact .text known

theorem isJson_of_bodyData {json : Bool} (carried : IsBody body)
    (done : bodyData json body = .ok data) : data.IsJson := by
  obtain ⟨text, reads, holds⟩ := (bodyData_ok carried).mp done
  exact holds.isJson reads.isText

theorem holdsMap_iff (carried : IsBody body) {es : List (Value × Value)} :
    bodyData (declaresJson (.ofEntries headers)) body = .ok (.map es) ↔ HoldsMap headers body es := by
  rw [bodyData_ok carried, declaresJson_iff]
  constructor
  · rintro ⟨text, reads, holds⟩
    cases holds with
    | document filled declared parsed =>
      exact ⟨declared, text, by simpa [declared] using reads, filled, parsed⟩
    | plain => cases reads.isText
  · rintro ⟨declared, text, reads, filled, parsed⟩
    exact ⟨text, by simpa [declared] using reads, .document filled declared parsed⟩

/-- A refusal that cannot be made: an error status comes with a map in which a name has half of a
surrogate pair. -/
def RefusalFails (status : Int) (headers : List (String × String)) (body : Value) : Prop :=
  400 ≤ status ∧ status ≤ 599 ∧ ∃ es, HoldsMap headers body es ∧ ∃ e ∈ es, e.1.isUnpaired = true

theorem received_false :
    received false status headers body = decode ⟨status, .ofEntries headers, body⟩ := by
  have kept (r : Response) : r.deliver false = .ok r := by
    unfold deliver
    split <;> rfl
  rw [received, Reply.outcome]
  cases decode ⟨status, .ofEntries headers, body⟩ with
  | error f => rfl
  | ok r => exact kept r

theorem decode_fails (carried : IsBody body) :
    (∃ f, decode ⟨status, .ofEntries headers, body⟩ = .error f) ↔
      RangeMisleads headers ∨ (Headers.DeclareJson headers ∧ NoDocument body) ∨
        RefusalFails status headers body := by
  have refusal : (∃ data, bodyData (declaresJson (.ofEntries headers)) body = .ok data ∧
      ∃ f, refusalOf status data = .error f) ↔ RefusalFails status headers body := by
    constructor
    · rintro ⟨data, done, failed⟩
      obtain ⟨es, ⟨low, high, rfl⟩, halved⟩ := (refusalOf_fails (isJson_of_bodyData carried done)).mp failed
      exact ⟨low, high, es, (holdsMap_iff carried).mp done, halved⟩
    · rintro ⟨low, high, es, holds, halved⟩
      have done := (holdsMap_iff carried).mpr holds
      exact ⟨_, done, (refusalOf_fails (isJson_of_bodyData carried done)).mpr
        ⟨es, ⟨low, high, rfl⟩, halved⟩⟩
  rw [← refusal, ← countOf_fails, ← declaresJson_iff, ← bodyData_fails carried, decode]
  simp only [bind_fails]
  constructor
  · rintro (misled | ⟨_, _, failed | ⟨data, done, refused | ⟨_, _, _, never⟩⟩⟩)
    · exact Or.inl misled
    · exact Or.inr (Or.inl failed)
    · exact Or.inr (Or.inr ⟨data, done, refused⟩)
    · cases never
  · intro fails
    -- The range is read before the body, so a body that is no document may go unnoticed.
    cases counted : countOf (.ofEntries headers) with
    | error f => exact Or.inl ⟨f, rfl⟩
    | ok count =>
      rw [counted] at fails
      refine Or.inr ⟨count, rfl, ?_⟩
      rcases fails with ⟨_, ⟨⟩⟩ | failed | ⟨data, done, refused⟩
      · exact Or.inl failed
      · exact Or.inr ⟨data, done, Or.inl refused⟩

/-- The total of a range is a number or none, and to read it fails exactly if it misleads. A response
is decoded unless that happens, its body ought to be a document and is none, or its refusal cannot be
made. -/
theorem received_fails_iff (status : Int) (headers : List (String × String))
    (carried : IsBody body) :
    (∀ range, ((∃ f, parseCount range = .error f) ↔ ∃ total, Totals range total ∧ Misleading total) ∧
      ∀ n, parseCount range = .ok (some n) ↔ ∃ total, Totals range total ∧ Counts total n) ∧
    ((∃ f, received false status headers body = .error f) ↔
      RangeMisleads headers ∨ (Headers.DeclareJson headers ∧ NoDocument body) ∨
        RefusalFails status headers body) := by
  refine ⟨fun range => ⟨parseCount_fails, fun n => parseCount_ok_some⟩, ?_⟩
  rw [received_false]
  exact decode_fails carried

theorem received_fails_iff_superscript :
    IsBody (.bytes [0xFF]) ∧ parseCount "0-24/3573" = .ok (some 3573) ∧
      ∃ f, received false 200 [("Content-Range", "0-1/²")] (.bytes [0xFF]) = .error f := by
  have carried : IsBody (.bytes [0xFF]) := .bytes _
  obtain ⟨counts, fails⟩ := received_fails_iff 200 [("Content-Range", "0-1/²")] carried
  have total : Totals "0-24/3573" "3573" := ⟨"0-24", "3573", rfl, by decide, by decide +kernel⟩
  have number : Counts "3573" 3573 := ⟨by decide, by decide, by decide +kernel⟩
  have sent : Headers.Sends [("Content-Range", "0-1/²")] "content-range" "0-1/²" :=
    ⟨[], "Content-Range", [], rfl, by decide +kernel, List.forall_mem_nil _⟩
  have sign : Totals "0-1/²" "²" := ⟨"0-1", "²", rfl, by decide, by decide +kernel⟩
  have misleading : Misleading "²" :=
    ⟨by decide, List.forall_mem_singleton.mpr (by decide +kernel),
      Or.inl ⟨'²', List.mem_cons_self, by decide +kernel⟩⟩
  exact ⟨carried, (counts "0-24/3573").2 3573 |>.mpr ⟨"3573", total, number⟩,
    fails.mpr (Or.inl ⟨"0-1/²", "²", sent, sign, misleading⟩)⟩

/-- A superscript passes for a number, and then it is none. -/
theorem superscript_breaks_count :
    ∃ f, parseCount "0-1/²" = .error f ∧
      received false 200 [("content-range", "0-1/²")] (.text "") = .error f :=
  ⟨_, rfl, rfl⟩

/-! ### Responses that are decoded -/

theorem data_eq_null_iff {json : Prop} (reads : Reads json body text) (holds : Holds json text data) :
    data = .null ↔ (body = .text "" ∨ body = .bytes []) ∨ json ∧ Json.parse text = .ok .null := by
  rw [← reads.eq_empty_iff]
  cases holds with
  | nothing empty => exact iff_of_true rfl (Or.inl empty)
  | document filled declared parsed =>
    rw [or_iff_right filled, and_iff_right declared, parsed, Except.ok.injEq]
  | plain filled undeclared =>
    refine iff_of_false ?_ (not_or.mpr ⟨filled, fun declared => undeclared declared.1⟩)
    rintro rfl
    cases reads.isText

/-- A response says what came: the data that the body holds, the refusal if a map comes with an error
status, and how to raise it. -/
structure Tells (status : Int) (headers : List (String × String)) (body : Value) (r : Response) :
    Prop where
  status_eq : r.status = status
  headers_eq : r.headers = .ofEntries headers
  data : ∃ text, Reads (Headers.DeclareJson headers) body text ∧
    Holds (Headers.DeclareJson headers) text r.data ∧
    (r.data = .null ↔ (body = .text "" ∨ body = .bytes []) ∨
      Headers.DeclareJson headers ∧ Json.parse text = .ok .null)
  ok_iff : r.ok = true ↔ status < 400
  refused_iff : r.refusal.isSome = true ↔ 400 ≤ status ∧ status ≤ 599 ∧ ∃ es, HoldsMap headers body es
  kept : ∀ report, r.refusal = some report → report.status = status ∧
    ∃ es, HoldsMap headers body es ∧ Keeps es report.body
  raised : Response.received true status headers body = match r.refusal with
    | some report => .error (.refused report)
    | none => .ok r

theorem received_true (status : Int) (headers : List (String × String)) (body : Value) {r : Response}
    (decoded : decode ⟨status, .ofEntries headers, body⟩ = .ok r) :
    received true status headers body = match r.refusal with
      | some report => .error (.refused report)
      | none => .ok r := by
  rw [received, Reply.outcome, decoded]
  rfl

theorem tells_of_decode (carried : IsBody body) {r : Response}
    (decoded : decode ⟨status, .ofEntries headers, body⟩ = .ok r) : Tells status headers body r := by
  have raised := received_true status headers body decoded
  obtain ⟨count, _, made⟩ := bind_ok.mp decoded
  obtain ⟨data, done, made⟩ := bind_ok.mp made
  obtain ⟨refusal, refused, made⟩ := bind_ok.mp made
  cases pure_ok.mp made
  obtain ⟨text, reads, holds⟩ := (bodyData_ok carried).mp done
  rw [declaresJson_iff] at reads holds
  obtain ⟨isSome, kept⟩ := refusal_of_data (holds.isJson reads.isText) refused
  have map (es : List (Value × Value)) : data = .map es ↔ HoldsMap headers body es := by
    rw [← holdsMap_iff carried, done, Except.ok.injEq]
  simp only [Refuses, map, exists_and_left] at isSome kept
  refine ⟨rfl, rfl, ⟨text, reads, holds, data_eq_null_iff reads holds⟩, ?_, isSome, ?_, raised⟩
  · have accepted (below : status < 400) : refusal.isNone = true := by
      rw [← Option.not_isSome, Bool.not_eq_true', ← Bool.not_eq_true, isSome]
      rintro ⟨low, _⟩
      omega
    simp only [ok, Bool.and_eq_true, decide_eq_true_eq]
    exact and_iff_right_of_imp accepted
  · intro report given
    obtain ⟨same, keeps⟩ := kept report given
    obtain ⟨_, _, es, holds⟩ := isSome.mp (Option.isSome_iff_exists.mpr ⟨report, given⟩)
    exact ⟨same, es, holds, keeps es holds⟩

/-- A response that is decoded says what came, and a map that a document holds can always be made a
refusal which keeps all of it, provided that its names are texts. -/
theorem received_classifies (status : Int) (headers : List (String × String))
    (carried : IsBody body) :
    (∀ r, received false status headers body = .ok r → Tells status headers body r) ∧
      ∀ es, (Value.map es).IsJson → (∀ e ∈ es, e.1.isUnpaired = false) →
        ∃ error report, ErrorBody.ofValue (.map es) = .ok error ∧ Keeps es error ∧
          ErrorReport.of status error = .ok report ∧ report.status = status ∧ report.body = error := by
  refine ⟨fun r done => ?_, fun es => ErrorReport.of_whole status⟩
  rw [received_false] at done
  exact tells_of_decode carried done

theorem received_classifies_mixed :
    let headers : List (String × String) := [("Content-Type", "Application/Problem+JSON ; v=1")]
    let body : Value := .text "\x7b\"message\":[null],\"code\":\"42\",\"x\":1\x7d"
    let es : List (Value × Value) := [(.text "message", .bool true)]
    IsBody body ∧ (∃ r report, received false 404 headers body = .ok r ∧ r.refusal = some report ∧
      r.ok = false ∧ report.status = 404 ∧ (∃ es, HoldsMap headers body es ∧ Keeps es report.body) ∧
      received true 404 headers body = .error (.refused report)) ∧
      (Value.map es).IsJson ∧ (∀ e ∈ es, e.1.isUnpaired = false) ∧
      ∃ error, ErrorBody.ofValue (.map es) = .ok error ∧ error.message = "true" := by
  intro headers body es
  have carried : IsBody body := .text (.text _)
  obtain ⟨tells, refuses⟩ := received_classifies 404 headers carried
  have refused : ((received false 404 headers body).toOption.bind (·.refusal)).isSome = true := by
    decide +kernel
  obtain ⟨report, found⟩ := Option.isSome_iff_exists.mp refused
  obtain ⟨r, done, given⟩ := Option.bind_eq_some_iff.mp found
  have told := tells r (toOption_ok.mp done)
  obtain ⟨same, kept⟩ := told.kept report given
  have raised := told.raised
  rw [given] at raised
  have failed : r.ok = false := Bool.eq_false_iff.mpr fun ok => absurd (told.ok_iff.mp ok) (by decide)
  have json : (Value.map es).IsJson :=
    .map (List.forall_mem_singleton.mpr (.text _)) (by simp [es])
      (List.forall_mem_singleton.mpr (.bool true))
  have whole : ∀ e ∈ es, e.1.isUnpaired = false := List.forall_mem_singleton.mpr rfl
  obtain ⟨error, _, built, keeps, _⟩ := refuses es json whole
  have message := keeps.message _ (.here List.mem_cons_self)
  refine ⟨carried, ⟨r, report, toOption_ok.mp done, given, failed, same, kept, raised⟩, json, whole,
    error, built, ?_⟩
  cases message with
  | written _ _ printed => exact (Except.ok.inj printed).symm

end Response

end RestQuery
