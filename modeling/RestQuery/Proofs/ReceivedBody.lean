import RestQuery.Proofs.JsonRoundTrip
import RestQuery.Proofs.ReplyQueue
import RestQuery.Proofs.Utf8Text

/-!
# The body of a response

A body is a text, or bytes that are read as one: the bytes of JSON have to be UTF-8, any others are
read leniently. So a text and its bytes come to the same: `received_text_eq_bytes`.
-/

namespace RestQuery

open Text

namespace Response

/-- What the caller gets for a response with headers in any letter case. -/
def received (raising : Bool) (status : Int) (headers : List (String × String)) (body : Value) :
    Outcome Response :=
  (Reply.response ⟨status, .ofEntries headers, body⟩).outcome raising

/-- The bodies that come with a response. -/
inductive IsBody : Value → Prop where
  | text {v : Value} (text : v.IsText) : IsBody v
  | bytes (bs : List UInt8) : IsBody (.bytes bs)

/-- Bytes that are no text in UTF-8. -/
def Garbled (bs : List UInt8) : Prop := ∀ s : String, bs ≠ s.toUTF8.data.toList

/-- The text of a body. Bytes stand for the text that they encode; where there is none, they are shown
as well as they can be, unless they ought to be JSON. -/
inductive Reads (json : Prop) : Value → Value → Prop where
  | text {v : Value} (text : v.IsText) : Reads json v v
  | utf8 {bs : List UInt8} {s : String} (encoded : bs = s.toUTF8.data.toList) :
      Reads json (.bytes bs) (.text s)
  | garbled {bs : List UInt8} (undeclared : ¬ json) (gap : Garbled bs) :
      Reads json (.bytes bs) (.text (Utf8.decodeLenient bs))

/-- The data that a text stands for. -/
inductive Holds (json : Prop) (text : Value) : Value → Prop where
  | nothing (empty : text = .text "") : Holds json text .null
  | document {data : Value} (filled : text ≠ .text "") (declared : json)
      (parsed : Json.parse text = .ok data) : Holds json text data
  | plain (filled : text ≠ .text "") (undeclared : ¬ json) : Holds json text text

/-- The bodies that are no JSON documents: bytes that are no text, and texts that are not in the
format, though not the empty one. -/
inductive NoDocument : Value → Prop where
  | undecodable {bs : List UInt8} (gap : Garbled bs) : NoDocument (.bytes bs)
  | unparsable {body text : Value} {f : Fault} (read : Reads True body text)
      (filled : text ≠ .text "") (failed : Json.parse text = .error f) : NoDocument body

variable {json : Bool} {body text data : Value}

theorem Reads.isText {json : Prop} (reads : Reads json body text) : text.IsText := by
  cases reads with
  | text text => exact text
  | utf8 | garbled => exact .text _

theorem truth_iff (text : data.IsText) : data.truth = true ↔ data ≠ .text "" := by
  cases text with
  | text s => simp [Value.truth]
  | unpaired ps => exact iff_of_true rfl nofun

theorem bodyText_strict {bs : List UInt8} :
    bodyText true (.bytes bs) = .ok text ↔ ∃ s : String, bs = s.toUTF8.data.toList ∧ text = .text s := by
  simp only [← Utf8.decode?_iff]
  cases decoded : Utf8.decode? bs with
  | none => simp [bodyText, decoded]
  | some s => simp [bodyText, decoded, eq_comm]

/-- Bytes that are a text are read as that text, JSON or not. -/
theorem bodyText_toUTF8 (json : Bool) (s : String) :
    bodyText json (.bytes s.toUTF8.data.toList) = .ok (.text s) := by
  cases json with
  | true => exact bodyText_strict.mpr ⟨s, rfl, rfl⟩
  | false =>
    have shown : Utf8.decodeLenient s.toUTF8.data.toList = s := by
      rw [← Utf8.encode_eq, Utf8.decodeLenient_encode]
    rw [bodyText, if_neg Bool.false_ne_true, shown]

theorem bodyText_ok (carried : IsBody body) :
    bodyText json body = .ok text ↔ Reads (json = true) body text := by
  cases carried with
  | text known =>
    have kept : bodyText json body = .ok body := by cases known <;> rfl
    rw [kept]
    constructor
    · rintro ⟨⟩
      exact .text known
    · intro reads
      cases reads with
      | text => rfl
      | utf8 | garbled => cases known
  | bytes bs =>
    constructor
    · intro read
      by_cases encoded : ∃ s : String, bs = s.toUTF8.data.toList
      · obtain ⟨s, encoded⟩ := encoded
        rw [encoded, bodyText_toUTF8] at read
        cases read
        exact .utf8 encoded
      · have gap : Garbled bs := not_exists.mp encoded
        cases json with
        | false =>
          cases read
          exact .garbled Bool.false_ne_true gap
        | true =>
          obtain ⟨s, utf8, _⟩ := bodyText_strict.mp read
          exact absurd utf8 (gap s)
    · intro reads
      cases reads with
      | text known => cases known
      | utf8 encoded =>
        rw [encoded]
        exact bodyText_toUTF8 json _
      | garbled undeclared _ =>
        rw [Bool.not_eq_true] at undeclared
        rw [undeclared]
        rfl

/-- Only an empty body is read as the empty text. -/
theorem Reads.eq_empty_iff {json : Prop} (reads : Reads json body text) :
    text = .text "" ↔ body = .text "" ∨ body = .bytes [] := by
  cases reads with
  | text known =>
    refine (or_iff_left ?_).symm
    rintro rfl
    cases known
  | @utf8 bs s encoded =>
    subst encoded
    rw [Value.text.injEq, or_iff_right nofun, Value.bytes.injEq, ← Utf8.encode_eq]
    constructor
    · rintro rfl
      rfl
    · intro nothing
      have same := Utf8.decode?_encode s
      rw [nothing] at same
      exact (Option.some.inj same).symm
  | garbled => simp [Utf8.decodeLenient_eq_empty]

theorem bodyData_of_empty (read : bodyText json body = .ok (.text "")) :
    bodyData json body = .ok .null := by
  rw [bodyData, read]
  rfl

theorem bodyData_of_filled (read : bodyText json body = .ok text) (known : text.IsText)
    (filled : text ≠ .text "") :
    bodyData json body = if json then Json.parse text else .ok text := by
  have truth : text.truth = true := (truth_iff known).mpr filled
  rw [bodyData, read]
  simp only [bind, Except.bind, truth, Bool.not_true]
  rfl

/-- The data of a body is what its text holds. -/
theorem bodyData_ok (carried : IsBody body) :
    bodyData json body = .ok data ↔ ∃ text, Reads (json = true) body text ∧
      Holds (json = true) text data := by
  constructor
  · intro done
    obtain ⟨text, read, _⟩ := bind_ok.mp done
    have reads := (bodyText_ok carried).mp read
    refine ⟨text, reads, ?_⟩
    by_cases empty : text = .text ""
    · subst empty
      cases (bodyData_of_empty read).symm.trans done
      exact .nothing rfl
    · rw [bodyData_of_filled read reads.isText empty] at done
      cases json with
      | true => exact .document empty rfl done
      | false =>
        cases done
        exact .plain empty Bool.false_ne_true
  · rintro ⟨text, reads, holds⟩
    have read := (bodyText_ok carried).mpr reads
    cases holds with
    | nothing empty => exact bodyData_of_empty (empty ▸ read)
    | document filled declared parsed =>
      rw [bodyData_of_filled read reads.isText filled, if_pos declared, parsed]
    | plain filled undeclared =>
      rw [bodyData_of_filled read reads.isText filled, if_neg undeclared]

theorem bodyText_fails {f : Fault} (carried : IsBody body) (failed : bodyText json body = .error f) :
    json = true ∧ NoDocument body := by
  cases carried with
  | text known => cases known <;> cases failed
  | bytes bs =>
    cases json with
    | false => cases failed
    | true =>
      refine ⟨rfl, .undecodable fun s utf8 => ?_⟩
      cases (bodyText_strict.mpr ⟨s, utf8, rfl⟩).symm.trans failed

/-- There is no data exactly if the body ought to be a document and is none. -/
theorem bodyData_fails (carried : IsBody body) :
    (∃ f, bodyData json body = .error f) ↔ json = true ∧ NoDocument body := by
  constructor
  · rintro ⟨f, failed⟩
    cases read : bodyText json body with
    | error f => exact bodyText_fails carried read
    | ok text =>
      have reads := (bodyText_ok carried).mp read
      by_cases empty : text = .text ""
      · subst empty
        cases (bodyData_of_empty read).symm.trans failed
      · rw [bodyData_of_filled read reads.isText empty] at failed
        cases json with
        | false => cases failed
        | true => exact ⟨rfl, .unparsable (by simpa using reads) empty failed⟩
  · rintro ⟨rfl, none⟩
    cases none with
    | @undecodable bs gap =>
      cases read : bodyText true (.bytes bs) with
      | error f =>
        rw [bodyData, read]
        exact ⟨f, rfl⟩
      | ok text =>
        obtain ⟨s, utf8, _⟩ := bodyText_strict.mp read
        exact absurd utf8 (gap s)
    | @unparsable _ text f reads filled failed =>
      have reads : Reads (true = true) body text := by simpa using reads
      rw [bodyData_of_filled ((bodyText_ok carried).mpr reads) reads.isText filled]
      exact ⟨f, failed⟩

/-- A text and its UTF-8 bytes come to the same, in data, refusals and faults: both decoders give back
the text, whether or not the headers declare JSON. -/
theorem received_text_eq_bytes (raising : Bool) (status : Int) (headers : List (String × String))
    (b : String) :
    received raising status headers (.text b) =
      received raising status headers (.bytes b.toUTF8.data.toList) := by
  have data (json : Bool) : bodyData json (.text b) = bodyData json (.bytes b.toUTF8.data.toList) := by
    rw [bodyData, bodyData, bodyText_toUTF8]
    rfl
  have decoded : decode ⟨status, .ofEntries headers, .text b⟩ =
      decode ⟨status, .ofEntries headers, .bytes b.toUTF8.data.toList⟩ := by
    rw [decode, decode, data]
  rw [received, received, Reply.outcome, Reply.outcome, decoded]

end Response

end RestQuery
