import RestQuery.Proofs.Outcome
import RestQuery.Request.Prepared

/-!
# The query in the URL

A request is sent to its own URL, behind which the query stands in a form that can be read back:
`prepare_url_carries_query`. As long as URLs hold no question mark of their own, what is sent tells
the URL and the query apart.
-/

namespace RestQuery

open Text

/-- A URL on its own, or followed by a question mark and a text from which the pairs come back. -/
inductive Carries (url : String) : List (String × String) → String → Prop where
  | plain : Carries url [] url
  | query {pairs : List (String × String)} {s : String} (some_pair : pairs ≠ [])
      (read : Form.decode? s = some pairs) : Carries url pairs (url ++ "?" ++ s)

namespace Carries

variable {url url' full : String} {pairs pairs' : List (String × String)}

/-- Without a question mark of its own, the URL is all that stands before the first one. -/
theorem splitFirst_eq (carries : Carries url pairs full) (bare : '?' ∉ url.toList) :
    ∃ rest, splitFirst '?' full.toList = (url.toList, rest) ∧
      (rest.bind fun s => Form.decode? (String.ofList s)).getD [] = pairs := by
  cases carries with
  | plain => exact ⟨none, splitFirst_of_notMem bare, rfl⟩
  | @query pairs s some_pair read =>
    have chars : (url ++ "?" ++ s).toList = url.toList ++ '?' :: s.toList := by simp
    refine ⟨some s.toList, ?_, ?_⟩
    · rw [chars, splitFirst_append bare]
    · simp [read]

/-- What is sent determines the URL and the pairs. -/
theorem unique (carries : Carries url pairs full) (carries' : Carries url' pairs' full)
    (bare : '?' ∉ url.toList) (bare' : '?' ∉ url'.toList) : url = url' ∧ pairs = pairs' := by
  obtain ⟨rest, split, read⟩ := carries.splitFirst_eq bare
  obtain ⟨rest', split', read'⟩ := carries'.splitFirst_eq bare'
  rw [split] at split'
  obtain ⟨same_url, rfl⟩ := Prod.mk.inj split'
  exact ⟨String.toList_injective same_url, read.symm.trans read'⟩

end Carries

namespace Request

variable {r : Request} {url : String}

theorem queryString_eq_empty_iff : r.queryString = "" ↔ r.query.entries = [] :=
  Form.encode_eq_empty_iff r.query.entries

theorem target_of_text (located : r.url = .text url) :
    ∃ full, r.target = .ok (.text full) ∧ Carries url r.query.entries full := by
  have shown : r.url.display = .ok url := by rw [located]; rfl
  by_cases empty : r.query.entries = []
  · refine ⟨url, ?_, empty ▸ .plain⟩
    rw [target, if_pos (queryString_eq_empty_iff.mpr empty), located]
  · refine ⟨url ++ "?" ++ r.queryString, ?_, .query empty (Form.decode?_encode _)⟩
    rw [target, if_neg (mt queryString_eq_empty_iff.mp empty), shown]
    rfl

theorem line_of_target {full : String} (located : r.url = .text url)
    (sent : r.target = .ok (.text full)) : r.line = .ok (r.method.token ++ " " ++ full) := by
  have shown : r.url.display = .ok url := by rw [located]; rfl
  unfold target at sent
  unfold line
  rw [shown] at sent ⊢
  by_cases empty : r.queryString = ""
  · rw [if_pos empty, located] at sent
    rw [if_pos empty]
    cases sent
    simp [bind, Except.bind, pure, Except.pure]
  · rw [if_neg empty] at sent
    rw [if_neg empty]
    cases sent
    simp [bind, Except.bind, pure, Except.pure, String.append_assoc]

theorem prepare_ok {p : Prepared} : r.prepare = .ok p ↔
    ∃ url body headers, r.target = .ok url ∧ r.encodedBody = .ok body ∧ r.profiled = .ok headers ∧
      p = ⟨r.method, url, headers, body⟩ := by
  simp only [prepare, bind_ok, pure_ok, @eq_comm _ p]
  constructor
  · rintro ⟨url, sent, body, encoded, headers, profiled, same⟩
    exact ⟨url, body, headers, sent, encoded, profiled, same⟩
  · rintro ⟨url, body, headers, sent, encoded, profiled, same⟩
    exact ⟨url, sent, body, encoded, headers, profiled, same⟩

theorem encodedBody_of_filled (filled : r.body ≠ .null) :
    r.encodedBody = do return some (← encodeBody r.body) := by
  unfold encodedBody
  split
  · next empty => exact absurd empty filled
  · rfl

theorem profiled_of_display {name : String} (shown : r.schema.display = .ok name) :
    ∃ headers, r.profiled = .ok headers := by
  unfold profiled
  split
  · rw [shown]
    exact ⟨_, rfl⟩
  · exact ⟨_, rfl⟩

/-- A request with a URL is sent to that URL and its query, as its line shows; URLs without a
question mark and queries are told apart by where requests are sent. -/
theorem prepare_url_carries_query (located : r.url = .text url) :
    ∃ full, Carries url r.query.entries full ∧
      r.line = .ok (r.method.token ++ " " ++ full) ∧
      ((∃ name, r.schema.display = .ok name) → (∃ body, r.encodedBody = .ok body) →
        ∃ p, r.prepare = .ok p ∧ p.url = .text full) ∧
      ('?' ∉ url.toList → ∀ (r' : Request) (url' : String) (p p' : Prepared),
        r'.url = .text url' → '?' ∉ url'.toList → r.prepare = .ok p → r'.prepare = .ok p' →
        p.url = p'.url → r.url = r'.url ∧ r.query = r'.query) := by
  obtain ⟨full, sent, carries⟩ := target_of_text located
  have url_of_prepared {p : Prepared} (prepared : r.prepare = .ok p) : p.url = .text full := by
    obtain ⟨_, _, _, sent', _, _, rfl⟩ := prepare_ok.mp prepared
    exact (Except.ok.inj (sent.symm.trans sent')).symm
  refine ⟨full, carries, line_of_target located sent, ?_, ?_⟩
  · rintro ⟨name, shown⟩ ⟨body, encoded⟩
    obtain ⟨headers, profiled⟩ := profiled_of_display shown
    exact ⟨_, prepare_ok.mpr ⟨_, body, headers, sent, encoded, profiled, rfl⟩, rfl⟩
  · intro bare r' url' p p' located' bare' prepared prepared' same
    obtain ⟨full', sent', carries'⟩ := target_of_text located'
    obtain ⟨_, _, _, sent'', _, _, rfl⟩ := prepare_ok.mp prepared'
    obtain rfl := Except.ok.inj (sent'.symm.trans sent'')
    obtain rfl : full = full' := Value.text.inj ((url_of_prepared prepared).symm.trans same)
    obtain ⟨rfl, entries⟩ := carries.unique carries' bare bare'
    exact ⟨located.trans located'.symm, congrArg Query.mk entries⟩

theorem prepare_url_carries_query_reserved :
    let r : Request := { url := .text "http://h/t", query := ⟨[("a&b", "=+%# é😀"), ("", "")]⟩ }
    let r' : Request := { r with method := .delete, schema := .text "s" }
    let full := "http://h/t?a%26b=%3D%2B%25%23+%C3%A9%F0%9F%98%80&="
    r.line = .ok ("GET " ++ full) ∧ (∃ p, r.prepare = .ok p ∧ p.url = .text full) ∧
      Carries "http://h/t" r.query.entries full ∧ r.query = r'.query := by
  intro r r' full
  have query_text : r.target = .ok (.text full) := rfl
  have located : r.url = .text "http://h/t" := rfl
  obtain ⟨full', carries, line, prepared, apart⟩ := prepare_url_carries_query located
  obtain ⟨p, done, sent⟩ := prepared ⟨_, rfl⟩ ⟨_, rfl⟩
  obtain ⟨_, _, _, sent', _, _, rfl⟩ := prepare_ok.mp done
  obtain rfl := Except.ok.inj (query_text.symm.trans sent')
  obtain rfl : full = full' := Value.text.inj sent
  obtain ⟨_, same⟩ := apart (by decide) r' "http://h/t" _ _ rfl (by decide) done rfl rfl
  exact ⟨line, ⟨_, done, rfl⟩, carries, same⟩

end Request

end RestQuery
