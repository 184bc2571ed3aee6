import RestQuery.Proofs.PreferenceTokens

/-!
# What a run leaves alone

Whatever steps are tried, a request stays about its relation, keeps every header that it started
with and never loses a preference. Each of its other parts changes only in the steps for that part.
-/

namespace RestQuery

open Text

section
variable {front segment : String}

theorem reverse_segment (front segment : String) :
    (front ++ "/" ++ segment).toList.reverse =
      segment.toList.reverse ++ '/' :: front.toList.reverse := by
  simp

theorem afterLast_segment (plain : '/' ∉ segment.toList) :
    afterLast '/' (front ++ "/" ++ segment) = segment := by
  have other : ∀ c ∈ segment.toList.reverse, decide (c ≠ '/') = true := by
    intro c member
    refine decide_eq_true ?_
    rintro rfl
    exact plain (List.mem_reverse.mp member)
  rw [afterLast, reverse_segment, List.takeWhile_append_of_pos other,
    List.takeWhile_cons_of_neg (by simp), List.append_nil, List.reverse_reverse,
    String.ofList_toList]

theorem dropTrailing_segment (filled : segment ≠ "") (plain : '/' ∉ segment.toList) :
    dropTrailing '/' (front ++ "/" ++ segment) = front ++ "/" ++ segment := by
  have nonempty : segment.toList.reverse ≠ [] := by simpa using filled
  obtain ⟨last, rest, backwards⟩ := List.exists_cons_of_ne_nil nonempty
  have other : last ≠ '/' := by
    rintro rfl
    exact plain (List.mem_reverse.mp (backwards ▸ List.mem_cons_self))
  have kept : (front ++ "/" ++ segment).toList.reverse.dropWhile (· = '/') =
      (front ++ "/" ++ segment).toList.reverse := by
    rw [reverse_segment, backwards, List.cons_append]
    exact List.dropWhile_cons_of_neg (by simpa using other)
  rw [dropTrailing, kept, List.reverse_reverse, String.ofList_toList]

theorem Request.relationOf_segment (filled : segment ≠ "") (plain : '/' ∉ segment.toList) :
    relationOf (.text (front ++ "/" ++ segment)) = .ok segment := by
  have located : relationOf (.text (front ++ "/" ++ segment)) =
      .ok (afterLast '/' (dropTrailing '/' (front ++ "/" ++ segment))) := rfl
  rw [located, dropTrailing_segment filled plain, afterLast_segment plain]

end

namespace Step

variable {r r' : Request} {s : Step}

/-- The parts that a step keeps, because they are not its own. -/
structure Keeps (s : Step) (r r' : Request) : Prop where
  url : r'.url = r.url
  method : s.method? = none → r'.method = r.method
  body : s.rows? = none → r'.body = r.body
  schema : s.schema? = none → r'.schema = r.schema
  headers : ∀ name, name ≠ Request.acceptName → name ≠ Headers.preferName →
    r'.headers.find? name = r.headers.find? name
  names : r.headers.names <+: r'.headers.names
  preferences : r.headers.preferences <+: r'.headers.preferences

theorem Keeps.refl (s : Step) (r : Request) : s.Keeps r r :=
  ⟨rfl, fun _ => rfl, fun _ => rfl, fun _ => rfl, fun _ _ _ => rfl, List.prefix_rfl,
    List.prefix_rfl⟩

theorem keeps_of_apply (done : s.apply r = .ok r') : s.Keeps r r' := by
  have parts := parts_of_apply done
  obtain ⟨asked, _, appended⟩ := apply_preferences done
  refine ⟨parts.url, ?_, ?_, ?_, ?_, parts.headers.names, ?_⟩
  · intro no_verb
    rw [parts.method, no_verb, Option.getD_none]
  · intro no_rows
    rw [parts.body, no_rows, Option.getD_none]
  · intro no_schema
    rw [parts.schema, no_schema, Option.getD_none]
  · intro name no_accept no_prefer
    exact parts.headers.find?_other no_accept no_prefer
  · rw [appended]
    exact Headers.prefix_collect _ _

theorem keeps_advance (s : Step) (r : Request) : s.Keeps r (s.advance r) := by
  cases outcome : s.apply r with
  | ok next =>
    rw [advance_of_ok outcome]
    exact keeps_of_apply outcome
  | error fault =>
    rw [advance_of_error outcome]
    exact Keeps.refl s r

/-! ### Runs -/

theorem advanceAll_concat (r : Request) (steps : List Step) (s : Step) :
    advanceAll r (steps ++ [s]) = s.advance (advanceAll r steps) := List.foldl_concat ..

theorem advanceAll_keeps (r : Request) (steps : List Step) :
    (advanceAll r steps).url = r.url ∧
    (∀ name, name ≠ Request.acceptName → name ≠ Headers.preferName →
      (advanceAll r steps).headers.find? name = r.headers.find? name) ∧
    r.headers.names <+: (advanceAll r steps).headers.names := by
  induction steps generalizing r with
  | nil => exact ⟨rfl, fun _ _ _ => rfl, List.prefix_rfl⟩
  | cons s steps ih =>
    have first := keeps_advance s r
    obtain ⟨url, headers, names⟩ := ih (s.advance r)
    rw [advanceAll_cons]
    refine ⟨url.trans first.url, ?_, first.names.trans names⟩
    intro name no_accept no_prefer
    exact (headers name no_accept no_prefer).trans (first.headers name no_accept no_prefer)

/-- A run keeps the URL, the relation and the headers that a request starts with, media types and
preferences aside; and each of its steps keeps all that is not its own, and every preference. -/
theorem frame_of_run {client : Client} {relation : String} {r : Request}
    (started : client.request (.text relation) = .ok r) (plain : '/' ∉ relation.toList)
    (steps : List Step) :
    let final := advanceAll r steps
    final.url = .text (client.relationUrl relation) ∧ final.relation = .ok relation ∧
    (∀ name, name ≠ Request.acceptName → name ≠ Headers.preferName →
      final.headers.find? name = client.seedHeaders.find? name) ∧
    client.seedHeaders.names <+: final.headers.names ∧
    ∀ before s after, steps = before ++ s :: after →
      s.Keeps (advanceAll r before) (advanceAll r (before ++ [s])) := by
  intro final
  obtain ⟨name, same, filled, rfl⟩ := Client.request_ok started
  cases same
  have kept := advanceAll_keeps (client.seed relation) steps
  rw [Client.seed_url, Client.seed_headers] at kept
  obtain ⟨url, headers, names⟩ := kept
  refine ⟨url, ?_, headers, names, ?_⟩
  · have located : final.relation = Request.relationOf (.text (client.relationUrl relation)) :=
      congrArg Request.relationOf url
    rw [located]
    exact Request.relationOf_segment filled plain
  · intro before s after _
    rw [advanceAll_concat]
    exact keeps_advance s (advanceAll (client.seed relation) before)

theorem frame_of_run_seeded_preferences :
    let client : Client := ⟨"http://h", "k", "public", [("Prefer", "a,,b")], "/rest/v1"⟩
    let before : List Step :=
      [.insert (.map [(.text "n", .int 1)]) .null (.text "minimal") (.text "exact"), .single,
        .update (.int 5) (.text "minimal") (.text "exact")]
    let middle := advanceAll (client.seed "t") before
    let final := advanceAll (client.seed "t") (before ++ [.rollback])
    final.url = .text "http://h/rest/v1/t" ∧ final.relation = .ok "t" ∧
      final.headers.find? "apikey" = some "k" ∧ final.method = middle.method ∧
      ["a", "b", "return=minimal", "count=exact"] <+: final.headers.preferences := by
  intro client before middle final
  have started : client.request (.text "t") = .ok (client.seed "t") := rfl
  obtain ⟨url, located, headers, _, each⟩ :=
    frame_of_run started (by decide) (before ++ [.rollback])
  have last : Step.rollback.Keeps middle final := each before .rollback [] rfl
  have seeded : client.seedHeaders.find? "apikey" = some "k" := by decide +kernel
  have asked : middle.headers.preferences = ["a", "b", "return=minimal", "count=exact"] := by
    decide +kernel
  refine ⟨url, located, ?_, last.method rfl, ?_⟩
  · rw [headers "apikey" (by decide) (by decide), seeded]
  · rw [← asked]
    exact last.preferences

end Step

end RestQuery
