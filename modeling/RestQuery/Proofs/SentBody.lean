import RestQuery.Proofs.PreparedUrl
import RestQuery.Proofs.StepParts

/-!
# Which body is sent

The verb that comes last chooses the method, and the rows that were given last are the body. No verb
takes rows back: a read or a deletion behind a step that writes still sends what that step wrote.
-/

namespace RestQuery

namespace Step

variable {r r' : Request} {s : Step}

theorem rows_ne_null (done : s.apply r = .ok r') : s.rows? ≠ some .null := by
  intro given
  cases s with
  | insert data onConflict returning count =>
    simp only [apply, Request.insert, bind_ok] at done
    obtain ⟨_, _, _, _, _, _, posted⟩ := done
    exact (post_ok posted).1 (Option.some.inj given)
  | upsert data onConflict returning count =>
    simp only [apply, Request.upsert, bind_ok] at done
    obtain ⟨_, _, _, _, _, _, posted⟩ := done
    exact (post_ok posted).1 (Option.some.inj given)
  | update data returning count =>
    simp only [apply, Request.update, bind_ok] at done
    obtain ⟨_, _, _, _, _, paid, _⟩ := done
    exact (payload_ok paid).2 (Option.some.inj given)
  | _ => cases given

theorem method_advanceAll (r : Request) (steps : List Step) :
    (advanceAll r steps).method =
      ((succeeded r steps).filterMap method?).getLast?.getD r.method :=
  last_advanceAll (·.method) method? fun _ _ _ _ done => (parts_of_apply done).method

theorem body_advanceAll (r : Request) (steps : List Step) :
    (advanceAll r steps).body = ((succeeded r steps).filterMap rows?).getLast?.getD r.body :=
  last_advanceAll (·.body) rows? fun _ _ _ _ done => (parts_of_apply done).body

/-- What is sent after a run has the method of its last verb and the rows that were written last,
whatever that method is: it has no body exactly if no step wrote any. -/
theorem body_of_run {client : Client} {relation : Value} {r : Request}
    (started : client.request relation = .ok r) (steps : List Step) {p : Prepared}
    (prepared : (advanceAll r steps).prepare = .ok p) :
    p.method = ((succeeded r steps).filterMap method?).getLast?.getD .get ∧
    (p.body = none ↔ ∀ s ∈ succeeded r steps, s.rows? = none) ∧
    ∀ rows, ((succeeded r steps).filterMap rows?).getLast? = some rows →
      ∃ text, encodeBody rows = .ok text ∧ p.body = some text := by
  obtain ⟨name, _, _, rfl⟩ := Client.request_ok started
  obtain ⟨_, sent, _, _, encoded, _, rfl⟩ := Request.prepare_ok.mp prepared
  have method := method_advanceAll (client.seed name) steps
  have body := body_advanceAll (client.seed name) steps
  rw [Client.seed_method] at method
  rw [Client.seed_body] at body
  refine ⟨method, ?_⟩
  cases last : ((succeeded (client.seed name) steps).filterMap rows?).getLast? with
  | none =>
    rw [last, Option.getD_none] at body
    have unsent : (advanceAll (client.seed name) steps).encodedBody = .ok none := by
      rw [Request.encodedBody, body]
    have empty : sent = none := Except.ok.inj (encoded.symm.trans unsent)
    rw [List.getLast?_eq_none_iff, List.filterMap_eq_nil_iff] at last
    exact ⟨iff_of_true empty last, nofun⟩
  | some rows =>
    rw [last, Option.getD_some] at body
    obtain ⟨s, ran, wrote⟩ := List.mem_filterMap.mp (List.mem_of_getLast? last)
    obtain ⟨_, _, done⟩ := apply_of_mem_succeeded ran
    have present : rows ≠ .null := fun absent => rows_ne_null done (absent ▸ wrote)
    rw [Request.encodedBody_of_filled (body ▸ present), body] at encoded
    obtain ⟨text, written, same⟩ := bind_ok.mp encoded
    obtain rfl := pure_ok.mp same
    refine ⟨iff_of_false nofun fun none_wrote => ?_, ?_⟩
    · rw [none_wrote s ran] at wrote
      cases wrote
    · rintro _ ⟨⟩
      exact ⟨text, written, rfl⟩

theorem body_of_run_rewritten :
    let client : Client := ⟨"http://h", "k", "public", [], "/rest/v1"⟩
    let steps : List Step :=
      [.insert (.map [(.text "a", .int 1)]) .null (.text "minimal") (.text "exact"),
        .update (.list [.map []]) (.text "minimal") (.text "exact"),
        .upsert (.int 5) .null (.text "minimal") (.text "exact"), .limit (.int 1) .null]
    ∃ p, (advanceAll (client.seed "t") steps).prepare = .ok p ∧ p.method = .patch ∧
      p.body = some "[\x7b\x7d]" := by
  intro client steps
  have started : client.request (.text "t") = .ok (client.seed "t") := rfl
  have sendable : (advanceAll (client.seed "t") steps).prepare.toOption.isSome := by decide +kernel
  obtain ⟨p, prepared⟩ := Option.isSome_iff_exists.mp sendable
  obtain ⟨method, _, body⟩ := body_of_run started steps (toOption_ok.mp prepared)
  have verbs : (succeeded (client.seed "t") steps).filterMap method? = [.post, .patch] := by
    decide +kernel
  have rows : ((succeeded (client.seed "t") steps).filterMap rows?).getLast? =
      some (.list [.map []]) := rfl
  obtain ⟨text, written, sent⟩ := body _ rows
  rw [verbs] at method
  refine ⟨p, toOption_ok.mp prepared, method, ?_⟩
  have printed : encodeBody (.list [.map []]) = .ok "[\x7b\x7d]" := rfl
  rw [sent, ← Except.ok.inj (printed.symm.trans written)]

/-- Rows that were inserted are sent with the deletion that comes after them. -/
theorem delete_sends_inserted_rows :
    let client : Client := ⟨"http://h", "k", "public", [], "/rest/v1"⟩
    let steps : List Step :=
      [.insert (.map [(.text "a", .int 1)]) .null (.text "representation") (.text "exact"),
        .delete (.text "representation") (.text "exact")]
    client.request (.text "t") = .ok (client.seed "t") ∧
      ∃ p, (advanceAll (client.seed "t") steps).prepare = .ok p ∧ p.method = .delete ∧
        p.body = some "\x7b\"a\":1\x7d" := by
  intro client steps
  have sent : (advanceAll (client.seed "t") steps).prepare.toOption.map
      (fun p => (p.method, p.body)) = some (.delete, some "\x7b\"a\":1\x7d") := by
    decide +kernel
  obtain ⟨p, prepared, same⟩ := Option.map_eq_some_iff.mp sent
  exact ⟨rfl, p, toOption_ok.mp prepared, congrArg Prod.fst same, congrArg Prod.snd same⟩

end Step

end RestQuery
