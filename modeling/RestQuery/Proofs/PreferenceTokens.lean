import Mathlib.Data.List.Induction
import Mathlib.Data.List.Nodup
import RestQuery.Proofs.LowerCase
import RestQuery.Proofs.StepParts

/-!
# The preferences of a request

Preferences are tokens: a step appends the tokens that it asks for and that are not there yet. So
after a run each token asked for stands once, at its first place, and steps that choose differently
leave both of their choices.
-/

namespace RestQuery

open Text

theorem eraseDups_concat (ts : List String) (t : String) :
    (ts ++ [t]).eraseDups = if t ∈ ts then ts.eraseDups else ts.eraseDups ++ [t] := by
  rw [List.eraseDups_append]
  by_cases there : t ∈ ts
  · rw [if_pos there, List.removeAll, List.filter_cons_of_neg (by simpa using there)]
    simp
  · rw [if_neg there, List.removeAll, List.filter_cons_of_pos (by simpa using there)]
    simp [List.eraseDups_cons]

theorem nodup_eraseDups (ts : List String) : ts.eraseDups.Nodup := by
  induction ts using List.reverseRecOn with
  | nil => exact List.nodup_nil
  | append_singleton ts t ih =>
    rw [eraseDups_concat]
    by_cases there : t ∈ ts
    · rw [if_pos there]
      exact ih
    · rw [if_neg there, ← List.concat_eq_append]
      exact List.Nodup.concat (fun member => there (List.mem_eraseDups.mp member)) ih

theorem filter_eraseDups (p : String → Bool) (ts : List String) :
    ts.eraseDups.filter p = (ts.filter p).eraseDups := by
  induction ts using List.reverseRecOn with
  | nil => rfl
  | append_singleton ts t ih =>
    rw [eraseDups_concat, List.filter_append]
    by_cases passes : p t = true
    · rw [List.filter_cons_of_pos passes, List.filter_nil, eraseDups_concat]
      by_cases there : t ∈ ts
      · rw [if_pos there, if_pos (List.mem_filter.mpr ⟨there, passes⟩), ih]
      · have absent : t ∉ ts.filter p := fun member => there (List.mem_filter.mp member).1
        rw [if_neg there, if_neg absent, List.filter_append, ih, List.filter_cons_of_pos passes,
          List.filter_nil]
    · rw [List.filter_cons_of_neg passes, List.filter_nil, List.append_nil]
      split
      · exact ih
      · rw [List.filter_append, List.filter_cons_of_neg passes, List.filter_nil, List.append_nil, ih]

theorem length_le_one_iff {α : Type} {xs : List α} (distinct : xs.Nodup) :
    xs.length ≤ 1 ↔ ∀ x ∈ xs, ∀ y ∈ xs, x = y := by
  match xs with
  | [] => simp
  | [x] => simp
  | x :: y :: rest =>
    have apart : x ≠ y := fun same => (List.nodup_cons.mp distinct).1 (same ▸ List.mem_cons_self)
    refine iff_of_false (by simp) fun alike => apart ?_
    exact alike x List.mem_cons_self y (List.mem_cons_of_mem x List.mem_cons_self)

theorem Count.coerce_token (operation : String) (c : Count) :
    Count.coerce operation (.text c.token) = .ok c := by
  cases c with
  | exact | planned | estimated => rfl

theorem Returning.coerce_token (operation : String) (back : Returning) :
    Returning.coerce operation (.text back.token) = .ok back := by
  cases back with
  | representation | minimal | headersOnly => rfl

theorem Count.preference_injective : Function.Injective Count.preference := by
  intro c c' same
  have tokens : c.token = c'.token := (String.append_right_inj "count=").mp same
  have read := Count.coerce_token "select" c
  rw [tokens, Count.coerce_token] at read
  exact (Except.ok.inj read).symm

theorem Returning.preference_injective : Function.Injective Returning.preference := by
  intro back back' same
  have tokens : back.token = back'.token := (String.append_right_inj "return=").mp same
  have read := Returning.coerce_token "insert" back
  rw [tokens, Returning.coerce_token] at read
  exact (Except.ok.inj read).symm

/-! ### Tokens -/

namespace Headers

/-- Tokens with those of another list behind them that are not there yet. -/
def collect (ts more : List String) : List String :=
  more.foldl (fun ts t => if t ∈ ts then ts else ts ++ [t]) ts

def IsToken (t : String) : Prop := t ≠ "" ∧ ',' ∉ t.toList

instance (t : String) : Decidable (IsToken t) := inferInstanceAs (Decidable (_ ∧ _))

theorem prefix_collect (ts more : List String) : ts <+: collect ts more := by
  unfold collect
  induction more generalizing ts with
  | nil => exact List.prefix_rfl
  | cons t more ih =>
    rw [List.foldl_cons]
    refine List.IsPrefix.trans ?_ (ih _)
    split
    · exact List.prefix_rfl
    · exact List.prefix_append _ _

theorem mem_collect {ts more : List String} {t : String} (member : t ∈ collect ts more) :
    t ∈ ts ∨ t ∈ more := by
  unfold collect at member
  induction more generalizing ts with
  | nil => exact Or.inl member
  | cons u more ih =>
    rw [List.foldl_cons] at member
    rcases ih member with early | late
    · split at early
      · exact Or.inl early
      · rcases List.mem_append.mp early with old | new
        · exact Or.inl old
        · exact Or.inr (List.mem_cons.mpr (Or.inl (List.mem_singleton.mp new)))
    · exact Or.inr (List.mem_cons_of_mem u late)

theorem collect_eraseDups (ts more : List String) :
    collect ts.eraseDups more = (ts ++ more).eraseDups := by
  unfold collect
  induction more generalizing ts with
  | nil => rw [List.append_nil, List.foldl_nil]
  | cons t more ih =>
    have first : (if t ∈ ts.eraseDups then ts.eraseDups else ts.eraseDups ++ [t]) =
        (ts ++ [t]).eraseDups := by
      rw [eraseDups_concat]
      by_cases there : t ∈ ts
      · rw [if_pos there, if_pos (List.mem_eraseDups.mpr there)]
      · rw [if_neg there, if_neg (mt List.mem_eraseDups.mp there)]
    rw [List.foldl_cons, first, ih, List.append_assoc, List.singleton_append]

theorem isToken_of_mem_tokens {s t : String} (member : t ∈ tokens s) : IsToken t := by
  obtain ⟨piece, filled⟩ := List.mem_filter.mp member
  obtain ⟨cs, split, rfl⟩ := List.mem_map.mp piece
  refine ⟨by simpa using filled, ?_⟩
  rw [String.toList_ofList]
  exact notMem_of_mem_splitChars split

theorem tokens_commaJoin {ts : List String} (proper : ∀ t ∈ ts, IsToken t) :
    tokens (commaJoin ts) = ts := by
  by_cases none_yet : ts = []
  · subst none_yet
    rfl
  have undo : (ts.map String.toList).map String.ofList = ts := by simp
  have pieces : splitOn ',' (commaJoin ts) = ts := by
    have whole : ∀ p ∈ ts.map String.toList, ',' ∉ p := by
      intro p member
      obtain ⟨t, listed, rfl⟩ := List.mem_map.mp member
      exact (proper t listed).2
    have read := splitChars_joinWith (by simpa using none_yet) whole
    rw [undo] at read
    unfold splitOn commaJoin
    exact (congrArg (List.map String.ofList) read).trans undo
  unfold tokens
  rw [pieces, List.filter_eq_self]
  intro t member
  exact decide_eq_true (proper t member).1

theorem tokens_mergeTokens (current value : String) :
    tokens (mergeTokens current value) = collect (tokens current) (tokens value) := by
  refine tokens_commaJoin fun t member => ?_
  rcases mem_collect member with old | new
  · exact isToken_of_mem_tokens old
  · exact isToken_of_mem_tokens new

/-- The preferences among the headers, in their order. -/
def preferences (h : Headers) : List String := tokens ((h.get? preferName).getD "")

theorem preferences_eq (h : Headers) :
    h.preferences = tokens ((h.find? preferName).getD "") := by
  have settled : lower preferName = preferName := by decide
  rw [preferences, get?, settled]

end Headers

namespace Step

open Headers (collect IsToken tokens)

variable {r r' : Request} {s : Step}

theorem Retouches.preferences {h h' : Headers} (touched : s.Retouches h h') :
    ∃ asked, s.preferences = .ok asked ∧
      h'.preferences = collect h.preferences (tokens (commaJoin asked)) := by
  have settled : lower Headers.preferName = Headers.preferName := by decide
  have apart : Headers.preferName ≠ lower Request.acceptName := by decide
  simp only [Headers.preferences_eq]
  cases touched with
  | nothing quiet => exact ⟨[], quiet, rfl⟩
  | accepted quiet text =>
    refine ⟨[], quiet, ?_⟩
    rw [Headers.find?_replace, if_neg apart]
    rfl
  | @preferred asked text wanted joined =>
    refine ⟨asked, wanted, ?_⟩
    rw [Headers.find?_set, settled, if_pos rfl, if_pos rfl, Option.getD_some, joined,
      Headers.tokens_mergeTokens]

/-- A step that succeeds appends the preferences that it asks for. -/
theorem apply_preferences (done : s.apply r = .ok r') :
    ∃ asked, s.preferences = .ok asked ∧
      r'.headers.preferences = collect r.headers.preferences (tokens (commaJoin asked)) :=
  (parts_of_apply done).headers.preferences

/-! ### Choices -/

def count? : Step → Option Count
  | select _ count _ => (Count.coerce "select" count).toOption
  | insert _ _ _ count => (Count.coerce "insert" count).toOption
  | upsert _ _ _ count => (Count.coerce "upsert" count).toOption
  | update _ _ count => (Count.coerce "update" count).toOption
  | delete _ count => (Count.coerce "delete" count).toOption
  | _ => none

def returning? : Step → Option Returning
  | insert _ _ returning _ => (Returning.coerce "insert" returning).toOption
  | upsert _ _ returning _ => (Returning.coerce "upsert" returning).toOption
  | update _ returning _ => (Returning.coerce "update" returning).toOption
  | delete returning _ => (Returning.coerce "delete" returning).toOption
  | returnRows _ => some .representation
  | _ => none

/-- The text of the columns whose conflicts a step resolves. -/
def conflictTarget? : Step → Option String
  | insert _ onConflict _ _ | upsert _ onConflict _ _ =>
    if onConflict.truth then onConflict.display.toOption else none
  | _ => none

def begins (head t : String) : Bool := head.toList.isPrefixOf t.toList

/-- A token that is no choice of a step. -/
def Neutral (t : String) : Prop := begins "count=" t = false ∧ begins "return=" t = false

structure Asks (s : Step) (asked : List String) : Prop where
  counts : asked.filter (begins "count=") = s.count?.toList.map Count.preference
  returnings : asked.filter (begins "return=") = s.returning?.toList.map Returning.preference
  proper : (∀ target, s.conflictTarget? = some target → ',' ∉ target.toList) →
    ∀ t ∈ asked, IsToken t

theorem begins_count (c : Count) : begins "count=" c.preference = true ∧
    begins "return=" c.preference = false ∧ IsToken c.preference := by
  cases c with
  | exact | planned | estimated => exact ⟨by decide, by decide, by decide⟩

theorem begins_returning (back : Returning) : begins "return=" back.preference = true ∧
    begins "count=" back.preference = false ∧ IsToken back.preference := by
  cases back with
  | representation | minimal | headersOnly => exact ⟨by decide, by decide, by decide⟩

theorem neutral_merging : Neutral Request.mergeDuplicates ∧ IsToken Request.mergeDuplicates :=
  ⟨⟨by decide, by decide⟩, by decide⟩

theorem neutral_target {target : Option String} {t : String}
    (member : t ∈ Request.conflictPreference target) : Neutral t := by
  obtain ⟨columns, _, rfl⟩ := Option.map_eq_some_iff.mp (Option.mem_toList.mp member)
  simp [Neutral, begins, List.isPrefixOf]

theorem isToken_target {target : Option String} {t : String}
    (plain : ∀ columns, target = some columns → ',' ∉ columns.toList)
    (member : t ∈ Request.conflictPreference target) : IsToken t := by
  obtain ⟨columns, given, rfl⟩ := Option.map_eq_some_iff.mp (Option.mem_toList.mp member)
  have clean := plain columns given
  simp [IsToken, clean]

theorem filter_neutral {ts : List String} (neutral : ∀ t ∈ ts, Neutral t) :
    ts.filter (begins "count=") = [] ∧ ts.filter (begins "return=") = [] := by
  simp only [List.filter_eq_nil_iff, Bool.not_eq_true]
  exact ⟨fun t member => (neutral t member).1, fun t member => (neutral t member).2⟩

/-- A step that chooses both ways asks for the two among other tokens. -/
theorem asks_of_choices {c : Count} {back : Returning} (before after : List String)
    (counted : s.count? = some c) (represented : s.returning? = some back)
    (neutral : ∀ t ∈ before ++ after, Neutral t)
    (proper : (∀ target, s.conflictTarget? = some target → ',' ∉ target.toList) →
      ∀ t ∈ before ++ after, IsToken t) :
    s.Asks (before ++ [back.preference, c.preference] ++ after) := by
  obtain ⟨here, there⟩ := List.forall_mem_append.mp neutral
  obtain ⟨no_count, no_return⟩ := filter_neutral here
  obtain ⟨no_count', no_return'⟩ := filter_neutral there
  obtain ⟨is_count, not_return, count_token⟩ := begins_count c
  obtain ⟨is_return, not_count, return_token⟩ := begins_returning back
  refine ⟨?_, ?_, ?_⟩
  · simp [counted, no_count, no_count', is_count, not_count]
  · simp [represented, no_return, no_return', is_return, not_return]
  · intro plain t member
    obtain ⟨first, last⟩ := List.forall_mem_append.mp (proper plain)
    simp only [List.mem_append, List.mem_cons, List.not_mem_nil, or_false] at member
    rcases member with (early | rfl | rfl) | late
    · exact first t early
    · exact return_token
    · exact count_token
    · exact last t late

theorem conflictTarget_ok {onConflict : Value} {target : Option String}
    (chosen : Request.conflictTarget onConflict = .ok target) :
    (if onConflict.truth then onConflict.display.toOption else none) = target := by
  unfold Request.conflictTarget at chosen
  by_cases given : onConflict.truth = true
  · rw [if_pos given] at chosen ⊢
    obtain ⟨columns, shown, same⟩ := bind_ok.mp chosen
    rw [← pure_ok.mp same, toOption_ok.mpr shown]
  · rw [if_neg given] at chosen ⊢
    exact Except.ok.inj chosen

theorem eq_merging {target : Option String} {t : String}
    (member : t ∈ if target.isSome then [Request.mergeDuplicates] else []) :
    t = Request.mergeDuplicates := by
  split at member
  · exact List.mem_singleton.mp member
  · cases member

theorem asks_of_preferences {asked : List String} (wanted : s.preferences = .ok asked) :
    s.Asks asked := by
  cases s with
  | select columns count returning =>
    obtain ⟨c, counted, same⟩ := bind_ok.mp wanted
    obtain rfl := pure_ok.mp same
    obtain ⟨is_count, not_return, token⟩ := begins_count c
    refine ⟨?_, ?_, fun _ => List.forall_mem_singleton.mpr token⟩
    · simp [count?, toOption_ok.mpr counted, is_count]
    · simp [returning?, not_return]
  | insert data onConflict returning count =>
    simp only [preferences, bind_ok, pure_ok] at wanted
    obtain ⟨back, represented, c, counted, target, chosen, rfl⟩ := wanted
    rw [List.append_assoc]
    refine asks_of_choices [] _ (toOption_ok.mpr counted) (toOption_ok.mpr represented) ?_ ?_
    · rw [List.nil_append]
      refine List.forall_mem_append.mpr ⟨fun t => neutral_target, fun t member => ?_⟩
      rw [eq_merging member]
      exact neutral_merging.1
    · intro plain
      rw [List.nil_append]
      refine List.forall_mem_append.mpr ⟨fun t => isToken_target ?_, fun t member => ?_⟩
      · rintro columns rfl
        exact plain columns (conflictTarget_ok chosen)
      · rw [eq_merging member]
        exact neutral_merging.2
  | upsert data onConflict returning count =>
    simp only [preferences, bind_ok, pure_ok] at wanted
    obtain ⟨back, represented, c, counted, target, chosen, rfl⟩ := wanted
    refine asks_of_choices [Request.mergeDuplicates] _ (toOption_ok.mpr counted)
      (toOption_ok.mpr represented) ?_ ?_
    · exact List.forall_mem_cons.mpr ⟨neutral_merging.1, fun t => neutral_target⟩
    · refine fun plain => List.forall_mem_cons.mpr ⟨neutral_merging.2, fun t => isToken_target ?_⟩
      rintro columns rfl
      exact plain columns (conflictTarget_ok chosen)
  | update data returning count =>
    simp only [preferences, bind_ok, pure_ok] at wanted
    obtain ⟨back, represented, c, counted, rfl⟩ := wanted
    exact asks_of_choices [] [] (toOption_ok.mpr counted) (toOption_ok.mpr represented)
      (by simp) (by simp)
  | delete returning count =>
    simp only [preferences, bind_ok, pure_ok] at wanted
    obtain ⟨back, represented, c, counted, rfl⟩ := wanted
    exact asks_of_choices [] [] (toOption_ok.mpr counted) (toOption_ok.mpr represented)
      (by simp) (by simp)
  | rollback =>
    cases wanted
    exact ⟨by decide, by decide, fun _ => by decide⟩
  | returnRows columns =>
    cases wanted
    obtain ⟨is_return, not_count, token⟩ := begins_returning .representation
    refine ⟨?_, ?_, fun _ => List.forall_mem_singleton.mpr token⟩
    · simp [count?, not_count]
    · simp [returning?, is_return]
  | _ =>
    cases wanted
    exact ⟨rfl, rfl, fun _ => List.forall_mem_nil _⟩

end Step

/-! ### New requests -/

namespace Headers

theorem ofEntries_concat (es : List (String × String)) (e : String × String) :
    ofEntries (es ++ [e]) = (ofEntries es).replace e.1 e.2 := List.foldl_concat ..

theorem find?_ofEntries_eq_none {es : List (String × String)} {name : String} :
    (ofEntries es).find? name = none ↔ ∀ e ∈ es, lower e.1 ≠ name := by
  induction es using List.reverseRecOn with
  | nil => exact iff_of_true rfl (List.forall_mem_nil _)
  | append_singleton es e ih =>
    rw [ofEntries_concat, find?_replace, List.forall_mem_append, List.forall_mem_singleton, ← ih]
    by_cases alike : name = lower e.1
    · simp [alike]
    · simp [alike, Ne.symm alike]

end Headers

namespace Client

theorem names_uniqueHeaders {hs : List (String × String)} {e : String × String}
    (member : e ∈ uniqueHeaders hs) : e.1 ∈ hs.map (·.1) := by
  have collected : ∀ (hs es : List (String × String)),
      ∀ name ∈ (hs.foldl (fun es h => Headers.put h.1 h.2 es) es).map (·.1),
        name ∈ es.map (·.1) ∨ name ∈ hs.map (·.1) := by
    intro hs
    induction hs with
    | nil => exact fun es name member => Or.inl member
    | cons h hs ih =>
      intro es name member
      rw [List.foldl_cons] at member
      rw [List.map_cons, List.mem_cons]
      rcases ih _ name member with early | late
      · rw [Headers.names_put] at early
        split at early
        · exact Or.inl early
        · rcases List.mem_append.mp early with old | new
          · exact Or.inl old
          · exact Or.inr (Or.inl (List.mem_singleton.mp new))
      · exact Or.inr (Or.inr late)
  rcases collected hs [] e.1 (List.mem_map_of_mem member) with none_yet | given
  · cases none_yet
  · exact given

variable {client : Client}

/-- Without preferences among the extra headers a new request has none. -/
theorem preferences_seed (fresh : ∀ h ∈ client.authHeaders, lower h.1 ≠ Headers.preferName)
    (name : String) : (client.seed name).headers.preferences = [] := by
  have absent : client.seedHeaders.find? Headers.preferName = none := by
    refine Headers.find?_ofEntries_eq_none.mpr
      (List.forall_mem_append.mpr ⟨by decide +kernel, fun e member => ?_⟩)
    have named := names_uniqueHeaders member
    rw [List.map_append, List.mem_append] at named
    rcases named with own | extra
    · have own_names : ∀ name ∈ ["apikey", "authorization"], lower name ≠ Headers.preferName := by
        decide
      exact own_names e.1 own
    · simp only [List.map_map, List.mem_map, Function.comp_apply] at extra
      obtain ⟨h, given, same⟩ := extra
      -- The name is put in lower case twice: by the client and by the new request.
      rw [← same, lower_lower]
      exact fresh h given
  rw [Headers.preferences_eq, seed, absent]
  rfl

end Client

/-! ### Runs -/

namespace Step

def asked (s : Step) : List String := s.preferences.toOption.getD []

theorem asked_of_preferences {s : Step} {asked : List String}
    (wanted : s.preferences = .ok asked) : s.asked = asked := by
  rw [Step.asked, toOption_ok.mpr wanted, Option.getD_some]

theorem asked_of_mem_succeeded {r : Request} {s : Step} {steps : List Step}
    (member : s ∈ succeeded r steps) : s.Asks s.asked := by
  obtain ⟨b, b', done⟩ := apply_of_mem_succeeded member
  obtain ⟨asked, wanted, _⟩ := apply_preferences done
  rw [asked_of_preferences wanted]
  exact asks_of_preferences wanted

theorem flatMap_choices {α : Type} (choice : Step → Option α) (token : α → String)
    (steps : List Step) :
    (steps.flatMap fun s => (choice s).toList.map token) = (steps.filterMap choice).map token := by
  induction steps with
  | nil => rfl
  | cons s steps ih => cases chosen : choice s <;> simp [chosen, ih]

theorem preferences_advanceAll {r : Request} {steps : List Step}
    (none_yet : r.headers.preferences = [])
    (plain : ∀ s ∈ succeeded r steps,
      ∀ target, s.conflictTarget? = some target → ',' ∉ target.toList) :
    (advanceAll r steps).headers.preferences = ((succeeded r steps).flatMap asked).eraseDups := by
  have step : ∀ s ∈ succeeded r steps, ∀ b b', s.apply b = .ok b' →
      b'.headers.preferences = Headers.collect b.headers.preferences s.asked := by
    intro s member b b' done
    obtain ⟨asked, wanted, after⟩ := apply_preferences done
    have proper := (asks_of_preferences wanted).proper (plain s member)
    rw [after, asked_of_preferences wanted, Headers.tokens_commaJoin proper]
  have run := view_advanceAll (·.headers.preferences) (fun ts s => Headers.collect ts s.asked) step
  have flat : (succeeded r steps).foldl (fun ts s => Headers.collect ts s.asked) [] =
      Headers.collect [] ((succeeded r steps).flatMap asked) := List.foldl_flatMap.symm
  have distinct := Headers.collect_eraseDups [] ((succeeded r steps).flatMap asked)
  rw [run, none_yet, flat]
  exact distinct

/-- The tokens of one kind after a run: the choices of its steps, each at its first place. -/
theorem choices_advanceAll {α : Type} {r : Request} {steps : List Step} {kind : String → Bool}
    {choice : Step → Option α} {token : α → String} (none_yet : r.headers.preferences = [])
    (plain : ∀ s ∈ succeeded r steps,
      ∀ target, s.conflictTarget? = some target → ',' ∉ target.toList)
    (chosen : ∀ s ∈ succeeded r steps, s.asked.filter kind = (choice s).toList.map token) :
    (advanceAll r steps).headers.preferences.filter kind =
      (((succeeded r steps).filterMap choice).map token).eraseDups := by
  rw [preferences_advanceAll none_yet plain, filter_eraseDups, List.filter_flatMap,
    ← flatMap_choices]
  congr 1
  exact List.flatMap_congr chosen

theorem single_choice_iff {α : Type} {token : α → String} (inj : Function.Injective token)
    (choices : List α) :
    ((choices.map token).eraseDups).length ≤ 1 ↔ ∀ c ∈ choices, ∀ c' ∈ choices, c = c' := by
  rw [length_le_one_iff (nodup_eraseDups _)]
  simp only [List.mem_eraseDups, List.mem_map, forall_exists_index, and_imp,
    forall_apply_eq_imp_iff₂, inj.eq_iff]

/-- A run leaves no preference twice, and of each kind exactly what its steps chose: one token if all
of them agree, and otherwise one for each choice. -/
theorem preferences_of_run {client : Client} {relation : Value} {r : Request}
    (started : client.request relation = .ok r)
    (fresh : ∀ h ∈ client.authHeaders, lower h.1 ≠ Headers.preferName) (steps : List Step)
    (plain : ∀ s ∈ succeeded r steps,
      ∀ target, s.conflictTarget? = some target → ',' ∉ target.toList) :
    let tokens := (advanceAll r steps).headers.preferences
    let counts := (succeeded r steps).filterMap count?
    let returnings := (succeeded r steps).filterMap returning?
    tokens.Nodup ∧
    tokens.filter (begins "count=") = (counts.map Count.preference).eraseDups ∧
    tokens.filter (begins "return=") = (returnings.map Returning.preference).eraseDups ∧
    ((tokens.filter (begins "count=")).length ≤ 1 ↔ ∀ c ∈ counts, ∀ c' ∈ counts, c = c') ∧
    ((tokens.filter (begins "return=")).length ≤ 1 ↔
      ∀ back ∈ returnings, ∀ back' ∈ returnings, back = back') := by
  intro tokens counts returnings
  obtain ⟨name, _, _, rfl⟩ := Client.request_ok started
  have none_yet := Client.preferences_seed fresh name
  have count_tokens : tokens.filter (begins "count=") = (counts.map Count.preference).eraseDups :=
    choices_advanceAll none_yet plain fun s member => (asked_of_mem_succeeded member).counts
  have return_tokens :
      tokens.filter (begins "return=") = (returnings.map Returning.preference).eraseDups :=
    choices_advanceAll none_yet plain fun s member => (asked_of_mem_succeeded member).returnings
  refine ⟨?_, count_tokens, return_tokens, ?_, ?_⟩
  · have distinct := nodup_eraseDups ((succeeded (client.seed name) steps).flatMap asked)
    rwa [← preferences_advanceAll none_yet plain] at distinct
  · rw [count_tokens]
    exact single_choice_iff Count.preference_injective counts
  · rw [return_tokens]
    exact single_choice_iff Returning.preference_injective returnings

theorem preferences_of_run_agreeing :
    let client : Client := ⟨"http://h", "k", "public", [("X-User", "prefer")], "/rest/v1"⟩
    let steps : List Step :=
      [.select (.text "*") (.text "planned") (.bool true),
        .upsert (.list [.map []]) (.text "id") (.text "minimal") (.member (.count .planned)),
        .update (.int 5) (.text "representation") (.text "exact"), .rollback]
    let tokens := (advanceAll (client.seed "t") steps).headers.preferences
    tokens = ["count=planned", "resolution=merge-duplicates", "return=minimal", "on_conflict=id",
        "tx=rollback"] ∧
      tokens.Nodup ∧ (tokens.filter (begins "count=")).length ≤ 1 ∧
      (tokens.filter (begins "return=")).length ≤ 1 := by
  intro client steps tokens
  have started : client.request (.text "t") = .ok (client.seed "t") := rfl
  have fresh : ∀ h ∈ client.authHeaders, lower h.1 ≠ Headers.preferName := by decide
  have counts : (succeeded (client.seed "t") steps).filterMap count? =
      [.planned, .planned] := by decide +kernel
  have returnings : (succeeded (client.seed "t") steps).filterMap returning? = [.minimal] := by
    decide +kernel
  have plain : ∀ s ∈ succeeded (client.seed "t") steps,
      ∀ target, s.conflictTarget? = some target → ',' ∉ target.toList := by
    decide +kernel
  obtain ⟨distinct, _, _, one_count, one_return⟩ := preferences_of_run started fresh steps plain
  rw [counts] at one_count
  rw [returnings] at one_return
  exact ⟨by decide +kernel, distinct, one_count.mpr (by decide), one_return.mpr (by decide)⟩

/-- Steps that choose differently leave two counts and two representations. -/
theorem preferences_of_run_disagreeing :
    let client : Client := ⟨"http://h", "k", "public", [], "/rest/v1"⟩
    let steps : List Step :=
      [.insert (.map []) .null (.text "minimal") (.text "exact"), .returnRows .null,
        .select (.text "*") (.text "planned") (.bool true)]
    let tokens := (advanceAll (client.seed "t") steps).headers.preferences
    client.request (.text "t") = .ok (client.seed "t") ∧ client.authHeaders = [] ∧
      tokens = ["return=minimal", "count=exact", "return=representation", "count=planned"] ∧
      ¬ (tokens.filter (begins "count=")).length ≤ 1 ∧
      ¬ (tokens.filter (begins "return=")).length ≤ 1 := by
  intro client steps tokens
  have found : tokens =
      ["return=minimal", "count=exact", "return=representation", "count=planned"] := by
    decide +kernel
  rw [found]
  exact ⟨rfl, rfl, rfl, by decide, by decide⟩

end Step

end RestQuery
