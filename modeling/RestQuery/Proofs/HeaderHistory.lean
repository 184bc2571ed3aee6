import Mathlib.Data.List.DropRight
import RestQuery.Proofs.PreferenceTokens
import RestQuery.Proofs.QueryHistory

/-!
# The headers as a record of their history

Calls that set, replace and remove headers leave texts that can be told from the calls alone,
whatever the letter case of the names: `run_calls_header_history`. The preferences depend on the
tokens of all the texts added to them, every other header on the last text it was given.
-/

namespace RestQuery

open Text

namespace Headers

/-- The names are in lower case, and none stands twice. -/
def Normal (h : Headers) : Prop := h.names.Nodup ∧ ∀ name ∈ h.names, lower name = name

variable {h : Headers}

theorem normal_insert (normal : h.Normal) {name : String} (settled : lower name = name)
    (value : String) : (h.insert name value).Normal := by
  obtain ⟨distinct, lowered⟩ := normal
  have names : (h.insert name value).names =
      if name ∈ h.names then h.names else h.names ++ [name] := names_put name value h.entries
  unfold Normal
  rw [names]
  split
  · exact ⟨distinct, lowered⟩
  · rename_i fresh
    refine ⟨?_, List.forall_mem_append.mpr ⟨lowered, List.forall_mem_singleton.mpr settled⟩⟩
    rw [← List.concat_eq_append]
    exact distinct.concat fresh

theorem normal_replace (normal : h.Normal) (name value : String) : (h.replace name value).Normal :=
  normal_insert normal (lower_lower name) value

theorem normal_set (normal : h.Normal) (name value : String) : (h.set name value).Normal := by
  unfold set
  dsimp only
  split
  · exact normal_insert normal (lower_lower name) _
  · exact normal_insert normal (lower_lower name) _

theorem normal_erase (normal : h.Normal) (name : String) : (h.erase name).Normal := by
  obtain ⟨distinct, lowered⟩ := normal
  have kept : (h.erase name).names.Sublist h.names := List.filter_sublist.map _
  exact ⟨distinct.sublist kept, fun other member => lowered other (kept.subset member)⟩

theorem normal_ofEntries (entries : List (String × String)) : (ofEntries entries).Normal := by
  have kept : ∀ (es : List (String × String)) (h : Headers), h.Normal →
      (es.foldl (fun h e => h.replace e.1 e.2) h).Normal := by
    intro es
    induction es with
    | nil => exact fun _ normal => normal
    | cons e es ih => exact fun _ normal => ih _ (normal_replace normal e.1 e.2)
  exact kept entries empty ⟨List.nodup_nil, List.forall_mem_nil _⟩

/-! ### Tokens -/

theorem splitChars_append_cons (c : Char) (s t : List Char) :
    splitChars c (s ++ c :: t) = splitChars c s ++ splitChars c t := by
  induction s with
  | nil => simp [splitChars]
  | cons d s ih =>
    by_cases same : d = c
    · simp [splitChars, same, ih]
    · obtain ⟨piece, pieces, split⟩ := List.exists_cons_of_ne_nil (splitChars_ne_nil c s)
      simp [splitChars, same, ih, split]

theorem tokens_append (s t : String) : tokens (s ++ "," ++ t) = tokens s ++ tokens t := by
  have chars : (s ++ "," ++ t).toList = s.toList ++ ',' :: t.toList := by simp
  simp only [tokens, splitOn, chars, splitChars_append_cons, List.map_append, List.filter_append]

theorem collect_append (ts more later : List String) :
    collect (collect ts more) later = collect ts (more ++ later) := by
  unfold collect
  rw [List.foldl_append]

theorem mergeTokens_mergeTokens (current s t : String) :
    mergeTokens (mergeTokens current s) t = mergeTokens current (s ++ "," ++ t) := by
  have joined (a b : String) : mergeTokens a b = commaJoin (collect (tokens a) (tokens b)) := rfl
  rw [joined, tokens_mergeTokens, joined, tokens_append, collect_append]

theorem put_put (name value value' : String) (es : List (String × String)) :
    put name value' (put name value es) = put name value' es := by
  induction es with
  | nil => simp [put]
  | cons e es ih =>
    by_cases same : e.1 = name
    · simp [put, same]
    · simp [put, same, ih]

/-- Preferences given one after the other are preferences given together. -/
theorem set_set_prefer (h : Headers) {name : String} (prefer : lower name = preferName)
    (s t : String) : (h.set name s).set name t = h.set name (s ++ "," ++ t) := by
  have given (h : Headers) (value : String) : h.set name value =
      h.insert preferName (mergeTokens ((h.find? preferName).getD "") value) := by
    unfold set
    simp only [prefer, if_true]
  rw [given (h.set name s), given h s, given h, find?_insert, if_pos rfl, Option.getD_some,
    mergeTokens_mergeTokens]
  exact congrArg mk (put_put preferName _ _ h.entries)

end Headers

theorem Request.create_normal {url method query headers body schema : Value} {r : Request}
    (created : Request.create url method query headers body schema = .ok r) :
    r.headers.Normal := by
  simp only [create, bind_ok, pure_ok] at created
  obtain ⟨h, read, _, _, _, _, rfl⟩ := created
  cases headers with
  | map es =>
    obtain ⟨entries, _, rfl⟩ := by simpa only [Headers.ofValue, bind_ok, pure_ok] using read
    exact Headers.normal_ofEntries entries
  | _ => cases read

/-! ### Calls and events -/

/-- A call that changes the headers; names are in any letter case. -/
inductive HeaderCall where
  | set (name : String) (value : Value)
  | setAll (entries : List (String × Value))
  | replace (name : String) (value : Value)
  | erase (name : String)

inductive HeaderEvent where
  | given (name text : String)
  | replaced (name text : String)
  | erased (name : String)
  deriving DecidableEq

/-- The event of a text, for a value that has one: null is no event. -/
def Value.puts (event : String → HeaderEvent) : Value → Outcome (List HeaderEvent)
  | .null => .ok []
  | v => do return [event (← v.display)]

namespace HeaderCall

def update : HeaderCall → Update
  | set name value => .setHeader (.text name) value
  | setAll entries => .setHeaders (.map (entries.map fun e => (.text e.1, e.2)))
  | replace name value => .replaceHeader (.text name) value
  | erase name => .eraseHeader (.text name)

def outcome : HeaderCall → Outcome (List HeaderEvent)
  | set name value => value.puts (.given name)
  | setAll entries => do return (← entries.mapM fun e => e.2.puts (.given e.1)).flatten
  | replace name value => value.puts (.replaced name)
  | erase name => .ok [.erased name]

/-- What a call does; one that fails does nothing. -/
def events (c : HeaderCall) : List HeaderEvent := c.outcome.toOption.getD []

def run (r : Request) (calls : List HeaderCall) : Request :=
  calls.foldl (fun r c => c.update.advance r) r

end HeaderCall

namespace HeaderEvent

def apply (h : Headers) : HeaderEvent → Headers
  | given name text => h.set name text
  | replaced name text => h.replace name text
  | erased name => h.erase name

def run (h : Headers) (events : List HeaderEvent) : Headers := events.foldl apply h

theorem run_concat (h : Headers) (events : List HeaderEvent) (e : HeaderEvent) :
    run h (events ++ [e]) = e.apply (run h events) := List.foldl_concat ..

theorem run_append (h : Headers) (events later : List HeaderEvent) :
    run h (events ++ later) = run (run h events) later := List.foldl_append

theorem normal_run {h : Headers} (normal : h.Normal) (events : List HeaderEvent) :
    (run h events).Normal := by
  induction events using List.reverseRecOn with
  | nil => exact normal
  | append_singleton events e ih =>
    rw [run_concat]
    cases e with
    | given name text => exact Headers.normal_set ih name text
    | replaced name text => exact Headers.normal_replace ih name text
    | erased name => exact Headers.normal_erase ih name

/-! ### The history of one header -/

/-- The event is about a header, whose name is in lower case. -/
def touches (key : String) : HeaderEvent → Bool
  | given name _ | replaced name _ | erased name => lower name == key

/-- What was there before no longer matters, not even for preferences. -/
def settles (key : String) : HeaderEvent → Bool
  | given .. => false
  | replaced name _ | erased name => lower name == key

def text? : HeaderEvent → Option String
  | given _ text | replaced _ text => some text
  | erased _ => none

def givenAt? (key : String) : HeaderEvent → Option String
  | given name text => if lower name = key then some text else none
  | _ => none

/-- The text that a header was last given or replaced by, unless it was removed later. -/
def latest (key : String) (initial : Option String) (events : List HeaderEvent) : Option String :=
  match events.reverse.find? (touches key) with
  | some e => e.text?
  | none => initial

/-- The text of a header when it was last replaced or removed. -/
def base (key : String) (initial : Option String) (events : List HeaderEvent) : Option String :=
  match events.reverse.find? (settles key) with
  | some e => e.text?
  | none => initial

/-- The texts that a header was given since then. -/
def added (key : String) (events : List HeaderEvent) : List String :=
  (events.rtakeWhile fun e => !e.settles key).filterMap (givenAt? key)

/-- The preferences: the base text as it is, or its tokens with those added that are new. -/
def preferred (initial : Option String) (events : List HeaderEvent) : Option String :=
  let start := base Headers.preferName initial events
  let texts := added Headers.preferName events
  if texts = [] then start
  else some (commaJoin
    (Headers.collect (Headers.tokens (start.getD "")) (texts.flatMap Headers.tokens)))

theorem latest_concat (key : String) (initial : Option String) (events : List HeaderEvent)
    (e : HeaderEvent) : latest key initial (events ++ [e]) =
      if e.touches key then e.text? else latest key initial events := by
  by_cases here : e.touches key = true
  · simp [latest, here]
  · simp [latest, here]

theorem preferred_settled (initial : Option String) (events : List HeaderEvent) {e : HeaderEvent}
    (settled : e.settles Headers.preferName = true) :
    preferred initial (events ++ [e]) = e.text? := by
  have fresh : added Headers.preferName (events ++ [e]) = [] := by
    rw [added, List.rtakeWhile_concat_neg _ _ _ (by simp [settled]), List.filterMap_nil]
  have start : base Headers.preferName initial (events ++ [e]) = e.text? := by
    simp [base, settled]
  simp only [preferred, fresh, if_true, start]

section
variable {e : HeaderEvent} (unsettled : e.settles Headers.preferName = false)
include unsettled

theorem base_unsettled (initial : Option String) (events : List HeaderEvent) :
    base Headers.preferName initial (events ++ [e]) = base Headers.preferName initial events := by
  simp [base, unsettled]

theorem added_unsettled (events : List HeaderEvent) :
    added Headers.preferName (events ++ [e]) =
      added Headers.preferName events ++ (e.givenAt? Headers.preferName).toList := by
  rw [added, List.rtakeWhile_concat_pos _ _ _ (by simp [unsettled]), List.filterMap_append, added]
  cases found : e.givenAt? Headers.preferName with
  | none => rw [List.filterMap_cons_none found]; rfl
  | some text => rw [List.filterMap_cons_some found]; rfl

end

theorem preferred_other (initial : Option String) (events : List HeaderEvent) {e : HeaderEvent}
    (other : e.touches Headers.preferName = false) :
    preferred initial (events ++ [e]) = preferred initial events := by
  have unsettled : e.settles Headers.preferName = false := by
    cases e with
    | given _ _ => rfl
    | replaced _ _ | erased _ => exact other
  have none_given : e.givenAt? Headers.preferName = none := by
    cases e with
    | given name text => exact if_neg (beq_eq_false_iff_ne.mp other)
    | replaced _ _ | erased _ => rfl
  have texts := added_unsettled unsettled events
  rw [none_given, Option.toList_none, List.append_nil] at texts
  simp only [preferred, base_unsettled unsettled, texts]

/-- A text given to the preferences is merged into those that the history has left so far. -/
theorem preferred_given (initial : Option String) (events : List HeaderEvent) {name : String}
    (prefer : lower name = Headers.preferName) (text : String) :
    preferred initial (events ++ [given name text]) =
      some (Headers.mergeTokens ((preferred initial events).getD "") text) := by
  have unsettled : (given name text).settles Headers.preferName = false := rfl
  have texts := added_unsettled unsettled events
  have here : (given name text).givenAt? Headers.preferName = some text := if_pos prefer
  rw [here, Option.toList_some] at texts
  simp only [preferred, base_unsettled unsettled, texts]
  rw [if_neg (by simp), List.flatMap_append, List.flatMap_singleton, ← Headers.collect_append]
  have merged (s : String) : Headers.mergeTokens s text =
      commaJoin (Headers.collect (Headers.tokens s) (Headers.tokens text)) := rfl
  rw [merged]
  by_cases first : added Headers.preferName events = []
  · rw [if_pos first, first, List.flatMap_nil]
    rfl
  · -- The tokens merged so far are read back from the text that they were joined to.
    rw [if_neg first, Option.getD_some, Headers.tokens_commaJoin]
    intro t member
    rcases Headers.mem_collect member with old | new
    · exact Headers.isToken_of_mem_tokens old
    · obtain ⟨s, _, listed⟩ := List.mem_flatMap.mp new
      exact Headers.isToken_of_mem_tokens listed

theorem find?_apply_of_touches {h : Headers} {e : HeaderEvent} {key : String}
    (here : e.touches key = true) (plain : key ≠ Headers.preferName) :
    (e.apply h).find? key = e.text? := by
  cases e with
  | given name text =>
    obtain rfl := beq_iff_eq.mp here
    rw [apply, Headers.find?_set, if_pos rfl, if_neg plain]
    rfl
  | replaced name text =>
    obtain rfl := beq_iff_eq.mp here
    rw [apply, Headers.find?_replace, if_pos rfl]
    rfl
  | erased name =>
    obtain rfl := beq_iff_eq.mp here
    rw [apply, Headers.find?_erase, if_pos rfl]
    rfl

theorem find?_apply_other {h : Headers} {e : HeaderEvent} {key : String}
    (other : e.touches key = false) : (e.apply h).find? key = h.find? key := by
  have apart {name : String} (unlike : (lower name == key) = false) : key ≠ lower name :=
    (beq_eq_false_iff_ne.mp unlike).symm
  cases e with
  | given name text => rw [apply, Headers.find?_set, if_neg (apart other)]
  | replaced name text => rw [apply, Headers.find?_replace, if_neg (apart other)]
  | erased name => rw [apply, Headers.find?_erase, if_neg (apart other)]

theorem find?_run {key : String} (plain : key ≠ Headers.preferName) (h : Headers)
    (events : List HeaderEvent) :
    (run h events).find? key = latest key (h.find? key) events := by
  induction events using List.reverseRecOn with
  | nil => rfl
  | append_singleton events e ih =>
    rw [run_concat, latest_concat]
    by_cases here : e.touches key = true
    · rw [if_pos here, find?_apply_of_touches here plain]
    · rw [if_neg here, find?_apply_other (Bool.eq_false_iff.mpr here), ih]

theorem find?_run_prefer (h : Headers) (events : List HeaderEvent) :
    (run h events).find? Headers.preferName =
      preferred (h.find? Headers.preferName) events := by
  induction events using List.reverseRecOn with
  | nil => rfl
  | append_singleton events e ih =>
    rw [run_concat]
    by_cases here : e.touches Headers.preferName = true
    · cases e with
      | given name text =>
        have prefer : lower name = Headers.preferName := beq_iff_eq.mp here
        rw [preferred_given _ _ prefer, ← ih, apply, Headers.find?_set, if_pos prefer.symm,
          if_pos prefer]
      | replaced name text =>
        have settled : (replaced name text).settles Headers.preferName = true := here
        rw [preferred_settled _ _ settled, apply, Headers.find?_replace,
          if_pos (beq_iff_eq.mp here).symm]
        rfl
      | erased name =>
        have settled : (erased name).settles Headers.preferName = true := here
        rw [preferred_settled _ _ settled, apply, Headers.find?_erase,
          if_pos (beq_iff_eq.mp here).symm]
        rfl
    · have other := Bool.eq_false_iff.mpr here
      rw [find?_apply_other other, preferred_other _ _ other, ih]

end HeaderEvent

namespace HeaderCall

theorem put_eq (event : String → HeaderEvent) (put : Headers → String → String → Headers)
    {name : String} (puts : ∀ h text, (event text).apply h = put h name text) (r : Request)
    (value : Value) : r.putHeader put (.text name) value = do
      return { r with headers := HeaderEvent.run r.headers (← value.puts event) } := by
  have single (h : Headers) (text : String) :
      HeaderEvent.run h [event text] = put h name text := puts h text
  unfold Request.putHeader Value.puts
  split
  · rfl
  · simp only [Request.headerName, bind_assoc, pure_bind, single]
    rfl

theorem setAll_eq (entries : List (String × Value)) (r : Request) :
    r.withHeaders (.map (entries.map fun e => (.text e.1, e.2))) = do
      let each ← entries.mapM fun e => e.2.puts (.given e.1)
      return { r with headers := HeaderEvent.run r.headers each.flatten } := by
  simp only [Request.withHeaders]
  induction entries generalizing r with
  | nil => rfl
  | cons e entries ih =>
    have first := put_eq (.given e.1) .set (fun _ _ => rfl) r e.2
    rw [List.map_cons, List.foldlM_cons, List.mapM_cons, Request.withHeader, first]
    simp only [bind_assoc, pure_bind, ih, List.flatten_cons, HeaderEvent.run_append]

/-- A call changes the headers by its events, and nothing else. -/
theorem apply_update (r : Request) (c : HeaderCall) : c.update.apply r = do
    return { r with headers := HeaderEvent.run r.headers (← c.outcome) } := by
  cases c with
  | set name value => exact put_eq (.given name) .set (fun _ _ => rfl) r value
  | setAll entries =>
    simp only [outcome, bind_assoc, pure_bind]
    exact setAll_eq entries r
  | replace name value => exact put_eq (.replaced name) .replace (fun _ _ => rfl) r value
  | erase name => rfl

theorem advance_update (r : Request) (c : HeaderCall) :
    c.update.advance r = { r with headers := HeaderEvent.run r.headers c.events } := by
  unfold Update.advance events
  rw [apply_update]
  cases c.outcome with
  | ok events => rfl
  | error f => rfl

theorem run_eq (r : Request) (calls : List HeaderCall) :
    run r calls = { r with headers := HeaderEvent.run r.headers (calls.flatMap events) } := by
  induction calls generalizing r with
  | nil => rfl
  | cons c calls ih =>
    have later : run r (c :: calls) = run (c.update.advance r) calls := rfl
    rw [later, ih, advance_update, List.flatMap_cons, HeaderEvent.run_append]

end HeaderCall

open HeaderEvent in
/-- Calls leave the headers that their history says: names in lower case that stand once, every
header with the last text it was given, and the preferences with their base text and the tokens
added to it. All spellings of a name read the same, and the rest of the request stays as it was. -/
theorem run_calls_header_history {r : Request} (normal : r.headers.Normal)
    (calls : List HeaderCall) :
    let events := calls.flatMap HeaderCall.events
    let final := HeaderCall.run r calls
    final.headers.Normal ∧
    (∀ name name', lower name = lower name' →
      final.getHeader (.text name) = final.getHeader (.text name')) ∧
    (∀ name, lower name ≠ Headers.preferName →
      final.headers.get? name = latest (lower name) (r.headers.get? name) events) ∧
    (∀ name, lower name = Headers.preferName →
      final.headers.get? name = preferred (r.headers.get? name) events) ∧
    (∀ (s : Request) (name : String), s.withHeader (.text name) .null = .ok s ∧
      s.replaceHeader (.text name) .null = .ok s) ∧
    (∀ (h : Headers) (name text later : String), lower name = Headers.preferName →
      (h.set name text).set name later = h.set name (text ++ "," ++ later)) ∧
    final = { r with headers := final.headers } := by
  intro events final
  have whole : final = { r with headers := HeaderEvent.run r.headers events } :=
    HeaderCall.run_eq r calls
  have after : final.headers = HeaderEvent.run r.headers events := by rw [whole]
  refine ⟨after ▸ normal_run normal events, ?_, ?_, ?_, fun s name => ⟨rfl, rfl⟩, ?_, ?_⟩
  · intro name name' same
    have found : final.headers.get? name = final.headers.get? name' := by
      simp only [Headers.get?, same]
    simp only [Request.getHeader, found]
  · intro name plain
    rw [after]
    exact find?_run plain r.headers events
  · intro name prefer
    simp only [Headers.get?, prefer, after]
    exact find?_run_prefer r.headers events
  · exact fun h name text later prefer => Headers.set_set_prefer h prefer text later
  · rw [after]
    exact whole

open HeaderEvent in
/-- Repeated tokens of the base text stay, the tokens added to them are not repeated. -/
theorem run_calls_header_history_mixed :
    let h := Headers.ofEntries [("Prefer", "a,,a"), ("X-Id", "1"), ("Accept", "*/*")]
    let r : Request := { url := .text "u", headers := h }
    let calls : List HeaderCall := [.set "PREFER" (.text "b,a,c"), .replace "x-ID" (.int 2),
      .setAll [("accept", .text "text/csv"), ("prefer", .text "c,d"), ("Y", .null)],
      .erase "ACCEPT", .set "X-Id" .null]
    r.headers.Normal ∧ (HeaderCall.run r calls).headers.get? "PreFer" = some "a,a,b,c,d" ∧
      (HeaderCall.run r calls).headers.get? "X-ID" = some "2" ∧
      (HeaderCall.run r calls).headers.get? "Accept" = none ∧
      (HeaderCall.run r calls).headers.get? "y" = none := by
  intro h r calls
  have normal : r.headers.Normal := Headers.normal_ofEntries _
  obtain ⟨_, _, plain, prefer, _⟩ := run_calls_header_history normal calls
  refine ⟨normal, ?_, ?_, ?_, ?_⟩
  · rw [prefer "PreFer" (by decide)]
    decide +kernel
  · rw [plain "X-ID" (by decide)]
    decide +kernel
  · rw [plain "Accept" (by decide)]
    decide +kernel
  · rw [plain "y" (by decide)]
    decide +kernel

end RestQuery
