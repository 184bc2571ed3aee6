import RestQuery.Proofs.HeaderEntries
import RestQuery.Proofs.ProfileHeader
import RestQuery.Proofs.ResponseHeaders

/-!
# What a new request carries

The headers of a client are its own, save for those that the extra headers set in whatever letters.
Its requests go to the address without the slashes at its end: `Client.starts_from_settings`.
-/

namespace RestQuery

open Text

/-! ### Slashes at the end -/

namespace Text

def slashes (n : Nat) : String := String.ofList (List.replicate n '/')

theorem dropTrailing_append_slashes (s : String) (n : Nat) :
    dropTrailing '/' (s ++ slashes n) = dropTrailing '/' s := by
  have backwards : (s ++ slashes n).toList.reverse = List.replicate n '/' ++ s.toList.reverse := by
    simp [slashes]
  have dropped : ∀ c ∈ List.replicate n '/', decide (c = '/') = true :=
    fun c member => decide_eq_true (List.eq_of_mem_replicate member)
  rw [dropTrailing, backwards, List.dropWhile_append_of_pos dropped, dropTrailing]

theorem exists_slashes (s : String) : ∃ n, s = dropTrailing '/' s ++ slashes n := by
  let slash (c : Char) : Bool := c = '/'
  let run := s.toList.reverse.takeWhile slash
  have same : run.reverse = List.replicate run.length '/' := by
    refine List.eq_replicate_iff.mpr ⟨List.length_reverse, fun c member => ?_⟩
    exact of_decide_eq_true (List.mem_takeWhile_imp (p := slash) (List.mem_reverse.mp member))
  have whole : run ++ s.toList.reverse.dropWhile slash = s.toList.reverse :=
    List.takeWhile_append_dropWhile
  refine ⟨run.length, String.toList_inj.mp ?_⟩
  calc s.toList = (run ++ s.toList.reverse.dropWhile slash).reverse := by
        rw [whole, List.reverse_reverse]
    _ = (s.toList.reverse.dropWhile slash).reverse ++ List.replicate run.length '/' := by
        rw [List.reverse_append, same]
    _ = (dropTrailing '/' s ++ slashes run.length).toList := by
        simp [dropTrailing, slashes, slash]

theorem dropTrailing_ne (s lead : String) : dropTrailing '/' s ≠ lead ++ "/" := by
  intro ends
  have backwards : s.toList.reverse.dropWhile (· = '/') = '/' :: lead.toList.reverse := by
    have reversed := congrArg (·.toList.reverse) ends
    simpa [dropTrailing] using reversed
  have first := List.head?_dropWhile_not (fun c => decide (c = '/')) s.toList.reverse
  rw [backwards] at first
  simp at first

end Text

/-! ### Layers of headers -/

namespace Headers

/-- Of two layers of entries the later one wins at every name that it has. -/
theorem find?_ofEntries_append (entries later : List (String × String)) (name : String) :
    (ofEntries (entries ++ later)).find? name =
      ((ofEntries later).find? name).or ((ofEntries entries).find? name) := by
  induction later using List.reverseRecOn with
  | nil =>
    rw [List.append_nil]
    rfl
  | append_singleton later e ih =>
    rw [← List.append_assoc, ofEntries_concat, ofEntries_concat, find?_replace, find?_replace]
    by_cases alike : name = lower e.1
    · rw [if_pos alike, if_pos alike, Option.some_or]
    · rw [if_neg alike, if_neg alike, ih]

theorem ofEntries_lowered (entries : List (String × String)) :
    ofEntries (entries.map fun e => (lower e.1, e.2)) = ofEntries entries := by
  unfold ofEntries
  rw [List.foldl_map]
  simp only [replace, lower_lower]

end Headers

namespace Client

/-! ### Headers -/

/-- Names in lower case are told apart in the same way by a table and by headers. -/
theorem uniqueHeaders_eq {entries : List (String × String)}
    (lowered : ∀ e ∈ entries, lower e.1 = e.1) :
    uniqueHeaders entries = (Headers.ofEntries entries).entries := by
  induction entries using List.reverseRecOn with
  | nil => rfl
  | append_singleton entries e ih =>
    obtain ⟨before, settled⟩ := List.forall_mem_append.mp lowered
    have added : uniqueHeaders (entries ++ [e]) = Headers.put e.1 e.2 (uniqueHeaders entries) :=
      List.foldl_concat ..
    rw [added, ih before, Headers.ofEntries_concat, Headers.replace, Headers.insert,
      settled e (List.mem_singleton_self e)]

/-- The headers that a client sends unless it is told otherwise. -/
def ownHeaders (c : Client) : List (String × String) :=
  [("x-client-info", "postgrest-builder/0.1.0"), ("content-type", "application/json"),
    ("accept", "*/*"), ("apikey", c.apiKey), ("authorization", "Bearer " ++ c.apiKey)]

theorem normal_ownHeaders (c : Client) : Headers.Normal ⟨c.ownHeaders⟩ := by
  have names : (Headers.mk c.ownHeaders).names =
      ["x-client-info", "content-type", "accept", "apikey", "authorization"] := rfl
  rw [Headers.Normal, names]
  decide

theorem find?_seedHeaders (c : Client) (name : String) :
    c.seedHeaders.find? name = ((Headers.ofEntries c.authHeaders).find? name).or
      ((Headers.ofEntries c.ownHeaders).find? name) := by
  let extra := c.authHeaders.map fun e => (lower e.1, e.2)
  let keyed := [("apikey", c.apiKey), ("authorization", "Bearer " ++ c.apiKey)]
  have lowered : ∀ e ∈ keyed ++ extra, lower e.1 = e.1 := by
    refine List.forall_mem_append.mpr ⟨fun e member => ?_, fun e member => ?_⟩
    · have names : ∀ name ∈ keyed.map (·.1), lower name = name := by
        rw [show keyed.map (·.1) = ["apikey", "authorization"] from rfl]
        decide
      exact names e.1 (List.mem_map_of_mem member)
    · obtain ⟨given, _, rfl⟩ := List.mem_map.mp member
      exact lower_lower given.1
  have merged : c.defaultHeaders = (Headers.ofEntries (keyed ++ extra)).entries :=
    uniqueHeaders_eq lowered
  rw [seedHeaders, Headers.find?_ofEntries_append, merged,
    Headers.ofEntries_entries (Headers.normal_ofEntries _), Headers.find?_ofEntries_append,
    Headers.ofEntries_lowered, Option.or_assoc, ← Headers.find?_ofEntries_append]
  rfl

theorem seedHeaders_iff {c : Client} {name text : String} :
    c.seedHeaders.find? name = some text ↔ Headers.Sends c.authHeaders name text ∨
      (∀ e ∈ c.authHeaders, lower e.1 ≠ name) ∧ (name, text) ∈ c.ownHeaders := by
  have own := Headers.ofEntries_entries c.normal_ownHeaders
  rw [find?_seedHeaders, Option.or_eq_some_iff, Headers.find?_ofEntries_iff,
    Headers.find?_ofEntries_eq_none, own, ← Headers.mem_entries_iff c.normal_ownHeaders.1]

/-! ### The address -/

theorem checkUrl_ok {place url : String} {v : Value} :
    checkUrl place v = .ok url ↔
      ∃ address, textOf v = .ok address ∧ url = dropTrailing '/' address ∧ url ≠ "" := by
  unfold checkUrl checkNonEmpty checkText
  cases textOf v with
  | error p => simp [bind, Except.bind]
  | ok address =>
    by_cases empty : address = ""
    · have dropped : dropTrailing '/' "" = "" := rfl
      simp [bind, Except.bind, empty, dropped]
    · by_cases blank : dropTrailing '/' address = ""
      · simp [bind, Except.bind, empty, blank]
      · simp only [bind, Except.bind, empty, blank, if_false, Except.ok.injEq, exists_eq_left']
        exact ⟨fun same => ⟨same.symm, same ▸ blank⟩, fun same => same.1.symm⟩

variable {settings : List (String × Value)} {client : Client}

theorem lookup_respelled (before after : List (String × Value)) (v v' : Value) {name : String}
    (other : name ≠ "base_url") :
    (before ++ ("base_url", v') :: after).lookup name =
      (before ++ ("base_url", v) :: after).lookup name := by
  have unlike : (name == "base_url") = false := beq_eq_false_iff_ne.mpr other
  simp only [List.lookup_append, List.lookup_cons, unlike]

/-- An address may be written with any number of slashes at its end. -/
theorem ofSettings_respelled {before after : List (String × Value)} {v v' : Value}
    {address address' : String}
    (configured : ofSettings (before ++ ("base_url", v) :: after) = .ok client)
    (read : textOf v = .ok address) (read' : textOf v' = .ok address')
    (same : dropTrailing '/' address' = dropTrailing '/' address) :
    ofSettings (before ++ ("base_url", v') :: after) = .ok client := by
  have schema : schemaSetting (before ++ ("base_url", v') :: after) =
      schemaSetting (before ++ ("base_url", v) :: after) := by
    rw [schemaSetting, schemaSetting, lookup_respelled before after v v' (by decide)]
  have unknown : unknownSettings (before ++ ("base_url", v') :: after) =
      unknownSettings (before ++ ("base_url", v) :: after) := by
    simp [unknownSettings, knownSettings, schema]
  have schema_name (settings : List (String × Value)) : schemaSetting settings ≠ "base_url" := by
    unfold schemaSetting
    split
    · decide
    · decide
  rw [ofSettings_ok] at configured ⊢
  obtain ⟨url, others⟩ := configured
  refine ⟨?_, ?_⟩
  · unfold required at url ⊢
    rw [List.lookup_append, List.lookup_cons_self] at url ⊢
    cases earlier : before.lookup "base_url" with
    | some w =>
      rw [earlier] at url
      exact url
    | none =>
      rw [earlier] at url
      obtain ⟨_, given, dropped, filled⟩ := checkUrl_ok.mp url
      cases read.symm.trans given
      exact checkUrl_ok.mpr ⟨address', read', dropped.trans same.symm, filled⟩
  · rw [schema, unknown]
    unfold required optional at others ⊢
    have found {name : String} (other : name ≠ "base_url") :=
      lookup_respelled before after v v' other
    rwa [found (by decide), found (schema_name _), found (by decide), found (by decide)]

theorem baseUrl_of_settings (configured : ofSettings settings = .ok client) :
    ∃ v address, settings.lookup "base_url" = some v ∧ textOf v = .ok address ∧
      client.baseUrl = dropTrailing '/' address := by
  have url := (ofSettings_ok.mp configured).1
  unfold required at url
  split at url
  · rename_i v given
    obtain ⟨address, read, dropped, _⟩ := checkUrl_ok.mp url
    exact ⟨v, address, given, read, dropped⟩
  · cases url

/-- A new request sends the last text of the extra headers under each name that they have, and the
client's own text under any other. It goes to the address without the slashes at its end, however
many there are. -/
theorem starts_from_settings {relation : String} (configured : ofSettings settings = .ok client)
    (filled : relation ≠ "") :
    ∃ r, (Start.client settings (.text relation)).request = .ok r ∧
      r.headers.Normal ∧
      (∀ name text, r.headers.find? name = some text ↔
        Headers.Sends client.authHeaders name text ∨
          (∀ e ∈ client.authHeaders, lower e.1 ≠ name) ∧ (name, text) ∈ client.ownHeaders) ∧
      (∃ v address stem n, settings.lookup "base_url" = some v ∧ textOf v = .ok address ∧
        address = stem ++ slashes n ∧ (∀ lead, stem ≠ lead ++ "/") ∧
        r.url = .text (stem ++ client.restPath ++ "/" ++ relation)) ∧
      ∀ before v v' after stem m n, settings = before ++ ("base_url", v) :: after →
        textOf v = .ok (stem ++ slashes m) → textOf v' = .ok (stem ++ slashes n) →
        (Start.client (before ++ ("base_url", v') :: after) (.text relation)).request = .ok r := by
  have started {given : List (String × Value)} (configured : ofSettings given = .ok client) :
      (Start.client given (.text relation)).request = .ok (client.seed relation) := by
    rw [Start.request, configured]
    exact if_neg filled
  refine ⟨client.seed relation, started configured, ?_, ?_, ?_, ?_⟩
  · rw [seed_headers]
    exact Headers.normal_ofEntries _
  · intro name text
    rw [seed_headers]
    exact seedHeaders_iff
  · obtain ⟨v, address, given, read, dropped⟩ := baseUrl_of_settings configured
    obtain ⟨n, spelled⟩ := exists_slashes address
    rw [← dropped] at spelled
    have ends (lead : String) : client.baseUrl ≠ lead ++ "/" := dropped ▸ dropTrailing_ne address lead
    exact ⟨v, address, client.baseUrl, n, given, read, spelled, ends, seed_url client relation⟩
  · rintro before v v' after stem m n rfl read read'
    refine started (ofSettings_respelled configured read read' ?_)
    rw [dropTrailing_append_slashes, dropTrailing_append_slashes]

/-- A token given twice, in letters that differ, and an address with slashes at its end. -/
theorem starts_from_settings_user_token :
    let settings (address : String) : List (String × Value) :=
      [("api_key", .text "k"), ("base_url", .text address),
        ("auth_headers", .map [(.text "AUTHORIZATION", .text "a"),
          (.text "X-Client-Info", .text "c"), (.text "Authorization", .text "b"),
          (.text "X-Id", .text "1")])]
    let client : Client := ⟨"http://h", "k", "public", [("AUTHORIZATION", "a"),
      ("X-Client-Info", "c"), ("Authorization", "b"), ("X-Id", "1")], "/rest/v1"⟩
    ofSettings (settings "http://h//") = .ok client ∧
    ∃ r, (Start.client (settings "http://h//") (.text "t")).request = .ok r ∧
      (Start.client (settings "http://h") (.text "t")).request = .ok r ∧
      r.headers.find? "authorization" = some "b" ∧ r.headers.find? "x-client-info" = some "c" ∧
      r.headers.find? "apikey" = some "k" ∧ r.headers.find? "accept" = some "*/*" ∧
      "AUTHORIZATION" ∉ r.headers.names := by
  intro settings client
  have configured : ofSettings (settings "http://h//") = .ok client := rfl
  obtain ⟨r, started, normal, sends, _, respelled⟩ :=
    starts_from_settings configured (show "t" ≠ "" by decide)
  refine ⟨configured, r, started, ?_, ?_, ?_, ?_, ?_, ?_⟩
  · exact respelled [("api_key", .text "k")] (.text "http://h//") (.text "http://h") _ "http://h"
      2 0 rfl rfl rfl
  · exact (sends _ _).mpr (.inl ⟨[("AUTHORIZATION", "a"), ("X-Client-Info", "c")], "Authorization",
      [("X-Id", "1")], rfl, by decide, by decide⟩)
  · exact (sends _ _).mpr (.inl ⟨[("AUTHORIZATION", "a")], "X-Client-Info",
      [("Authorization", "b"), ("X-Id", "1")], rfl, by decide, by decide⟩)
  · exact (sends _ _).mpr (.inr ⟨by decide, by decide⟩)
  · exact (sends _ _).mpr (.inr ⟨by decide, by decide⟩)
  · exact fun member => absurd (normal.2 _ member) (by decide)

end Client

end RestQuery
