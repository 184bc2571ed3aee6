import RestQuery.Text.Form

/-!
# The query of a request

An ordered store of keys and texts. A key keeps the place where it was first put; merging joins
a new text to the old one with a comma, replacing overwrites it.
-/

namespace RestQuery

open Text

structure Query where
  entries : List (String × String)
  deriving DecidableEq

namespace Query

def empty : Query := ⟨[]⟩

def keys (q : Query) : List String := q.entries.map (·.1)

/-- No key stands twice. -/
def Distinct (q : Query) : Prop := q.keys.Nodup

/-- The text at a key: that of its first entry. -/
def get? (q : Query) (key : String) : Option String := q.entries.lookup key

/-- A new text joined to the text already there, unless that is empty. -/
def join (current value : String) : String :=
  if current = "" then value else current ++ "," ++ value

/-- Every entry of `key` changed by `f`, or a new entry at the end if there is none. -/
def put (key value : String) (f : String → String) (entries : List (String × String)) :
    List (String × String) :=
  if entries.any (·.1 == key) then
    entries.map fun e => if e.1 == key then (e.1, f e.2) else e
  else entries ++ [(key, value)]

/-- The text at `key` extended by `value`. -/
def merge (q : Query) (key value : String) : Query :=
  ⟨put key value (join · value) q.entries⟩

/-- The text at `key` set to `value`. -/
def replace (q : Query) (key value : String) : Query :=
  ⟨put key value (fun _ => value) q.entries⟩

/-- The store without `key`. -/
def erase (q : Query) (key : String) : Query := ⟨q.entries.filter (·.1 != key)⟩

/-- One more entry at the end, whatever keys are there. -/
def append (q : Query) (key value : String) : Query := ⟨q.entries ++ [(key, value)]⟩

/-- The store as a map: the first place and the last text of each key. -/
def params (q : Query) : List (String × String) :=
  q.entries.foldl (fun es e => put e.1 e.2 (fun _ => e.2) es) []

/-- The store as the query part of a URL. -/
def encode (q : Query) : String := Form.encode q.entries

/-! ### Lookup after an update -/

@[simp] theorem get?_empty (key : String) : empty.get? key = none := rfl

theorem lookup_map_snd (key k : String) (f : String → String) (es : List (String × String)) :
    (es.map fun e => if e.1 == key then (e.1, f e.2) else e).lookup k =
      if k = key then (es.lookup k).map f else es.lookup k := by
  induction es with
  | nil => simp
  | cons e es ih =>
    obtain ⟨n, v⟩ := e
    simp only [List.map_cons]
    by_cases hk : k = n
    · subst hk
      by_cases hn : k = key
      · simp [hn]
      · simp [hn]
    · have hkn : (k == n) = false := by simpa using hk
      have hhead : (if n == key then (n, f v) else (n, v)).1 = n := by split <;> rfl
      obtain ⟨w, hw⟩ : ∃ w, (if n == key then (n, f v) else (n, v)) = (n, w) :=
        ⟨_, Prod.ext hhead rfl⟩
      simp only [hw, List.lookup_cons, hkn, ih]

theorem lookup_append_of_notMem {key : String} {es : List (String × String)}
    (h : key ∉ es.map (·.1)) (k value : String) :
    (es ++ [(key, value)]).lookup k = if k = key then some value else es.lookup k := by
  induction es with
  | nil => by_cases hk : k = key <;> simp [hk]
  | cons e es ih =>
    obtain ⟨n, v⟩ := e
    simp only [List.map_cons, List.mem_cons, not_or] at h
    by_cases hk : k = n
    · subst hk
      simp [Ne.symm h.1]
    · have hkn : (k == n) = false := by simpa using hk
      simp only [List.cons_append, List.lookup_cons, hkn, ih h.2]

/-- What `put` leaves at each key. -/
theorem lookup_put (key value k : String) (f : String → String) (es : List (String × String)) :
    (put key value f es).lookup k =
      if k = key then some (((es.lookup key).map f).getD value) else es.lookup k := by
  unfold put
  by_cases h : es.any (·.1 == key) = true
  · rw [if_pos h, lookup_map_snd]
    by_cases hk : k = key
    · subst hk
      have hs : (es.lookup k).isSome := by
        rw [List.lookup_isSome_iff]
        obtain ⟨e, he, hek⟩ := List.any_eq_true.1 h
        have : e.1 = k := by simpa using hek
        exact ⟨e, he, by simp [this]⟩
      obtain ⟨v, hv⟩ := Option.isSome_iff_exists.1 hs
      simp [hv]
    · simp [hk]
  · rw [if_neg h]
    have hm : key ∉ es.map (·.1) := by simpa using h
    rw [lookup_append_of_notMem hm]
    by_cases hk : k = key
    · have hl : es.lookup key = none := by
        rw [List.lookup_eq_none_iff]
        intro e he
        have : e.1 ≠ key := fun hek => hm (hek ▸ List.mem_map_of_mem he)
        simpa using Ne.symm this
      simp [hk, hl]
    · simp [hk]

theorem get?_merge (q : Query) (key value k : String) :
    (q.merge key value).get? k =
      if k = key then some (((q.get? key).map (join · value)).getD value) else q.get? k :=
  lookup_put key value k (join · value) q.entries

@[simp] theorem get?_replace (q : Query) (key value k : String) :
    (q.replace key value).get? k = if k = key then some value else q.get? k := by
  have := lookup_put key value k (fun _ => value) q.entries
  rw [show (q.replace key value).get? k = (put key value (fun _ => value) q.entries).lookup k
    from rfl, this]
  cases h : q.entries.lookup key <;> simp [get?]

@[simp] theorem get?_erase (q : Query) (key k : String) :
    (q.erase key).get? k = if k = key then none else q.get? k := by
  show (q.entries.filter (·.1 != key)).lookup k = _
  unfold get?
  induction q.entries with
  | nil => simp
  | cons e es ih =>
    obtain ⟨n, v⟩ := e
    by_cases hn : n = key
    · subst hn
      by_cases hk : k = n
      · simpa [hk] using ih
      · have hkn : (k == n) = false := by simpa using hk
        simpa [hk, List.lookup_cons, hkn] using ih
    · by_cases hk : k = n
      · subst hk
        simp [hn]
      · have hkn : (k == n) = false := by simpa using hk
        simpa [hn, List.lookup_cons, hkn] using ih

theorem keys_put (key value : String) (f : String → String) (es : List (String × String)) :
    (put key value f es).map (·.1) =
      if key ∈ es.map (·.1) then es.map (·.1) else es.map (·.1) ++ [key] := by
  unfold put
  have hany : es.any (·.1 == key) = true ↔ key ∈ es.map (·.1) := by simp
  by_cases h : key ∈ es.map (·.1)
  · rw [if_pos (hany.2 h), if_pos h, List.map_map]
    exact List.map_congr_left fun e _ => by
      show (if e.1 == key then (e.1, f e.2) else e).1 = e.1
      split <;> rfl
  · rw [if_neg (fun he => h (hany.1 he)), if_neg h]
    simp

theorem distinct_put {key value : String} {f : String → String} {es : List (String × String)}
    (h : (es.map (·.1)).Nodup) : ((put key value f es).map (·.1)).Nodup := by
  rw [keys_put]
  split
  · exact h
  · rename_i hk
    exact List.nodup_append.2 ⟨h, by simp, by
      intro a ha b hb
      rw [List.mem_singleton.1 hb]
      exact fun e => hk (e ▸ ha)⟩

theorem Distinct.merge {q : Query} (h : q.Distinct) (key value : String) :
    (q.merge key value).Distinct := by
  show ((put key value (join · value) q.entries).map (·.1)).Nodup
  exact distinct_put h

theorem Distinct.replace {q : Query} (h : q.Distinct) (key value : String) :
    (q.replace key value).Distinct := by
  show ((put key value (fun _ => value) q.entries).map (·.1)).Nodup
  exact distinct_put h

theorem Distinct.erase {q : Query} (h : q.Distinct) (key : String) : (q.erase key).Distinct := by
  unfold Distinct keys RestQuery.Query.erase
  exact h.sublist (List.filter_sublist.map _)

/-! ### The query as a map -/

theorem get?_eq_none {q : Query} {key : String} : q.get? key = none ↔ key ∉ q.keys := by
  simp only [get?, keys, List.lookup_eq_none_iff, List.mem_map, not_exists, not_and]
  exact forall₂_congr fun e _ => by simp [@eq_comm _ key]

/-- Without repeated keys the map of the query is the query. -/
theorem params_of_distinct {q : Query} (distinct : q.Distinct) : q.params = q.entries := by
  have fresh : ∀ rest done : List (String × String), ((done ++ rest).map (·.1)).Nodup →
      rest.foldl (fun es e => put e.1 e.2 (fun _ => e.2) es) done = done ++ rest := by
    intro rest
    induction rest with
    | nil => simp
    | cons e rest ih =>
      intro done nodup
      have absent : e.1 ∉ done.map (·.1) := by
        rw [List.map_append, List.map_cons, List.nodup_append] at nodup
        exact fun member => nodup.2.2 _ member _ List.mem_cons_self rfl
      have appended : put e.1 e.2 (fun _ => e.2) done = done ++ [e] := by
        rw [put, if_neg (by simpa using absent)]
      rw [List.foldl_cons, appended, ih _ (by simpa using nodup)]
      simp
  exact fresh q.entries [] distinct

/-- Reading a key and reading the map of the query give the same. -/
theorem lookup_params {q : Query} (distinct : q.Distinct) (key : String) :
    q.params.lookup key = q.get? key := by
  rw [params_of_distinct distinct, get?]

end Query

end RestQuery
