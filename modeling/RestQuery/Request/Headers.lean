import RestQuery.Text.Basic
import RestQuery.Text.Case

/-!
# The headers of a request

A store of texts under names whose letter case does not matter: names are kept in lower case.
The preferences of a request are tokens that accumulate, all other headers are replaced.
-/

namespace RestQuery

open Text

structure Headers where
  entries : List (String × String)
  deriving DecidableEq

namespace Headers

def empty : Headers := ⟨[]⟩

def names (h : Headers) : List String := h.entries.map (·.1)

/-- The text of a header whose name is in lower case. -/
def find? (h : Headers) (name : String) : Option String := h.entries.lookup name

/-- The text of a header. -/
def get? (h : Headers) (name : String) : Option String := h.find? (lower name)

/-- The entries with `name` set to `value`, in place if it is there. -/
def put (name value : String) : List (String × String) → List (String × String)
  | [] => [(name, value)]
  | (n, v) :: es => if n = name then (n, value) :: es else (n, v) :: put name value es

/-- The header under a name in lower case set to `value`. -/
def insert (h : Headers) (name value : String) : Headers := ⟨put name value h.entries⟩

/-- A header set to `value`. -/
def replace (h : Headers) (name value : String) : Headers := h.insert (lower name) value

/-- The name of the header whose tokens accumulate. -/
def preferName : String := "prefer"

/-- The tokens of a list with commas that are not empty. -/
def tokens (s : String) : List String := (splitOn ',' s).filter (· ≠ "")

/-- The tokens of `value` added to those of `current` that are not there yet. -/
def mergeTokens (current value : String) : String :=
  commaJoin ((tokens value).foldl (fun ts t => if t ∈ ts then ts else ts ++ [t]) (tokens current))

/-- A header given `value`: added to the preferences, or put in place of the text it had. -/
def set (h : Headers) (name value : String) : Headers :=
  let name := lower name
  if name = preferName then
    h.insert name (mergeTokens ((h.find? name).getD "") value)
  else h.insert name value

/-- The headers without one of them. -/
def erase (h : Headers) (name : String) : Headers :=
  ⟨h.entries.filter (·.1 ≠ lower name)⟩

/-- The headers of some entries in any letter case; later entries win. -/
def ofEntries (entries : List (String × String)) : Headers :=
  entries.foldl (fun h e => h.replace e.1 e.2) empty

/-- The entries in the order of their names. -/
def sorted (h : Headers) : List (String × String) :=
  h.entries.mergeSort fun a b => decide (a.1 ≤ b.1)

/-- The same headers, whatever the order in which they were set. -/
def same (a b : Headers) : Bool :=
  a.entries.length == b.entries.length && a.entries.all fun e => b.find? e.1 == some e.2

/-! ### Lookup after an update -/

theorem lookup_put (name value key : String) (es : List (String × String)) :
    (put name value es).lookup key = if key = name then some value else es.lookup key := by
  induction es with
  | nil =>
    simp only [put, List.lookup_cons]
    by_cases h : key = name
    · simp [h]
    · have : (key == name) = false := by simpa using h
      simp [h, this]
  | cons e es ih =>
    obtain ⟨n, v⟩ := e
    by_cases hn : n = name
    · subst hn
      by_cases h : key = n
      · simp [put, h]
      · have : (key == n) = false := by simpa using h
        simp [put, List.lookup_cons, h, this]
    · by_cases h : key = n
      · subst h
        simp [put, hn]
      · have : (key == n) = false := by simpa using h
        simp only [put, hn, if_false, List.lookup_cons, this, ih]

@[simp] theorem find?_insert (h : Headers) (name value key : String) :
    (h.insert name value).find? key = if key = name then some value else h.find? key :=
  lookup_put name value key h.entries

theorem lookup_filter_ne (name key : String) (es : List (String × String)) :
    (es.filter (·.1 ≠ name)).lookup key = if key = name then none else es.lookup key := by
  induction es with
  | nil => simp
  | cons e es ih =>
    obtain ⟨n, v⟩ := e
    by_cases hn : n = name
    · subst hn
      by_cases hk : key = n
      · simpa [hk] using ih
      · have hkn : (key == n) = false := by simpa using hk
        simpa [hk, List.lookup_cons, hkn] using ih
    · by_cases hk : key = n
      · subst hk
        simp [hn]
      · have hkn : (key == n) = false := by simpa using hk
        simpa [hn, List.lookup_cons, hkn] using ih

@[simp] theorem find?_erase (h : Headers) (name key : String) :
    (h.erase name).find? key = if key = lower name then none else h.find? key :=
  lookup_filter_ne (lower name) key h.entries

@[simp] theorem find?_replace (h : Headers) (name value key : String) :
    (h.replace name value).find? key = if key = lower name then some value else h.find? key :=
  find?_insert h (lower name) value key

/-- Only the preferences depend on the text that was there. -/
theorem find?_set (h : Headers) (name value key : String) :
    (h.set name value).find? key =
      if key = lower name then
        some (if lower name = preferName then
          mergeTokens ((h.find? preferName).getD "") value else value)
      else h.find? key := by
  unfold set
  by_cases hp : lower name = preferName
  · simp [hp]
  · simp [hp]

@[simp] theorem find?_empty (key : String) : empty.find? key = none := rfl

end Headers

end RestQuery
