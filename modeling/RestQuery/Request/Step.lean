import RestQuery.Request.Verb

/-!
# Steps

The operations that build a request, as data, and what each does to the request so far. A step
that fails changes nothing.
-/

namespace RestQuery

inductive Step where
  | select (columns count returning : Value)
  | insert (data onConflict returning count : Value)
  | upsert (data onConflict returning count : Value)
  | update (data returning count : Value)
  | delete (returning count : Value)
  | filterBy (condition : Value)
  | filterRaw (column operator value : Value)
  | filterNot (column operator value : Value)
  | allOf (conditions table : Value)
  | anyOf (conditions table : Value)
  | filterMatch (equalities : Value)
  | filterCompare (op : Operator) (column value : Value)
  | filterPatterns (op quantifier : Operator) (column patterns : Value)
  | filterIs (column value : Value)
  | filterCollection (test : CollectionTest) (column value : Value)
  | filterSearch (column query kind language : Value)
  | chooseSchema (name : Value)
  | acceptNamed (mediaType : Value)
  | order (column ascending nullsFirst table : Value)
  | limit (count table : Value)
  | range (first last table : Value)
  | single
  | maybeSingle
  | accept (m : MediaType)
  | explain (details : Request.PlanDetails) (format : Value)
  | rollback
  | returnRows (columns : Value)

namespace Step

/-- What a step makes of a request. -/
def apply (r : Request) : Step → Outcome Request
  | select columns count returning => r.select columns count returning
  | insert data onConflict returning count => r.insert data onConflict returning count
  | upsert data onConflict returning count => r.upsert data onConflict returning count
  | update data returning count => r.update data returning count
  | delete returning count => r.delete returning count
  | filterBy condition => r.filterBy condition
  | filterRaw column operator value => r.filterRaw column operator value
  | filterNot column operator value => r.filterNot column operator value
  | allOf conditions table => r.allOf conditions table
  | anyOf conditions table => r.anyOf conditions table
  | filterMatch equalities => r.filterMatch equalities
  | filterCompare op column value => r.filterCompare op column value
  | filterPatterns op quantifier column patterns => r.filterPatterns op quantifier column patterns
  | filterIs column value => r.filterIs column value
  | filterCollection test column value => r.filterCollection test column value
  | filterSearch column query kind language => r.filterSearch column query kind language
  | chooseSchema name => r.chooseSchema name
  | acceptNamed mediaType => r.acceptNamed mediaType
  | order column ascending nullsFirst table => r.order column ascending nullsFirst table
  | limit count table => r.limit count table
  | range first last table => r.range first last table
  | single => .ok r.single
  | maybeSingle => .ok r.maybeSingle
  | accept m => .ok (r.accept m)
  | explain details format => r.explain details format
  | rollback => .ok r.rollback
  | returnRows columns => r.returnRows columns

/-- The steps one after the other; the first that fails ends the run. -/
def run (r : Request) (steps : List Step) : Outcome Request := steps.foldlM apply r

/-- The request after a step, which is the one before it if the step fails. -/
def advance (r : Request) (s : Step) : Request :=
  match apply r s with
  | .ok r' => r'
  | .error _ => r

theorem run_cons (r : Request) (s : Step) (steps : List Step) :
    run r (s :: steps) = (apply r s).bind fun r' => run r' steps := rfl

theorem run_append (r : Request) (before after : List Step) :
    run r (before ++ after) = (run r before).bind fun r' => run r' after := by
  simp only [run, List.foldlM_append]
  rfl

theorem advance_of_ok {r r' : Request} {s : Step} (h : apply r s = .ok r') :
    advance r s = r' := by
  simp [advance, h]

theorem advance_of_error {r : Request} {s : Step} {f : Fault} (h : apply r s = .error f) :
    advance r s = r := by
  simp [advance, h]

end Step

end RestQuery
