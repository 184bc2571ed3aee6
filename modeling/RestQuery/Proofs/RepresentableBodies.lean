import RestQuery.Proofs.JsonData
import RestQuery.Proofs.ReplyQueue

/-!
# Bodies that JSON can represent

A body has a form in JSON if everything that stands in it has one, at any depth, and if the keys of
its maps can name members; records have rules of their own. Any other body is refused before its
request reaches the transport: `encodes_iff_representable`.
-/

namespace RestQuery

namespace Value

/-- The values that stand directly in a value: items and the values of entries, but not keys. -/
def parts : Value → List Value
  | .list xs | .tuple xs => xs
  | .map es => es.map (·.2)
  | _ => []

/-- A value that stands in another one, at any depth. -/
inductive Within (w : Value) : Value → Prop where
  | here : Within w w
  | inside {v x : Value} (member : x ∈ v.parts) (deeper : Within w x) : Within w v

def Recordless (v : Value) : Prop := ∀ fs, ¬ (Value.record fs).Within v

/-- The keys that can name a member of an object. -/
inductive IsName : Value → Prop where
  | text {v : Value} (text : v.IsText) : IsName v
  | int {n : Int} (short : n.natAbs < Nat.pow 10 Number.digitLimit) : IsName (.int n)
  | float (x : Float) : IsName (.float x)
  | bool (b : Bool) : IsName (.bool b)
  | null : IsName .null

/-- A value that has a form in JSON if what stands in it has one. -/
def HasForm : Value → Prop
  | .bytes _ | .set _ | .condition _ => False
  | .int n => n.natAbs < Nat.pow 10 Number.digitLimit
  | .map es => ∀ e ∈ es, e.1.IsName
  | _ => True

def Representable (v : Value) : Prop := ∀ w : Value, w.Within v → w.HasForm

/-! ### From the parts to the whole -/

variable {v : Value}

theorem representable_iff :
    v.Representable ↔ v.HasForm ∧ ∀ x ∈ v.parts, x.Representable := by
  constructor
  · intro all
    exact ⟨all v .here, fun x member w deeper => all w (.inside member deeper)⟩
  · rintro ⟨form, each⟩ w within
    cases within with
    | here => exact form
    | inside member deeper => exact each _ member w deeper

theorem Recordless.part (plain : v.Recordless) {x : Value} (member : x ∈ v.parts) : x.Recordless :=
  fun fs deeper => plain fs (.inside member deeper)

theorem recordless_of_parts (own : ∀ fs, Value.record fs ≠ v)
    (each : ∀ x ∈ v.parts, x.Recordless) : v.Recordless := by
  intro fs within
  cases within with
  | here => exact own fs rfl
  | inside member deeper => exact each _ member fs deeper

theorem recordless_of_no_parts (own : ∀ fs, Value.record fs ≠ v) (bare : v.parts = []) :
    v.Recordless := recordless_of_parts own (bare ▸ List.forall_mem_nil _)

theorem namesMember_iff (k : Value) : k.namesMember = true ↔ k.IsName := by
  constructor
  · intro named
    cases k with
    | text s => exact .text (.text s)
    | unpaired ps => exact .text (.unpaired ps)
    | int n => exact .int (Json.short_int_iff.mp named)
    | float x => exact .float x
    | bool b => exact .bool b
    | null => exact .null
    | _ => cases named
  · intro named
    cases named with
    | text text => cases text <;> rfl
    | int short => exact Json.short_int_iff.mpr short
    | float | bool | null => rfl

theorem printable_iff_of_no_parts (bare : v.parts = []) (form : v.printable = true ↔ v.HasForm) :
    v.printable = true ↔ v.Representable := by
  rw [form, representable_iff, bare]
  exact (and_iff_left (List.forall_mem_nil _)).symm

theorem representable_map {es : List (Value × Value)} :
    (Value.map es).Representable ↔ ∀ e ∈ es, e.1.IsName ∧ e.2.Representable := by
  rw [representable_iff, parts, List.forall_mem_map, HasForm, forall₂_and]

mutual

theorem printable_iff : ∀ v : Value, v.Recordless → (v.printable = true ↔ v.Representable)
  | .null, _ | .bool _, _ | .float _, _ | .text _, _ | .unpaired _, _ | .uuid _, _ | .decimal _, _
  | .date _, _ | .moment _, _ | .clock _, _ | .member _, _ =>
    printable_iff_of_no_parts rfl (iff_of_true rfl trivial)
  | .bytes _, _ | .set _, _ | .condition _, _ =>
    printable_iff_of_no_parts rfl (iff_of_false Bool.false_ne_true id)
  | .int _, _ => printable_iff_of_no_parts rfl Json.short_int_iff
  | .list xs, plain | .tuple xs, plain => by
    rw [printable, allPrintable_iff_representable xs fun x member => plain.part member,
      representable_iff]
    exact (and_iff_right trivial).symm
  | .map es, plain => by
    rw [printable, representable_map]
    exact entriesPrintable_iff_representable es fun e member => plain.part (List.mem_map_of_mem member)
  | .record fs, plain => absurd .here (plain fs)

theorem allPrintable_iff_representable : ∀ xs : List Value, (∀ x ∈ xs, x.Recordless) →
    (allPrintable xs = true ↔ ∀ x ∈ xs, x.Representable)
  | [], _ => iff_of_true rfl (List.forall_mem_nil _)
  | x :: xs, plain => by
    obtain ⟨first, rest⟩ := List.forall_mem_cons.mp plain
    rw [allPrintable, Bool.and_eq_true, printable_iff x first,
      allPrintable_iff_representable xs rest, List.forall_mem_cons]

theorem entriesPrintable_iff_representable : ∀ es : List (Value × Value),
    (∀ e ∈ es, e.2.Recordless) →
    (entriesPrintable es = true ↔ ∀ e ∈ es, e.1.IsName ∧ e.2.Representable)
  | [], _ => iff_of_true rfl (List.forall_mem_nil _)
  | (k, v) :: es, plain => by
    obtain ⟨first, rest⟩ := List.forall_mem_cons.mp plain
    rw [entriesPrintable, Bool.and_eq_true, Bool.and_eq_true, namesMember_iff, printable_iff v first,
      entriesPrintable_iff_representable es rest, List.forall_mem_cons, and_assoc]

end

end Value

/-! ### Bodies -/

section
variable {v : Value}

theorem print_ok_iff (plain : v.Recordless) : (∃ t, Json.print v = .ok t) ↔ v.Representable := by
  rw [← Value.printable_iff v plain, (Json.writes_print v).isOk_iff]

theorem print_error (plain : v.Recordless) (unfit : ¬ v.Representable) :
    ∃ f, Json.print v = .error f := by
  cases printed : Json.print v with
  | ok t => exact absurd ((print_ok_iff plain).mp ⟨t, printed⟩) unfit
  | error f => exact ⟨f, rfl⟩

theorem encodeBody_ok {t : String} (printed : Json.print v = .ok t) : encodeBody v = .ok t := by
  rw [encodeBody, printed]

theorem encodeBody_error {f : Fault} (failed : Json.print v = .error f) :
    encodeBody v = .error (.unencodable v.kindName f.message) := by
  rw [encodeBody, failed]

end

theorem Executor.execute_of_error {e : Executor} {r : Request} {relation : String} {f : Fault}
    (named : r.relation = .ok relation) (failed : r.prepare = .error f) :
    (e.execute r).1 = .error f ∧ (e.execute r).2.transport = e.transport := by
  refine ⟨?_, transport_execute_of_error failed⟩
  rw [execute, named]
  simp only [Exchange.run_of_error failed]

/-- A body without records is encoded exactly if it is representable, and refused with the kind of
the whole body if it is not. A request with such a body is prepared and handed to the transport in
the first case, and in the second it fails before that. -/
theorem encodes_iff_representable {v : Value} (plain : v.Recordless) :
    ((∃ t, encodeBody v = .ok t) ↔ v.Representable) ∧
    (¬ v.Representable → ∃ message, encodeBody v = .error (.unencodable v.kindName message)) ∧
    ∀ (r : Request) (url name : String), r.body = v → v ≠ .null → r.url = .text url →
      r.schema.display = .ok name →
      (v.Representable → ∃ p t, r.prepare = .ok p ∧ encodeBody v = .ok t ∧ p.body = some t ∧
        ∀ e : Executor, (e.execute r).2.transport.requests = e.transport.requests ++ [p]) ∧
      (¬ v.Representable → ∃ message, r.prepare = .error (.unencodable v.kindName message) ∧
        ∀ e : Executor, (e.execute r).1 = .error (.unencodable v.kindName message) ∧
          (e.execute r).2.transport = e.transport) := by
  have encoded (fit : v.Representable) : ∃ t, Json.print v = .ok t := (print_ok_iff plain).mpr fit
  refine ⟨⟨?_, ?_⟩, ?_, ?_⟩
  · rintro ⟨t, done⟩
    by_contra unfit
    obtain ⟨f, failed⟩ := print_error plain unfit
    rw [encodeBody_error failed] at done
    cases done
  · intro fit
    obtain ⟨t, printed⟩ := encoded fit
    exact ⟨t, encodeBody_ok printed⟩
  · intro unfit
    obtain ⟨f, failed⟩ := print_error plain unfit
    exact ⟨f.message, encodeBody_error failed⟩
  · rintro r url name rfl filled located shown
    have shown_url : r.url.display = .ok url := by
      rw [located]
      rfl
    obtain ⟨relation, named⟩ : ∃ relation, r.relation = .ok relation := by
      rw [Request.relation, located]
      exact ⟨_, rfl⟩
    constructor
    · intro fit
      obtain ⟨t, printed⟩ := encoded fit
      obtain ⟨p, prepared, sent⟩ := Request.prepare_of_print shown_url shown filled printed
      refine ⟨p, t, prepared, encodeBody_ok printed, sent, fun e => ?_⟩
      rw [(Executor.execute_of_ok named prepared).2, Transport.requests_send]
    · intro unfit
      obtain ⟨f, failed⟩ := print_error plain unfit
      have unprepared := Request.prepare_of_print_error shown_url filled failed
      exact ⟨f.message, unprepared, fun e => Executor.execute_of_error named unprepared⟩

open Value in
/-- A word is fine as a value and not as a key. -/
theorem encodes_iff_representable_word_as_key :
    let word : Value := .member (.returning .minimal)
    let good : Value := .map [(.float 0.5, .tuple [word])]
    let bad : Value := .list [.map [(word, .float 0.5)]]
    let r : Request := { url := .text "http://h/t", method := .post, body := bad }
    good.Recordless ∧ (∃ t, encodeBody good = .ok t) ∧ bad.Recordless ∧ ¬ bad.Representable ∧
      ∃ message, r.prepare = .error (.unencodable "list" message) ∧
        ∀ e : Executor, (e.execute r).2.transport = e.transport := by
  intro word good bad r
  have plain_good : good.Recordless :=
    recordless_of_parts nofun (List.forall_mem_singleton.mpr
      (recordless_of_parts nofun (List.forall_mem_singleton.mpr
        (recordless_of_no_parts nofun rfl))))
  have plain_bad : bad.Recordless :=
    recordless_of_parts nofun (List.forall_mem_singleton.mpr
      (recordless_of_parts nofun (List.forall_mem_singleton.mpr
        (recordless_of_no_parts nofun rfl))))
  have fit : good.Representable := (printable_iff good plain_good).mp rfl
  have unfit : ¬ bad.Representable := by
    intro all
    have named : Value.IsName (.member (.returning .minimal)) :=
      all _ (.inside List.mem_cons_self .here) _ List.mem_cons_self
    cases named with
    | text text => cases text
  have encoded := (encodes_iff_representable plain_good).1.mpr fit
  obtain ⟨_, _, carried⟩ := encodes_iff_representable plain_bad
  obtain ⟨message, failed, stopped⟩ := (carried r _ _ rfl Value.noConfusion rfl rfl).2 unfit
  exact ⟨plain_good, encoded, plain_bad, unfit, message, failed, fun e => (stopped e).2⟩

theorem within_list_int {n : Int} {w : Value} (within : w.Within (.list [.int n])) :
    w = .list [.int n] ∨ w = .int n := by
  cases within with
  | here => exact Or.inl rfl
  | inside member deeper =>
    obtain rfl := List.mem_singleton.mp member
    cases deeper with
    | here => exact Or.inr rfl
    | inside member _ => cases member

theorem encodeBody_of_long_number {n : Int} (long : Nat.pow 10 Number.digitLimit ≤ n.natAbs) :
    encodeBody (.list [.int n]) = .error (.unencodable "list" Fault.tooLongToWrite.message) := by
  have failed := Json.carried_int n
  rw [Json.Carried, Json.Limited, if_neg (mt Json.short_int_iff.mp (Nat.not_lt.mpr long))] at failed
  have printed : Json.print (.list [.int n]) = .error .tooLongToWrite := by
    rw [Json.print, Json.printAll, failed]
    rfl
  exact encodeBody_error printed

/-- Whole numbers have a form in JSON only up to the limit on their digits. -/
theorem long_number_not_encoded :
    let v : Value := .list [.int (Nat.pow 10 Number.digitLimit)]
    v.Recordless ∧ (∀ bs, ¬ (Value.bytes bs).Within v) ∧ (∀ xs, ¬ (Value.set xs).Within v) ∧
      (∀ c, ¬ (Value.condition c).Within v) ∧ (∀ es, ¬ (Value.map es).Within v) ∧
      encodeBody v = .error (.unencodable "list" Fault.tooLongToWrite.message) := by
  intro v
  have other {w : Value} (no_list : ∀ xs, w ≠ .list xs) (no_number : ∀ n, w ≠ .int n) :
      ¬ w.Within v := fun within => (within_list_int within).elim (no_list _) (no_number _)
  refine ⟨fun fs => other nofun nofun, fun bs => other nofun nofun, fun xs => other nofun nofun,
    fun c => other nofun nofun, fun es => other nofun nofun, ?_⟩
  exact encodeBody_of_long_number (Nat.le_of_eq (Int.natAbs_natCast _).symm)

end RestQuery
