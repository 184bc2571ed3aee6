import RestQuery.Proofs.ConditionEncoding
import RestQuery.Proofs.JsonRoundTrip

/-!
# What can be written

The values that have a text, as JSON, as an operand and on their own, and the conditions that have
one in the nested syntax. To write anything else is a fault, though never a violation of a contract.
What has a text can also be shown in a message: `Value.legible_of_writable`.
-/

namespace RestQuery

open Text

/-- There is a result exactly if there can be one, and a fault is foreign to the contracts. -/
def Writes {α : Type} (able : Bool) : Outcome α → Prop
  | .ok _ => able = true
  | .error f => able = false ∧ f.isContractViolation = false

namespace Writes

variable {α β : Type} {able later : Bool} {x : Outcome α}

theorem isOk_iff (writes : Writes able x) : (∃ a, x = .ok a) ↔ able = true := by
  cases x with
  | ok a => exact ⟨fun _ => writes, fun _ => ⟨a, rfl⟩⟩
  | error f => simp [show able = false from writes.1]

theorem bind {f : α → Outcome β} (first : Writes able x) (second : ∀ a, Writes later (f a)) :
    Writes (able && later) (x >>= f) := by
  cases x with
  | ok a =>
    rw [show able = true from first, Bool.true_and]
    exact second a
  | error fault =>
    rw [show able = false from first.1, Bool.false_and]
    exact ⟨rfl, first.2⟩

theorem map_iff {f : α → β} : Writes able (x >>= fun a => pure (f a)) ↔ Writes able x := by
  cases x with
  | ok a => exact Iff.rfl
  | error fault => exact Iff.rfl

theorem map (f : α → β) (writes : Writes able x) : Writes able (x >>= fun a => pure (f a)) :=
  map_iff.mpr writes

end Writes

/-- No fault violates a contract. -/
def Foreign {α : Type} (x : Outcome α) : Prop := Writes x.isOk x

namespace Foreign

variable {α β : Type} {x : Outcome α}

theorem of_writes {able : Bool} (writes : Writes able x) : Foreign x := by
  cases x with
  | ok a => rfl
  | error f => exact ⟨rfl, writes.2⟩

theorem bind {f : α → Outcome β} (first : Foreign x) (second : ∀ a, Foreign (f a)) :
    Foreign (x >>= f) := by
  cases x with
  | ok a => exact second a
  | error f => exact first

theorem map (f : α → β) (foreign : Foreign x) : Foreign (x >>= fun a => pure (f a)) :=
  foreign.bind fun _ => rfl

end Foreign

/-! ### Operands and conditions -/

/-- A condition that is a text where it stands: one that the caller encoded has to be one already. -/
def Condition.isTextual : Condition → Bool
  | .raw (.text _) => true
  | .raw _ => false
  | _ => true

abbrev MapTest := List (Value × Value) → Bool

mutual

/-- A value that has a text of its own, where `m` tells which maps have one. -/
def Value.showableBy (m : MapTest) : Value → Bool
  | .condition c => c.isTextual && c.writableBy m
  | v => v.legible

/-- A value that can be the operand of a filter. -/
def Value.writableBy (m : MapTest) : Value → Bool
  | .map es => m es
  | .list xs | .tuple xs => Value.allWritableBy m xs
  | .condition c => c.isTextual && c.writableBy m
  | v => v.legible

def Value.allWritableBy (m : MapTest) : List Value → Bool
  | [] => true
  | x :: xs => x.writableBy m && Value.allWritableBy m xs

/-- A condition that can stand inside a longer text. -/
def Condition.writableBy (m : MapTest) : Condition → Bool
  | .comparison _ _ v => v.writableBy m
  | .quantified _ _ vs _ => Value.allWritableBy m vs
  | .textSearch _ _ query language =>
    if language.truth then language.showableBy m && query.showableBy m else query.writableBy m
  | .between _ low high => low.writableBy m && high.writableBy m
  | .not c => c.writableBy m
  | .and cs | .or cs => Condition.allWritableBy m cs
  | .raw v => v.showableBy m

/-- Conditions that can be joined to a group. -/
def Condition.allWritableBy (m : MapTest) : List Condition → Bool
  | [] => true
  | c :: cs => (c.isTextual && c.writableBy m) && Condition.allWritableBy m cs

end

section Writing

variable {w : MapWriter} {m : MapTest}

theorem Clause.joinable_pieces_cons {c : Clause} (own : ∀ kind shown, c ≠ .foreign kind shown)
    (cs : List Clause) (index : Nat) :
    pieces (c :: cs) >>= joinable index =
      c.shown >>= fun s => (pieces cs >>= joinable (index + 1)) >>= fun ss => pure (s :: ss) := by
  cases c with
  | foreign kind shown => exact absurd rfl (own kind shown)
  | _ =>
    simp only [pieces, bind_assoc, pure_bind]
    rfl

theorem Condition.clauseBy_own {c : Condition} (textual : c.isTextual = true) :
    ∀ kind shown, c.clauseBy w ≠ .foreign kind shown := by
  intro kind shown
  cases c with
  | comparison op column v =>
    unfold clauseBy
    split <;> nofun
  | textSearch op column query language =>
    unfold clauseBy
    split <;> nofun
  | raw v =>
    cases v with
    | text s => nofun
    | _ => cases textual
  | _ => nofun

/-- Only a text is an encoding. -/
theorem Condition.writes_encode {c : Condition}
    (shown : Writes (c.writableBy m) (c.clauseBy w).shown) :
    Writes (c.isTextual && c.writableBy m) (c.clauseBy w).encode := by
  cases textual : c.isTextual with
  | false =>
    cases c with
    | raw v =>
      cases v with
      | text s => cases textual
      | _ => exact ⟨rfl, rfl⟩
    | _ => cases textual
  | true =>
    have own := Condition.clauseBy_own (w := w) textual
    unfold Clause.encode
    split
    · exact absurd ‹_› (own _ _)
    · exact shown

theorem Condition.writes_joined_cons {c : Condition} {cs : List Condition}
    (first : Writes (c.writableBy m) (c.clauseBy w).shown)
    (rest : ∀ index, Writes (allWritableBy m cs)
      (Clause.pieces (clausesBy w cs) >>= Clause.joinable index)) (index : Nat) :
    Writes (allWritableBy m (c :: cs))
      (Clause.pieces (clausesBy w (c :: cs)) >>= Clause.joinable index) := by
  cases textual : c.isTextual with
  | false =>
    have unfit : allWritableBy m (c :: cs) = false := by simp [allWritableBy, textual]
    obtain ⟨kind, shown, foreign⟩ : ∃ kind shown, c.clauseBy w = .foreign kind shown := by
      cases c with
      | raw v =>
        cases v with
        | text s => cases textual
        | _ => exact ⟨_, _, rfl⟩
      | _ => cases textual
    -- The faults of the clauses that follow come before that of this one.
    have later := rest 0
    rw [unfit, clausesBy, foreign, Clause.pieces]
    cases made : Clause.pieces (clausesBy w cs) with
    | ok parts => exact ⟨rfl, rfl⟩
    | error f =>
      rw [made] at later
      exact ⟨rfl, later.2⟩
  | true =>
    rw [clausesBy, Clause.joinable_pieces_cons (clauseBy_own textual), allWritableBy, textual,
      Bool.true_and]
    exact first.bind fun s => (rest (index + 1)).map (s :: ·)

theorem Condition.writes_group {cs : List Condition}
    (joined : Writes (allWritableBy m cs) (Clause.pieces (clausesBy w cs) >>= Clause.joinable 0))
    (shape : List String → String) :
    Writes (allWritableBy m cs) (do
      return shape (← Clause.joinable 0 (← Clause.pieces (clausesBy w cs)))) := by
  have made := joined.map shape
  rwa [bind_assoc] at made

theorem Value.writes_ownText (v : Value) : Writes v.legible v.ownText := by
  unfold ownText
  split
  · next legible => exact legible
  · next long => exact ⟨Bool.not_eq_true _ ▸ long, rfl⟩

mutual

theorem Value.writes_displayBy (writer : ∀ es, Writes (m es) (w es)) :
    ∀ v : Value, Writes (v.showableBy m) (v.displayBy w)
  | .condition c => Condition.writes_encode (Condition.writes_shown writer c)
  | .null | .bool _ | .int _ | .float _ | .text _ | .unpaired _ | .bytes _ | .list _ | .tuple _
  | .set _ | .map _ | .uuid _ | .decimal _ | .date _ | .moment _ | .clock _ | .member _
  | .record _ => Value.writes_ownText _

theorem Value.writes_operandBy (writer : ∀ es, Writes (m es) (w es)) :
    ∀ v : Value, Writes (v.writableBy m) (v.operandBy w)
  | .map es => writer es
  | .list xs | .tuple xs => (Value.writes_operandsBy writer xs).map fun texts =>
      "[" ++ commaJoin texts ++ "]"
  | .condition c => Condition.writes_encode (Condition.writes_shown writer c)
  | .null | .bool _ | .date _ | .moment _ | .clock _ | .member _ => rfl
  | .int _ | .float _ | .text _ | .unpaired _ | .bytes _ | .set _ | .uuid _ | .decimal _
  | .record _ => Value.writes_ownText _

theorem Value.writes_operandsBy (writer : ∀ es, Writes (m es) (w es)) :
    ∀ xs : List Value, Writes (Value.allWritableBy m xs) (Value.operandsBy w xs)
  | [] => rfl
  | x :: xs => (Value.writes_operandBy writer x).bind fun s =>
      (Value.writes_operandsBy writer xs).map (s :: ·)

theorem Condition.writes_shown (writer : ∀ es, Writes (m es) (w es)) :
    ∀ c : Condition, Writes (c.writableBy m) (c.clauseBy w).shown
  | .comparison op column v => by
    unfold Condition.clauseBy
    split
    · rename_i xs
      exact ((Value.writes_operandsBy writer xs).map _).map _
    · exact ((Value.writes_operandBy writer v).map _).map _
  | .quantified op column vs q => ((Value.writes_operandsBy writer vs).map _).map _
  | .textSearch op column query language => by
    unfold Condition.clauseBy Condition.writableBy
    split
    · exact ((Value.writes_displayBy writer language).bind fun _ =>
        (Value.writes_displayBy writer query).map _).map _
    · exact ((Value.writes_operandBy writer query).map _).map _
  | .between column low high => ((Value.writes_operandBy writer low).bind fun _ =>
      (Value.writes_operandBy writer high).map _).map _
  | .not c => (Condition.writes_shown writer c).map _
  | .and cs => Condition.writes_group (Condition.writes_joined writer cs 0) _
  | .or cs => Condition.writes_group (Condition.writes_joined writer cs 0) _
  | .raw v => by
    have shown := Value.writes_displayBy writer v
    cases v with
    | text s => rfl
    | _ => exact shown

theorem Condition.writes_joined (writer : ∀ es, Writes (m es) (w es)) :
    ∀ (cs : List Condition) (index : Nat), Writes (Condition.allWritableBy m cs)
      (Clause.pieces (Condition.clausesBy w cs) >>= Clause.joinable index)
  | [], _ => rfl
  | c :: cs, index => Condition.writes_joined_cons (Condition.writes_shown writer c)
      (Condition.writes_joined writer cs) index

end

/-! ### What is written can be shown -/

theorem Value.allLegible_iff {xs : List Value} :
    Value.allLegible xs = true ↔ ∀ x ∈ xs, x.legible = true := by
  induction xs with
  | nil => simp [Value.allLegible]
  | cons x xs ih => rw [Value.allLegible, Bool.and_eq_true, ih, List.forall_mem_cons]

theorem Condition.allLegible_iff {cs : List Condition} :
    Condition.allLegible cs = true ↔ ∀ c ∈ cs, c.legible = true := by
  induction cs with
  | nil => simp [Condition.allLegible]
  | cons c cs ih => rw [Condition.allLegible, Bool.and_eq_true, ih, List.forall_mem_cons]

theorem Value.legible_of_truth {v : Value} (missing : v.truth = false) : v.legible = true := by
  cases v with
  | int n =>
    have zero : n = 0 := by simpa [truth] using missing
    subst zero
    decide
  | list xs | tuple xs | set xs | map xs =>
    have empty : xs = [] := by simpa [truth] using missing
    subst empty
    rfl
  | record _ | condition _ => cases missing
  | _ => rfl

mutual

theorem Value.legible_of_showableBy (maps : ∀ es, m es = true → Value.entriesLegible es = true) :
    ∀ v : Value, v.showableBy m = true → v.legible = true
  | .condition c, able => Condition.legible_of_writableBy maps c (Bool.and_eq_true_iff.mp able).2
  | .null, able | .bool _, able | .int _, able | .float _, able | .text _, able
  | .unpaired _, able | .bytes _, able | .list _, able | .tuple _, able | .set _, able
  | .map _, able | .uuid _, able | .decimal _, able | .date _, able | .moment _, able
  | .clock _, able | .member _, able | .record _, able => able

theorem Value.legible_of_writableBy (maps : ∀ es, m es = true → Value.entriesLegible es = true) :
    ∀ v : Value, v.writableBy m = true → v.legible = true
  | .map es, able => maps es able
  | .list xs, able | .tuple xs, able => Value.allLegible_of_allWritableBy maps xs able
  | .condition c, able => Condition.legible_of_writableBy maps c (Bool.and_eq_true_iff.mp able).2
  | .null, able | .bool _, able | .int _, able | .float _, able | .text _, able
  | .unpaired _, able | .bytes _, able | .set _, able | .uuid _, able | .decimal _, able
  | .date _, able | .moment _, able | .clock _, able | .member _, able | .record _, able => able

theorem Value.allLegible_of_allWritableBy
    (maps : ∀ es, m es = true → Value.entriesLegible es = true) :
    ∀ xs : List Value, Value.allWritableBy m xs = true → Value.allLegible xs = true
  | [], _ => rfl
  | x :: xs, able =>
    have ⟨first, rest⟩ := Bool.and_eq_true_iff.mp able
    Bool.and_eq_true_iff.mpr ⟨Value.legible_of_writableBy maps x first,
      Value.allLegible_of_allWritableBy maps xs rest⟩

theorem Condition.legible_of_writableBy
    (maps : ∀ es, m es = true → Value.entriesLegible es = true) :
    ∀ c : Condition, c.writableBy m = true → c.legible = true
  | .comparison _ _ v, able => Value.legible_of_writableBy maps v able
  | .quantified _ _ vs _, able => Value.allLegible_of_allWritableBy maps vs able
  | .textSearch _ _ query language, able => by
    unfold Condition.writableBy at able
    refine Bool.and_eq_true_iff.mpr ?_
    split at able
    · obtain ⟨tongue, sought⟩ := Bool.and_eq_true_iff.mp able
      exact ⟨Value.legible_of_showableBy maps query sought,
        Value.legible_of_showableBy maps language tongue⟩
    · next missing =>
      exact ⟨Value.legible_of_writableBy maps query able,
        Value.legible_of_truth (Bool.not_eq_true _ ▸ missing)⟩
  | .between _ low high, able =>
    have ⟨first, second⟩ := Bool.and_eq_true_iff.mp able
    Bool.and_eq_true_iff.mpr ⟨Value.legible_of_writableBy maps low first,
      Value.legible_of_writableBy maps high second⟩
  | .not c, able => Condition.legible_of_writableBy maps c able
  | .and cs, able | .or cs, able => Condition.allLegible_of_allWritableBy maps cs able
  | .raw v, able => Value.legible_of_showableBy maps v able

theorem Condition.allLegible_of_allWritableBy
    (maps : ∀ es, m es = true → Value.entriesLegible es = true) :
    ∀ cs : List Condition, Condition.allWritableBy m cs = true → Condition.allLegible cs = true
  | [], _ => rfl
  | c :: cs, able =>
    have ⟨first, rest⟩ := Bool.and_eq_true_iff.mp able
    Bool.and_eq_true_iff.mpr
      ⟨Condition.legible_of_writableBy maps c (Bool.and_eq_true_iff.mp first).2,
        Condition.allLegible_of_allWritableBy maps cs rest⟩

end

end Writing

/-! ### JSON -/

/-- A value that can name a member of an object. -/
def Value.namesMember : Value → Bool
  | .text _ | .unpaired _ | .null | .bool _ | .float _ => true
  | .int n => (Value.int n).short
  | _ => false

mutual

/-- A value that has a form in JSON. -/
def Value.printable : Value → Bool
  | .int n => (Value.int n).short
  | .bytes _ | .set _ | .condition _ => false
  | .list xs | .tuple xs => Value.allPrintable xs
  | .map es => Value.entriesPrintable es
  | .record fs => (Json.record fs).isOk
  | _ => true

def Value.allPrintable : List Value → Bool
  | [] => true
  | x :: xs => x.printable && Value.allPrintable xs

def Value.entriesPrintable : List (Value × Value) → Bool
  | [] => true
  | (k, v) :: es => k.namesMember && (v.printable && Value.entriesPrintable es)

end

namespace Json

theorem writes_digits (n : Int) : Writes (Value.int n).short (Value.digitsOf n) := by
  unfold Value.digitsOf
  split
  · next fits => exact decide_eq_true fits
  · next long => exact ⟨decide_eq_false long, rfl⟩

theorem writes_memberName (v : Value) : Writes v.namesMember (memberName v) := by
  cases v with
  | int n => exact (writes_digits n).map string
  | text _ | unpaired _ | null | bool _ | float _ => rfl
  | _ => exact ⟨rfl, rfl⟩

/-! ### Records -/

theorem foreign_bytesText (bs : List UInt8) : Foreign (bytesText bs) := by
  unfold bytesText
  split
  · rfl
  · exact ⟨rfl, rfl⟩

theorem foreign_checkDepth (depth : Nat) : Foreign (checkDepth depth) := by
  unfold checkDepth
  split
  · rfl
  · exact ⟨rfl, rfl⟩

theorem foreign_leaf (depth : Nat) (text : String) : Foreign (leaf depth text) :=
  (foreign_checkDepth depth).map fun _ => text

theorem foreign_within {α : Type} (depth : Nat) {x : Outcome α} (inside : Foreign x) :
    Foreign (checkDepth depth >>= fun _ => x) :=
  (foreign_checkDepth depth).bind fun _ => inside

theorem writes_noMaps (es : List (Value × Value)) : Writes false (noMaps es) := ⟨rfl, rfl⟩

mutual

theorem foreign_recordKey : ∀ v : Value, Foreign (recordKey v)
  | .text _ | .unpaired _ | .null | .bool _ | .float _ | .uuid _ | .decimal _ | .date _
  | .moment _ | .clock _ | .member _ => rfl
  | .int n => .of_writes (writes_digits n)
  | .bytes bs => foreign_bytesText bs
  | .tuple xs => (foreign_recordKeys xs).map commaJoin
  | .condition c => .of_writes (Condition.writes_encode
      (Condition.writes_shown (m := fun _ => false) writes_noMaps c))
  | .list _ | .set _ | .map _ | .record _ => ⟨rfl, rfl⟩

theorem foreign_recordKeys : ∀ xs : List Value, Foreign (recordKeys xs)
  | [] => rfl
  | x :: xs => (foreign_recordKey x).bind fun s => (foreign_recordKeys xs).map (s :: ·)

end

mutual

theorem foreign_inner (depth : Nat) : ∀ v : Value, Foreign (inner depth v)
  | .null | .bool _ | .int _ | .float _ | .text _ | .unpaired _ | .uuid _ | .decimal _ | .date _
  | .moment _ | .clock _ => foreign_leaf depth _
  | .member _ => foreign_leaf (depth + 1) _
  | .bytes bs => foreign_within depth ((foreign_bytesText bs).map string)
  | .list xs | .tuple xs | .set xs => foreign_within depth ((foreign_innerAll (depth + 1) xs).map array)
  | .map es => foreign_within depth ((foreign_innerEntries (depth + 1) es).map _)
  | .record fs => foreign_within depth ((foreign_fields (depth + 1) fs).map object)
  | .condition c => foreign_within depth ((foreign_parts (depth + 1) c).map object)

theorem foreign_innerAll (depth : Nat) : ∀ xs : List Value, Foreign (innerAll depth xs)
  | [] => rfl
  | x :: xs => (foreign_inner depth x).bind fun s => (foreign_innerAll depth xs).map (s :: ·)

theorem foreign_innerEntries (depth : Nat) :
    ∀ es : List (Value × Value), Foreign (innerEntries depth es)
  | [] => rfl
  | (k, v) :: es => (foreign_recordKey k).bind fun name => (foreign_inner depth v).bind fun s =>
      (foreign_innerEntries depth es).map ((name, s) :: ·)

theorem foreign_fields (depth : Nat) : ∀ fs : List (String × Value), Foreign (fields depth fs)
  | [] => rfl
  | (k, v) :: fs => (foreign_inner depth v).bind fun s => (foreign_fields depth fs).map ((k, s) :: ·)

theorem foreign_parts (depth : Nat) : ∀ c : Condition, Foreign (parts depth c)
  | .comparison _ _ v => (foreign_leaf (depth + 1) _).bind fun _ => (foreign_inner depth v).map _
  | .quantified _ _ vs _ => (foreign_leaf (depth + 1) _).bind fun _ =>
      (foreign_innerAll (depth + 1) vs).bind fun _ => (foreign_leaf (depth + 1) _).map _
  | .textSearch _ _ query language => (foreign_leaf (depth + 1) _).bind fun _ =>
      (foreign_inner depth query).bind fun _ => (foreign_inner depth language).map _
  | .between _ low high => (foreign_leaf depth _).bind fun _ =>
      (foreign_inner depth low).bind fun _ => (foreign_inner depth high).map _
  | .not c => foreign_within depth ((foreign_parts (depth + 1) c).map _)
  | .and cs | .or cs => foreign_within depth ((foreign_partsAll (depth + 1) cs).map _)
  | .raw v => (foreign_inner depth v).map _

theorem foreign_partsAll (depth : Nat) : ∀ cs : List Condition, Foreign (partsAll depth cs)
  | [] => rfl
  | c :: cs => foreign_within depth ((foreign_parts (depth + 1) c).bind fun _ =>
      (foreign_partsAll depth cs).map _)

end

theorem foreign_record (fs : List (String × Value)) : Foreign (record fs) := by
  refine (foreign_fields 0 fs).bind fun members => ?_
  split
  · rfl
  · exact ⟨rfl, rfl⟩

theorem legible_of_record {fs : List (String × Value)} (written : (record fs).isOk = true) :
    Value.fieldsLegible fs = true := by
  obtain ⟨text, written⟩ := isOk_iff.mp written
  obtain ⟨members, _, gated⟩ := bind_ok.mp written
  exact (accept_ok.mp gated).1

/-! ### Values -/

mutual

theorem writes_print : ∀ v : Value, Writes v.printable (print v)
  | .null | .bool _ | .float _ | .text _ | .unpaired _ | .uuid _ | .decimal _ | .date _
  | .moment _ | .clock _ | .member _ => rfl
  | .bytes _ | .set _ | .condition _ => ⟨rfl, rfl⟩
  | .int n => writes_digits n
  | .list xs | .tuple xs => (writes_printAll xs).map array
  | .map es => (writes_printEntries es).map braces
  | .record fs => foreign_record fs

theorem writes_printAll : ∀ xs : List Value, Writes (Value.allPrintable xs) (printAll xs)
  | [] => rfl
  | x :: xs => (writes_print x).bind fun s => (writes_printAll xs).map (s :: ·)

theorem writes_printEntries :
    ∀ es : List (Value × Value), Writes (Value.entriesPrintable es) (printEntries es)
  | [] => rfl
  | (k, v) :: es =>
    (writes_memberName k).bind fun name => (writes_print v).bind fun s =>
      (writes_printEntries es).map ((name, s) :: ·)

end

theorem writes_printMap (es : List (Value × Value)) :
    Writes (Value.entriesPrintable es) (printMap es) :=
  writes_print (.map es)

theorem legible_of_namesMember {v : Value} (named : v.namesMember = true) : v.legible = true := by
  cases v with
  | int _ => exact named
  | text _ | unpaired _ | null | bool _ | float _ => rfl
  | _ => cases named

mutual

theorem legible_of_printable : ∀ v : Value, v.printable = true → v.legible = true
  | .int _, able => able
  | .null, _ | .bool _, _ | .float _, _ | .text _, _ | .unpaired _, _ | .uuid _, _ | .decimal _, _
  | .date _, _ | .moment _, _ | .clock _, _ | .member _, _ => rfl
  | .list xs, able | .tuple xs, able => legible_of_allPrintable xs able
  | .map es, able => legible_of_entriesPrintable es able
  | .record _, able => legible_of_record able

theorem legible_of_allPrintable :
    ∀ xs : List Value, Value.allPrintable xs = true → Value.allLegible xs = true
  | [], _ => rfl
  | x :: xs, able =>
    have ⟨first, rest⟩ := Bool.and_eq_true_iff.mp able
    Bool.and_eq_true_iff.mpr ⟨legible_of_printable x first, legible_of_allPrintable xs rest⟩

theorem legible_of_entriesPrintable :
    ∀ es : List (Value × Value), Value.entriesPrintable es = true → Value.entriesLegible es = true
  | [], _ => rfl
  | (_, v) :: es, able =>
    have ⟨name, rest⟩ := Bool.and_eq_true_iff.mp able
    have ⟨first, others⟩ := Bool.and_eq_true_iff.mp rest
    Bool.and_eq_true_iff.mpr ⟨legible_of_namesMember name,
      Bool.and_eq_true_iff.mpr ⟨legible_of_printable v first, legible_of_entriesPrintable es others⟩⟩

end

end Json

/-! ### Maps as JSON -/

namespace Value

def showable (v : Value) : Bool := v.showableBy entriesPrintable

def writable (v : Value) : Bool := v.writableBy entriesPrintable

def allWritable (vs : List Value) : Bool := allWritableBy entriesPrintable vs

theorem writes_display (v : Value) : Writes v.showable v.display :=
  writes_displayBy Json.writes_printMap v

theorem writes_operandText (v : Value) : Writes v.writable v.operandText :=
  writes_operandBy Json.writes_printMap v

theorem writes_operandTexts (vs : List Value) : Writes (allWritable vs) (operandTexts vs) :=
  writes_operandsBy Json.writes_printMap vs

theorem legible_of_showable {v : Value} (able : v.showable = true) : v.legible = true :=
  legible_of_showableBy Json.legible_of_entriesPrintable v able

theorem legible_of_writable {v : Value} (able : v.writable = true) : v.legible = true :=
  legible_of_writableBy Json.legible_of_entriesPrintable v able

end Value

namespace Condition

def writable (c : Condition) : Bool := c.writableBy Value.entriesPrintable

def allWritable (cs : List Condition) : Bool := allWritableBy Value.entriesPrintable cs

theorem writes_group_clauses (cs : List Condition) :
    Writes (allWritable cs) (Clause.group (clauses cs)) :=
  writes_group (writes_joined Json.writes_printMap cs 0) _

end Condition

end RestQuery
