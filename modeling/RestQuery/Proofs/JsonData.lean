import Mathlib.Data.List.Nodup
import RestQuery.Proofs.WritableValues

/-!
# What a document holds

Whatever document is read, its maps have texts for names, none of them twice, and its whole numbers
are short enough to be written: `isJson_of_parse`. So all that is read can be written again.
-/

namespace RestQuery

open Text Json

/-- The values that are read from documents. -/
inductive Value.IsJson : Value → Prop where
  | null : IsJson .null
  | bool (b : Bool) : IsJson (.bool b)
  | int {n : Int} (short : (Value.int n).short = true) : IsJson (.int n)
  | float (x : Float) : IsJson (.float x)
  | text {v : Value} (text : v.IsText) : IsJson v
  | list {xs : List Value} (items : ∀ x ∈ xs, IsJson x) : IsJson (.list xs)
  | map {es : List (Value × Value)} (names : ∀ e ∈ es, e.1.IsText)
      (distinct : (es.map (·.1)).Nodup) (values : ∀ e ∈ es, IsJson e.2) : IsJson (.map es)

namespace Value

/-! ### Maps -/

namespace IsJson

variable {es : List (Value × Value)}

theorem names (map : (Value.map es).IsJson) : ∀ e ∈ es, e.1.IsText := by
  cases map with
  | text text => cases text
  | map names _ _ => exact names

theorem distinct (map : (Value.map es).IsJson) : (es.map (·.1)).Nodup := by
  cases map with
  | text text => cases text
  | map _ distinct _ => exact distinct

theorem values (map : (Value.map es).IsJson) : ∀ e ∈ es, e.2.IsJson := by
  cases map with
  | text text => cases text
  | map _ _ values => exact values

end IsJson

theorem finds_self {k : Value} (text : k.IsText) : k.finds k = true := by
  cases text with
  | text s => rw [finds_text, beq_self_eq_true]
  | unpaired ps =>
    have digests : (Digest.ofPoints ps).same (Digest.ofPoints ps) = true := Digest.same_ofBytes _
    simp [finds, same, digest, digests]

/-- A name that is there keeps its place, and a new one comes last. -/
theorem names_insertEntry {k v : Value} {es : List (Value × Value)} (named : k.IsText)
    (names : ∀ e ∈ es, e.1.IsText) :
    (insertEntry k v es).map (·.1) = es.map (·.1) ∨
      k ∉ es.map (·.1) ∧ (insertEntry k v es).map (·.1) = es.map (·.1) ++ [k] := by
  induction es with
  | nil => exact Or.inr ⟨List.not_mem_nil, rfl⟩
  | cons e es ih =>
    obtain ⟨k', v'⟩ := e
    obtain ⟨first, later⟩ := List.forall_mem_cons.mp names
    by_cases same : k' = k
    · subst same
      exact Or.inl (by simp [insertEntry, finds_self first])
    · have apart : k'.finds k = false := finds_of_ne first named same
      have behind : insertEntry k v ((k', v') :: es) = (k', v') :: insertEntry k v es := by
        simp [insertEntry, apart]
      rw [behind, List.map_cons, List.map_cons]
      rcases ih later with kept | ⟨fresh, grown⟩
      · exact Or.inl (congrArg (k' :: ·) kept)
      · refine Or.inr ⟨?_, congrArg (k' :: ·) grown⟩
        rw [List.mem_cons, not_or]
        exact ⟨fun eq => same eq.symm, fresh⟩

theorem value_of_mem_insertEntry {k v : Value} {es : List (Value × Value)} {e : Value × Value}
    (member : e ∈ insertEntry k v es) : e.2 = v ∨ ∃ e' ∈ es, e.2 = e'.2 := by
  induction es with
  | nil =>
    rw [insertEntry, List.mem_singleton] at member
    exact Or.inl (congrArg Prod.snd member)
  | cons e' es ih =>
    unfold insertEntry at member
    split at member
    · rcases List.mem_cons.mp member with rfl | later
      · exact Or.inl rfl
      · exact Or.inr ⟨e, List.mem_cons_of_mem _ later, rfl⟩
    · rcases List.mem_cons.mp member with rfl | later
      · exact Or.inr ⟨_, List.mem_cons_self, rfl⟩
      · rcases ih later with new | ⟨e'', old, same⟩
        · exact Or.inl new
        · exact Or.inr ⟨e'', List.mem_cons_of_mem _ old, same⟩

theorem isJson_insertEntry {k v : Value} {es : List (Value × Value)} (named : k.IsText)
    (value : v.IsJson) (map : (Value.map es).IsJson) : (Value.map (insertEntry k v es)).IsJson := by
  have old : ∀ k' ∈ es.map (·.1), k'.IsText := List.forall_mem_map.mpr map.names
  have after : (∀ k' ∈ (insertEntry k v es).map (·.1), k'.IsText) ∧
      ((insertEntry k v es).map (·.1)).Nodup := by
    rcases names_insertEntry (v := v) named map.names with kept | ⟨fresh, grown⟩
    · rw [kept]
      exact ⟨old, map.distinct⟩
    · rw [grown]
      refine ⟨List.forall_mem_append.mpr ⟨old, List.forall_mem_singleton.mpr named⟩, ?_⟩
      rw [← List.concat_eq_append]
      exact map.distinct.concat fresh
  refine .map (List.forall_mem_map.mp after.1) after.2 ?_
  intro e member
  rcases value_of_mem_insertEntry member with same | ⟨e', old, same⟩
  · exact same ▸ value
  · exact same ▸ map.values e' old

theorem isJson_mapOf {ms : List (Value × Value)} (members : ∀ m ∈ ms, m.1.IsText ∧ m.2.IsJson) :
    (Value.map (mapOf ms)).IsJson := by
  have kept : ∀ (ms es : List (Value × Value)), (∀ m ∈ ms, m.1.IsText ∧ m.2.IsJson) →
      (Value.map es).IsJson →
      (Value.map (ms.foldl (fun es e => insertEntry e.1 e.2 es) es)).IsJson := by
    intro ms
    induction ms with
    | nil => exact fun _ _ map => map
    | cons m ms ih =>
      intro es members map
      obtain ⟨⟨named, value⟩, later⟩ := List.forall_mem_cons.mp members
      exact ih _ later (isJson_insertEntry named value map)
  exact kept ms [] members (.map (List.forall_mem_nil _) List.nodup_nil (List.forall_mem_nil _))

end Value

namespace Json

/-! ### Numbers and words -/

theorem digitsValue_lt {ds : List Char} (digits : ∀ c ∈ ds, isAsciiDigit c = true) {limit : Nat}
    (fits : ds.length ≤ limit) : Number.digitsValue ds < Nat.pow 10 limit := by
  have bounded : ∀ (ds : List Char) (n : Nat), (∀ c ∈ ds, isAsciiDigit c = true) →
      ds.foldl (fun n c => n * 10 + (c.toNat - 48)) n < (n + 1) * 10 ^ ds.length := by
    intro ds
    induction ds with
    | nil => intro n _; simp
    | cons c ds ih =>
      intro n digits
      obtain ⟨digit, later⟩ := List.forall_mem_cons.mp digits
      have small : c.toNat ≤ 57 := by
        simp only [isAsciiDigit, Bool.and_eq_true, decide_eq_true_eq, Char.le_def,
          UInt32.le_iff_toNat_le] at digit
        exact digit.2
      have grown : n * 10 + (c.toNat - 48) + 1 ≤ (n + 1) * 10 := by omega
      calc ds.foldl (fun n c => n * 10 + (c.toNat - 48)) (n * 10 + (c.toNat - 48))
          < (n * 10 + (c.toNat - 48) + 1) * 10 ^ ds.length := ih _ later
        _ ≤ (n + 1) * 10 * 10 ^ ds.length := Nat.mul_le_mul_right _ grown
        _ = (n + 1) * 10 ^ (ds.length + 1) := by rw [Nat.pow_succ, Nat.mul_comm (10 ^ _), Nat.mul_assoc]
  have bound := bounded ds 0 digits
  rw [Nat.zero_add, Nat.one_mul] at bound
  exact Nat.lt_of_lt_of_le bound (Nat.pow_le_pow_right (by decide) fits)

theorem isAsciiDigit_of_mem_wholePart (s : List Char) :
    ∀ c ∈ (wholePart s).1, isAsciiDigit c = true := by
  unfold wholePart
  split
  · exact List.forall_mem_singleton.mpr (by decide)
  · exact List.all_eq_true.mp List.all_takeWhile

theorem short_of_digits {ds : List Char} (digits : ∀ c ∈ ds, isAsciiDigit c = true)
    (fits : ds.length ≤ Number.digitLimit) (negative : Bool) :
    (Value.int (Number.signed negative (Number.digitsValue ds))).short = true := by
  have size : (Number.signed negative (Number.digitsValue ds)).natAbs = Number.digitsValue ds := by
    unfold Number.signed
    cases negative
    · exact Int.natAbs_natCast _
    · exact (Int.natAbs_neg _).trans (Int.natAbs_natCast _)
  rw [short_int_iff, size]
  exact digitsValue_lt digits fits

theorem isJson_of_readNumber {negative : Bool} {s rest : List Char} {v : Value}
    (read : readNumber negative s = .ok (v, rest)) : v.IsJson := by
  have digits := isAsciiDigit_of_mem_wholePart s
  unfold readNumber at read
  dsimp only at read
  split at read
  · cases read
  · split at read
    · split at read
      · next fits =>
        cases read
        exact .int (short_of_digits digits fits negative)
      · cases read
    · cases read
      exact .float _

theorem isJson_of_atom {s rest : List Char} {v : Value} (read : atom s = .ok (v, rest)) :
    v.IsJson := by
  have known : ∀ w ∈ words, w.2.IsJson := by
    have words_eq : words = [_, _, _, _, _, _] := rfl
    rw [words_eq]
    simp only [List.forall_mem_cons]
    exact ⟨.null, .bool true, .bool false, .float _, .float _, .float _, List.forall_mem_nil _⟩
  unfold atom at read
  split at read
  · next found here =>
    obtain ⟨w, member, skipped⟩ := List.exists_of_findSome?_eq_some here
    obtain ⟨left, _, rfl⟩ := Option.map_eq_some_iff.mp skipped
    cases read
    exact known w member
  · split at read
    · exact isJson_of_readNumber read
    · exact isJson_of_readNumber read

theorem isJson_of_readAtom {s rest : List Point} {v : Value} (read : readAtom s = .ok (v, rest)) :
    v.IsJson := by
  obtain ⟨⟨v', left⟩, found, done⟩ := bind_ok.mp read
  dsimp only at done
  split at done
  · cases done
    exact isJson_of_atom found
  · cases done

theorem isText_of_readString {fuel : Nat} {s rest : List Point} {v : Value}
    (read : readString fuel s = .ok (v, rest)) : v.IsText := by
  obtain ⟨⟨ps, rest'⟩, _, done⟩ := bind_ok.mp read
  cases done
  exact isText_ofPoints ps

/-! ### Documents -/

/-- What is read with some fuel is a value of a document. -/
structure Reads (fuel : Nat) : Prop where
  value : ∀ {s rest v}, readValue fuel s = .ok (v, rest) → v.IsJson
  items : ∀ {s rest vs}, readItems fuel s = .ok (vs, rest) → ∀ v ∈ vs, v.IsJson
  members : ∀ {s rest ms}, readMembers fuel s = .ok (ms, rest) → ∀ m ∈ ms, m.1.IsText ∧ m.2.IsJson

namespace Reads

variable {fuel : Nat} {s rest : List Point}

theorem value_succ (reads : Reads fuel) {v : Value}
    (read : readValue (fuel + 1) s = .ok (v, rest)) : v.IsJson := by
  unfold readValue at read
  split at read
  · exact .text (isText_of_readString read)
  · split at read
    · cases read
      exact .list (List.forall_mem_nil _)
    · obtain ⟨⟨items, rest'⟩, inside, done⟩ := bind_ok.mp read
      cases done
      exact .list (reads.items inside)
  · split at read
    · cases read
      exact .map (List.forall_mem_nil _) List.nodup_nil (List.forall_mem_nil _)
    · obtain ⟨⟨members, rest'⟩, inside, done⟩ := bind_ok.mp read
      cases done
      exact Value.isJson_mapOf (reads.members inside)
  · exact isJson_of_readAtom read

theorem items_succ (reads : Reads fuel) {vs : List Value}
    (read : readItems (fuel + 1) s = .ok (vs, rest)) : ∀ v ∈ vs, v.IsJson := by
  unfold readItems at read
  obtain ⟨⟨v, s'⟩, first, read⟩ := bind_ok.mp read
  dsimp only at read
  split at read
  · cases read
    exact List.forall_mem_singleton.mpr (reads.value first)
  · obtain ⟨⟨vs', rest'⟩, later, done⟩ := bind_ok.mp read
    cases done
    exact List.forall_mem_cons.mpr ⟨reads.value first, reads.items later⟩
  · cases read

theorem members_succ (reads : Reads fuel) {ms : List (Value × Value)}
    (read : readMembers (fuel + 1) s = .ok (ms, rest)) : ∀ m ∈ ms, m.1.IsText ∧ m.2.IsJson := by
  unfold readMembers at read
  split at read
  · obtain ⟨⟨name, s'⟩, named, read⟩ := bind_ok.mp read
    dsimp only at read
    split at read
    · obtain ⟨⟨v, s''⟩, first, read⟩ := bind_ok.mp read
      have member : name.IsText ∧ v.IsJson := ⟨isText_of_readString named, reads.value first⟩
      dsimp only at read
      split at read
      · cases read
        exact List.forall_mem_singleton.mpr member
      · obtain ⟨⟨ms', rest'⟩, later, done⟩ := bind_ok.mp read
        cases done
        exact List.forall_mem_cons.mpr ⟨member, reads.members later⟩
      · cases read
    · cases read
  · cases read

end Reads

theorem reads (fuel : Nat) : Reads fuel := by
  -- Every call for a part of the input has one less of the fuel.
  induction fuel with
  | zero => exact ⟨nofun, nofun, nofun⟩
  | succ fuel ih => exact ⟨ih.value_succ, ih.items_succ, ih.members_succ⟩

theorem isJson_of_parsePoints {ps : List Point} {v : Value} (read : parsePoints ps = .ok v) :
    v.IsJson := by
  obtain ⟨⟨v', rest⟩, found, done⟩ := bind_ok.mp read
  dsimp only at done
  split at done
  · cases done
    exact (reads _).value found
  · cases done

theorem isJson_of_parseUnmarked {ps : List Point} {v : Value} (read : parseUnmarked ps = .ok v) :
    v.IsJson := by
  unfold parseUnmarked at read
  split at read
  · cases read
  · exact isJson_of_parsePoints read

theorem isJson_of_parse {document v : Value} (read : parse document = .ok v) : v.IsJson := by
  unfold parse at read
  split at read
  · exact isJson_of_parseUnmarked read
  · exact isJson_of_parseUnmarked read
  · unfold parseBytes at read
    split at read
    · exact isJson_of_parsePoints read
    · cases read
  · cases read

end Json

namespace Value

/-! ### Writing it again -/

theorem allPrintable_iff {xs : List Value} :
    allPrintable xs = true ↔ ∀ x ∈ xs, x.printable = true := by
  induction xs with
  | nil => simp [allPrintable]
  | cons x xs ih => rw [allPrintable, Bool.and_eq_true, ih, List.forall_mem_cons]

theorem entriesPrintable_iff {es : List (Value × Value)} :
    entriesPrintable es = true ↔ ∀ e ∈ es, e.1.namesMember = true ∧ e.2.printable = true := by
  induction es with
  | nil => simp [entriesPrintable]
  | cons e es ih =>
    rw [entriesPrintable, Bool.and_eq_true, Bool.and_eq_true, ih, List.forall_mem_cons, and_assoc]

namespace IsJson

variable {v : Value}

theorem printable (json : v.IsJson) : v.printable = true := by
  induction json with
  | null | bool | float => rfl
  | int short => exact short
  | text text => cases text <;> rfl
  | list _ ih => exact allPrintable_iff.mpr ih
  | map names _ _ ih =>
    refine entriesPrintable_iff.mpr fun e member => ⟨?_, ih e member⟩
    cases e with
    | mk k v =>
      have named : k.IsText := names _ member
      cases named <;> rfl

theorem print_ok (json : v.IsJson) : ∃ t, print v = .ok t :=
  (writes_print v).isOk_iff.mpr json.printable

theorem legible (json : v.IsJson) : v.legible = true := legible_of_printable v json.printable

theorem display_ok (json : v.IsJson) : v.display = .ok v.plainText := by
  have own : v.display = v.ownText := by
    cases json with
    | text text => cases text <;> rfl
    | _ => rfl
  rw [own, ownText, if_pos json.legible]

end IsJson

end Value

end RestQuery
