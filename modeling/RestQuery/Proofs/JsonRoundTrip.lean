import RestQuery.Json.Printer
import RestQuery.Proofs.JsonReading
import RestQuery.Proofs.PreparedUrl

/-!
# Bodies are read back

The body of a request is sent as ASCII from which the server reads the body in its plain form, and
writing that form again gives the same text: `prepare_body_round_trip`. The only bodies that are not
sent hold a whole number with too many digits.
-/

namespace RestQuery

open Text Json

/-! ### Values that JSON carries -/

/-- A text as it comes back from JSON. -/
def Value.rejoined : Value → Value
  | .unpaired ps => .ofPoints (joined ps)
  | v => v

mutual

/-- A value as it comes back from JSON: tuples as lists, and whatever is neither a container nor a
number as its text. -/
def Value.plain : Value → Value
  | .list xs => .list (Value.plainAll xs)
  | .tuple xs => .list (Value.plainAll xs)
  | .map es => .map (Value.plainEntries es)
  | .uuid s => .text s
  | .decimal s => .text s
  | .date d => .text d.iso
  | .moment m => .text (m.iso .exact)
  | .clock t => .text (t.iso .exact)
  | .member m => .text m.token
  | v => v.rejoined

def Value.plainAll : List Value → List Value
  | [] => []
  | x :: xs => x.plain :: Value.plainAll xs

def Value.plainEntries : List (Value × Value) → List (Value × Value)
  | [] => []
  | (k, v) :: es => (k.rejoined, v.plain) :: Value.plainEntries es

end

/-- Texts, with or without halves of pairs. -/
inductive Value.IsText : Value → Prop where
  | text (s : String) : IsText (.text s)
  | unpaired (ps : List Point) : IsText (.unpaired ps)

/-- The values that JSON has a form for, numbers with a fraction aside. The keys of a map are texts,
which stay different when they come back. -/
inductive Value.Portable : Value → Prop where
  | null : Portable .null
  | bool (b : Bool) : Portable (.bool b)
  | int (n : Int) : Portable (.int n)
  | text {v : Value} (text : v.IsText) : Portable v
  | list {xs : List Value} (items : ∀ x ∈ xs, Portable x) : Portable (.list xs)
  | tuple {xs : List Value} (items : ∀ x ∈ xs, Portable x) : Portable (.tuple xs)
  | map {es : List (Value × Value)} (keys : ∀ e ∈ es, e.1.IsText) (values : ∀ e ∈ es, Portable e.2)
      (distinct : (es.map fun e => e.1.rejoined).Nodup) : Portable (.map es)
  | uuid (s : String) : Portable (.uuid s)
  | decimal (s : String) : Portable (.decimal s)
  | date (d : Date) : Portable (.date d)
  | moment (m : Moment) : Portable (.moment m)
  | clock (t : Clock) : Portable (.clock t)
  | member (m : Member) : Portable (.member m)

mutual

/-- No whole number in a value has more digits than can be written. -/
def Value.short : Value → Bool
  | .int n => (toString n.natAbs).length ≤ Number.digitLimit
  | .list xs => Value.allShort xs
  | .tuple xs => Value.allShort xs
  | .map es => Value.entriesShort es
  | _ => true

def Value.allShort : List Value → Bool
  | [] => true
  | x :: xs => x.short && Value.allShort xs

def Value.entriesShort : List (Value × Value) → Bool
  | [] => true
  | (_, v) :: es => v.short && Value.entriesShort es

end

namespace Json

/-! ### Texts and keys -/

/-- The points of a text without halves. -/
theorem eq_pointsOf_of_chars? {ps : List Point} {cs : List Char}
    (chars : Point.chars? ps = some cs) : ps = pointsOf cs := by
  induction ps generalizing cs with
  | nil =>
    cases chars
    rfl
  | cons p ps ih =>
    cases p with
    | half n => cases chars
    | char c =>
      rw [Point.chars?, List.mapM_cons] at chars
      obtain ⟨_, ⟨⟩, later⟩ := Option.bind_eq_some_iff.mp chars
      obtain ⟨cs, rest, ⟨⟩⟩ := Option.bind_eq_some_iff.mp later
      rw [ih rest]
      rfl

theorem print_ofPoints (ps : List Point) :
    print (.ofPoints ps) = .ok (points ps) ∧ memberName (.ofPoints ps) = .ok (points ps) := by
  unfold Value.ofPoints
  split
  · next cs chars =>
    rw [eq_pointsOf_of_chars? chars, points_map_char]
    exact ⟨rfl, rfl⟩
  · exact ⟨rfl, rfl⟩

theorem points_joined (ps : List Point) : points (joined ps) = points ps := by
  rw [points, flatMap_escapePoint_joined, points]

theorem print_rejoined (v : Value) : print v.rejoined = print v := by
  cases v with
  | unpaired ps => rw [Value.rejoined, (print_ofPoints _).1, points_joined, print]
  | _ => rfl

theorem memberName_of_isText {k : Value} (text : k.IsText) :
    ∃ t, memberName k = .ok t ∧ print k = .ok t ∧ Quoted t k.rejoined := by
  cases text with
  | text s => exact ⟨_, rfl, rfl, quoted_string s⟩
  | unpaired ps => exact ⟨_, rfl, rfl, quoted_points ps⟩

theorem memberName_rejoined (v : Value) : memberName v.rejoined = memberName v := by
  cases v with
  | unpaired ps => rw [Value.rejoined, (print_ofPoints _).2, points_joined, memberName]
  | _ => rfl

theorem plain_of_isText {v : Value} (text : v.IsText) : v.plain = v.rejoined := by
  cases text <;> rfl

theorem isText_ofPoints (ps : List Point) : (Value.ofPoints ps).IsText := by
  unfold Value.ofPoints
  split
  · exact .text _
  · exact .unpaired _

theorem isText_rejoined {v : Value} (text : v.IsText) : v.rejoined.IsText := by
  cases text with
  | text s => exact .text s
  | unpaired ps => exact isText_ofPoints _

theorem finds_of_ne {a b : Value} (text : a.IsText) (text' : b.IsText) (differ : a ≠ b) :
    a.finds b = false := by
  cases text with
  | text s =>
    cases text' with
    | text s' =>
      rw [Value.finds_text, beq_eq_false_iff_ne]
      exact fun same => differ (congrArg _ same)
    | unpaired ps => rfl
  | unpaired ps =>
    cases text' with
    | text s => rfl
    | unpaired ps' =>
      have apart : ps ≠ ps' := fun same => differ (congrArg _ same)
      simp [Value.finds, Value.same, apart]

theorem plainEntries_keys (es : List (Value × Value)) :
    (Value.plainEntries es).map (·.1) = es.map fun e => e.1.rejoined := by
  induction es with
  | nil => rfl
  | cons e es ih => simp only [Value.plainEntries, List.map_cons, ih]

theorem pairwise_of_distinct {es : List (Value × Value)} (keys : ∀ e ∈ es, e.1.IsText)
    (distinct : (es.map fun e => e.1.rejoined).Nodup) :
    (Value.plainEntries es).Pairwise fun e e' => e.1.finds e'.1 = false := by
  have texts : ∀ k ∈ es.map fun e => e.1.rejoined, k.IsText :=
    List.forall_mem_map.mpr fun e present => isText_rejoined (keys e present)
  have apart : (es.map fun e => e.1.rejoined).Pairwise fun k k' => k.finds k' = false :=
    distinct.imp_of_mem fun present present' differ =>
      finds_of_ne (texts _ present) (texts _ present') differ
  rw [← plainEntries_keys] at apart
  exact List.pairwise_map.mp apart

/-! ### The plain form -/

mutual

/-- The plain form of a value is written as the value is. -/
theorem print_plain (v : Value) : print v.plain = print v := by
  cases v with
  | list xs => simp only [Value.plain, print, printAll_plainAll xs]
  | tuple xs => simp only [Value.plain, print, printAll_plainAll xs]
  | map es => simp only [Value.plain, print, printEntries_plainEntries es]
  | unpaired ps => exact print_rejoined (.unpaired ps)
  | _ => rfl

theorem printAll_plainAll (xs : List Value) : printAll (Value.plainAll xs) = printAll xs := by
  cases xs with
  | nil => rfl
  | cons x xs => simp only [Value.plainAll, printAll, print_plain x, printAll_plainAll xs]

theorem printEntries_plainEntries (es : List (Value × Value)) :
    printEntries (Value.plainEntries es) = printEntries es := by
  cases es with
  | nil => rfl
  | cons e es =>
    obtain ⟨k, v⟩ := e
    simp only [Value.plainEntries, printEntries, memberName_rejoined, print_plain v,
      printEntries_plainEntries es]

end

/-! ### Writing and reading -/

/-- An operation fails if some number is too long, and has a good result otherwise. -/
def Limited {α : Type} (short : Bool) (x : Outcome α) (good : α → Prop) : Prop :=
  if short then ∃ a, x = .ok a ∧ good a else x = .error .tooLongToWrite

namespace Limited

variable {α β : Type} {short later : Bool} {x : Outcome α} {good : α → Prop} {fine : β → Prop}

theorem done {a : α} (result : x = .ok a) (holds : good a) : Limited true x good :=
  ⟨a, result, holds⟩

/-- Nothing is too long in either part if nothing is in the whole. -/
theorem bind {f : α → Outcome β} (first : Limited short x good)
    (second : ∀ a, good a → Limited later (f a) fine) :
    Limited (short && later) (x >>= f) fine := by
  cases short with
  | false =>
    have failed : x = .error .tooLongToWrite := first
    rw [failed]
    rfl
  | true =>
    obtain ⟨a, result, holds⟩ : ∃ a, x = .ok a ∧ good a := first
    rw [result]
    exact second a holds

theorem map {f : α → β} (first : Limited short x good) (holds : ∀ a, good a → fine (f a)) :
    Limited short (x >>= fun a => pure (f a)) fine := by
  have both := first.bind fun a is_good => done (x := pure (f a)) rfl (holds a is_good)
  rwa [Bool.and_true] at both

end Limited

/-- A value is written unless some number in it is too long, and then read as its plain form. -/
def Carried (v : Value) : Prop := Limited v.short (print v) fun t => Written t v.plain

theorem short_int_iff {n : Int} :
    (Value.int n).short = true ↔ n.natAbs < Nat.pow 10 Number.digitLimit := by
  rw [Value.short, decide_eq_true_eq, Nat.toString_eq_repr, Nat.length_repr_le_iff (by decide),
    Nat.pow_eq]

theorem carried_int (n : Int) : Carried (.int n) := by
  unfold Carried Limited
  split
  · next short =>
    have shown : Value.digitsOf n = .ok (toString n) := if_pos (by simpa [Value.short] using short)
    exact ⟨_, shown, written_int shown⟩
  · next long => exact if_neg (by simpa [Value.short] using long)

theorem carried_text {v : Value} (text : v.IsText) : Carried v := by
  have short : v.short = true := by cases text <;> rfl
  obtain ⟨t, _, shown, quoted⟩ := memberName_of_isText text
  rw [Carried, short, plain_of_isText text]
  exact .done shown quoted.written

theorem printAll_carried {xs : List Value} (items : ∀ x ∈ xs, Carried x) :
    Limited (Value.allShort xs) (printAll xs) fun ts =>
      List.Forall₂ Written ts (Value.plainAll xs) := by
  induction xs with
  | nil => exact .done rfl .nil
  | cons x xs ih =>
    obtain ⟨first, later⟩ := List.forall_mem_cons.mp items
    exact first.bind fun t written => (ih later).map fun ts rest => .cons written rest

theorem printEntries_carried {es : List (Value × Value)} (keys : ∀ e ∈ es, e.1.IsText)
    (values : ∀ e ∈ es, Carried e.2) :
    Limited (Value.entriesShort es) (printEntries es) fun ms =>
      List.Forall₂ MemberWritten ms (Value.plainEntries es) := by
  induction es with
  | nil => exact .done rfl .nil
  | cons e es ih =>
    obtain ⟨key, keys⟩ := List.forall_mem_cons.mp keys
    obtain ⟨first, later⟩ := List.forall_mem_cons.mp values
    obtain ⟨name, named, _, quoted⟩ := memberName_of_isText key
    rw [printEntries, named]
    exact first.bind fun t written =>
      (ih keys later).map fun ms rest => .cons ⟨quoted, written⟩ rest

theorem carried_of_portable {v : Value} (portable : v.Portable) : Carried v := by
  induction portable with
  | null => exact .done rfl written_null
  | bool b => exact .done rfl (written_bool b)
  | int n => exact carried_int n
  | text text => exact carried_text text
  | list _ ih => exact (printAll_carried ih).map fun ts written => written_array written
  | tuple _ ih => exact (printAll_carried ih).map fun ts written => written_array written
  | map keys _ distinct ih =>
    refine (printEntries_carried keys ih).map fun ms written => ?_
    have read := written_braces written
    rwa [mapOf_eq_self (pairwise_of_distinct keys distinct)] at read
  | uuid s => exact .done rfl (quoted_string s).written
  | decimal s => exact .done rfl (quoted_string s).written
  | date d => exact .done rfl (quoted_string _).written
  | moment m => exact .done rfl (quoted_string _).written
  | clock t => exact .done rfl (quoted_string _).written
  | member m => exact .done rfl (quoted_string _).written

/-! ### Documents -/

theorem pointsFrom?_of_notMem {bs : List UInt8} (absent : 0xED ∉ bs) (before : List UInt8) :
    pointsFrom? before bs = plainPoints? (before.reverse ++ bs) := by
  induction bs generalizing before with
  | nil => rfl
  | cons a bs ih =>
    obtain ⟨first, later⟩ := not_or.mp (mt List.mem_cons.mpr absent)
    match bs with
    | [] => rfl
    | [b] => rfl
    | b :: c :: rest =>
      have none : surrogate? a b c = none := if_neg fun found => first found.1.symm
      rw [pointsFrom?, none]
      simp only
      rw [ih later, List.reverse_cons, List.append_assoc, List.singleton_append]

theorem encode_of_graphic {t : String} (graphic : ∀ c ∈ t.toList, Graphic c) :
    ∀ b ∈ Utf8.encode t, 0x20 ≤ b.toNat ∧ b.toNat < 0x7F := by
  intro b present
  obtain ⟨c, member, byte⟩ := List.mem_flatMap.mp present
  obtain ⟨low, high⟩ := graphic c member
  rw [Utf8.encodeChar, Utf8.encodeNat, if_pos (by omega), List.mem_singleton] at byte
  rw [byte, Utf8.toNat_toUInt8 (by omega)]
  exact ⟨low, high⟩

/-- Graphic ASCII is neither a byte order mark nor the zero byte of a wider form. -/
theorem detect_of_graphic {bs : List UInt8} (graphic : ∀ b ∈ bs, 0x20 ≤ b.toNat ∧ b.toNat < 0x7F) :
    Encoding.detect bs = (.utf8, bs) := by
  have zero {b : UInt8} (present : b ∈ bs) : b ≠ 0 := by
    rintro rfl
    exact absurd (graphic 0 present).1 (by decide)
  have high {b : UInt8} (present : b ∈ bs) (large : 0x7F ≤ b.toNat) : False :=
    absurd (graphic b present).2 (Nat.not_lt.mpr large)
  unfold Encoding.detect
  split
  · exact absurd rfl (zero List.mem_cons_self)
  · exact (high List.mem_cons_self (by decide)).elim
  · exact (high List.mem_cons_self (by decide)).elim
  · exact (high List.mem_cons_self (by decide)).elim
  · exact (high List.mem_cons_self (by decide)).elim
  · have narrow : Encoding.ofZeros bs = .utf8 := by
      unfold Encoding.ofZeros
      split
      · next a b _ _ _ =>
        rw [if_neg (zero List.mem_cons_self), if_neg (zero (by simp))]
      · next a b =>
        rw [if_neg (zero List.mem_cons_self), if_neg (zero (by simp))]
      · rfl
    rw [narrow]

theorem decodeDocument?_encode {t : String} (graphic : ∀ c ∈ t.toList, Graphic c) :
    decodeDocument? (Utf8.encode t) = some (Point.ofText t) := by
  have bytes := encode_of_graphic graphic
  have absent : 0xED ∉ Utf8.encode t := fun present => absurd (bytes _ present).2 (by decide)
  rw [decodeDocument?, detect_of_graphic bytes]
  simp only [Encoding.decode?]
  rw [pointsFrom?_of_notMem absent, List.reverse_nil, List.nil_append, plainPoints?,
    Utf8.decode?_encode]
  rfl

theorem parsePoints_of_written {t : String} {v : Value} (written : Written t v) :
    parsePoints (Point.ofText t) = .ok v := by
  have ends : Ends [] := by simp [Ends]
  have enough : t.toList.length ≤ 2 * (Point.ofText t).length + 2 := by
    rw [Point.ofText, List.length_map]
    omega
  have read := written.read _ [] enough ends
  have start := written.starts.skipSpace_eq []
  rw [List.append_nil] at read start
  rw [parsePoints, Point.ofText, start]
  exact bind_ok.mpr ⟨_, read, rfl⟩

theorem parse_encode {t : String} {v : Value} (written : Written t v) :
    parse (.bytes (Utf8.encode t)) = .ok v := by
  rw [parse, parseBytes, decodeDocument?_encode written.graphic]
  exact parsePoints_of_written written

end Json

namespace Request

variable {r : Request}

theorem target_of_display {url : String} (located : r.url.display = .ok url) :
    ∃ sent, r.target = .ok sent := by
  unfold target
  split
  · exact ⟨_, rfl⟩
  · rw [located]
    exact ⟨_, rfl⟩

theorem prepare_of_print {url name t : String} (located : r.url.display = .ok url)
    (shown : r.schema.display = .ok name) (filled : r.body ≠ .null)
    (printed : print r.body = .ok t) : ∃ p, r.prepare = .ok p ∧ p.body = some t := by
  obtain ⟨sent, target⟩ := target_of_display located
  obtain ⟨headers, profiled⟩ := profiled_of_display shown
  have body : r.encodedBody = .ok (some t) := by
    rw [encodedBody_of_filled filled, encodeBody, printed]
    rfl
  exact ⟨_, prepare_ok.mpr ⟨sent, some t, headers, target, body, profiled, rfl⟩, rfl⟩

theorem prepare_of_print_error {url : String} {f : Fault} (located : r.url.display = .ok url)
    (filled : r.body ≠ .null) (failed : print r.body = .error f) :
    r.prepare = .error (.unencodable r.body.kindName f.message) := by
  obtain ⟨sent, target⟩ := target_of_display located
  rw [prepare, target, encodedBody_of_filled filled, encodeBody, failed]
  rfl

/-- A body that JSON carries is sent as graphic ASCII, from which its plain form is read, and the
plain form is written as the same text. Only a number with too many digits is refused. -/
theorem prepare_body_round_trip {url name : String} (located : r.url.display = .ok url)
    (shown : r.schema.display = .ok name) (filled : r.body ≠ .null) (portable : r.body.Portable) :
    if r.body.short then
      ∃ p t, r.prepare = .ok p ∧ p.body = some t ∧
        (∀ b ∈ Utf8.encode t, 0x20 ≤ b.toNat ∧ b.toNat < 0x7F) ∧
        Json.parse (.bytes (Utf8.encode t)) = .ok r.body.plain ∧
        Json.print r.body.plain = .ok t
    else r.prepare = .error (.unencodable r.body.kindName Fault.tooLongToWrite.message) := by
  have carried := carried_of_portable portable
  unfold Carried Limited at carried
  split at carried
  · next short =>
    obtain ⟨t, printed, written⟩ := carried
    obtain ⟨p, prepared, sent⟩ := prepare_of_print located shown filled printed
    rw [if_pos short]
    refine ⟨p, t, prepared, sent, encode_of_graphic written.graphic, parse_encode written, ?_⟩
    rw [print_plain, printed]
  · next long =>
    rw [if_neg long]
    exact prepare_of_print_error located filled carried

theorem prepare_body_round_trip_nested :
    let body : Value := .map [(.text "k", .tuple [.null, .int (-7), .text "\"é😀"]),
      (.unpaired [.half 0x3D, .half 0x600], .list [.uuid "u", .member (.operator .eq)])]
    let r : Request := { url := .text "http://h/t", body }
    body.Portable ∧ body.short = true ∧ ∃ p t, r.prepare = .ok p ∧ p.body = some t ∧
      Json.parse (.bytes (Utf8.encode t)) =
        .ok (.map [(.text "k", .list [.null, .int (-7), .text "\"é😀"]),
          (.text "😀", .list [.text "u", .text "eq"])]) := by
  intro body r
  have portable : body.Portable := by
    refine .map ?_ ?_ ?_
    · simp only [List.forall_mem_cons]
      exact ⟨.text _, .unpaired _, by simp⟩
    · simp only [List.forall_mem_cons]
      refine ⟨.tuple ?_, .list ?_, by simp⟩
      · simp only [List.forall_mem_cons]
        exact ⟨.null, .int _, .text (.text _), by simp⟩
      · simp only [List.forall_mem_cons]
        exact ⟨.uuid _, .member _, by simp⟩
    · have joined : Value.ofPoints (joined [.half 0x3D, .half 0x600]) = .text "😀" := rfl
      simp [Value.rejoined, joined]
  have short : body.short = true := by decide
  have round_trip := prepare_body_round_trip (r := r) rfl rfl Value.noConfusion portable
  rw [if_pos short] at round_trip
  obtain ⟨p, t, prepared, sent, _, read, _⟩ := round_trip
  exact ⟨portable, short, p, t, prepared, sent, read⟩

theorem prepare_of_long_number {url : String} {n : Int} (located : r.url.display = .ok url)
    (body : r.body = .int n) (long : Nat.pow 10 Number.digitLimit ≤ n.natAbs) :
    r.prepare = .error (.unencodable "int" Fault.tooLongToWrite.message) := by
  have failed := carried_int n
  rw [Carried, Limited, if_neg (mt short_int_iff.mp (Nat.not_lt.mpr long)), ← body] at failed
  have filled : r.body ≠ .null := by
    rw [body]
    exact Value.noConfusion
  rw [prepare_of_print_error located filled failed, body]
  rfl

/-- Two keys that come back as one text are one key. -/
theorem read_of_merged_keys :
    Written (braces [(points [.half 0x3D, .half 0x600], "1"), (string "😀", "2")])
      (.map [(.text "😀", .int 2)]) := by
  have read : Written (braces [(points [.half 0x3D, .half 0x600], "1"), (string "😀", "2")])
      (.map (Value.mapOf [(.text "😀", .int 1), (.text "😀", .int 2)])) :=
    written_braces (.cons ⟨quoted_points _, written_int rfl⟩
      (.cons ⟨quoted_string _, written_int rfl⟩ .nil))
  have merged : Value.mapOf [(.text "😀", .int 1), (.text "😀", .int 2)] = [(.text "😀", .int 2)] := by
    simp [Value.mapOf, Value.insertEntry, Value.finds_text]
  rwa [merged] at read

/-- A number with too many digits is refused, and a map may come back with fewer keys. -/
theorem prepare_body_not_read_back :
    let r (body : Value) : Request := { url := .text "http://h/t", body }
    (r (.int (Nat.pow 10 Number.digitLimit))).prepare =
      .error (.unencodable "int" Fault.tooLongToWrite.message) ∧
    ∃ p t, (r (.map [(.unpaired [.half 0x3D, .half 0x600], .int 1), (.text "😀", .int 2)])).prepare =
      .ok p ∧ p.body = some t ∧
      Json.parse (.bytes (Utf8.encode t)) = .ok (.map [(.text "😀", .int 2)]) := by
  intro r
  refine ⟨?_, ?_⟩
  · exact prepare_of_long_number rfl rfl (Nat.le_of_eq (Int.natAbs_natCast _).symm)
  · obtain ⟨p, prepared, sent⟩ :=
      prepare_of_print (r := r (.map [(.unpaired [.half 0x3D, .half 0x600], .int 1),
        (.text "😀", .int 2)])) rfl rfl Value.noConfusion rfl
    exact ⟨p, _, prepared, sent, parse_encode read_of_merged_keys⟩

end Request

end RestQuery
