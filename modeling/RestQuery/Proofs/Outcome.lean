import RestQuery.Fault

/-!
# Outcomes that succeed

What the success or the failure of a sequence of operations says about its parts. Proofs take an
outcome apart with these lemmas and never unfold the monad.
-/

namespace RestQuery

variable {α β : Type}

theorem isOk_iff {x : Outcome α} : x.isOk = true ↔ ∃ a, x = .ok a := by
  cases x with
  | ok a => exact iff_of_true rfl ⟨a, rfl⟩
  | error f => exact iff_of_false nofun nofun

/-- Both of two operations succeed, the first for what the second needs. -/
theorem bind_ok {x : Outcome α} {f : α → Outcome β} {b : β} :
    x >>= f = .ok b ↔ ∃ a, x = .ok a ∧ f a = .ok b := by
  cases x <;> simp [bind, Except.bind]

theorem pure_ok {a b : α} : (pure a : Outcome α) = .ok b ↔ a = b := by
  simp [pure, Except.pure]

theorem bind_fails {x : Outcome α} {g : α → Outcome β} :
    (∃ f, x >>= g = .error f) ↔ (∃ f, x = .error f) ∨ ∃ a, x = .ok a ∧ ∃ f, g a = .error f := by
  cases x <;> simp [bind, Except.bind]

theorem throw_ok {f : Fault} {b : α} : (throw f : Outcome α) = .ok b ↔ False := by
  simp [throw, throwThe, MonadExceptOf.throw]

theorem accept_ok {p : Prop} [Decidable p] {f : Fault} {a b : α} :
    (if p then .ok a else .error f : Outcome α) = .ok b ↔ p ∧ a = b := by
  by_cases fit : p
  · simp [fit]
  · simp [fit]

/-- A check that refuses what it finds, and what comes after it. -/
theorem refuse_ok {p : Prop} [Decidable p] {f : Fault} {k : α → Outcome β} {x : Outcome β} {b : β} :
    (if p then throw f >>= k else x) = .ok b ↔ ¬ p ∧ x = .ok b := by
  by_cases found : p
  · simp [found, bind_ok, throw_ok]
  · simp [found]

/-- An operation succeeds on every item: on the first and on all others. -/
theorem mapM_cons_ok {f : α → Outcome β} {x : α} {xs : List α} {ys : List β} :
    (x :: xs).mapM f = .ok ys ↔ ∃ y rest, f x = .ok y ∧ xs.mapM f = .ok rest ∧ ys = y :: rest := by
  simp only [List.mapM_cons, bind_ok, pure_ok]
  constructor
  · rintro ⟨y, first, rest, later, same⟩
    exact ⟨y, rest, first, later, same.symm⟩
  · rintro ⟨y, rest, first, later, same⟩
    exact ⟨y, first, rest, later, same.symm⟩

theorem mapM_ok_mem {f : α → Outcome β} {xs : List α} {ys : List β} (h : xs.mapM f = .ok ys) :
    ∀ y ∈ ys, ∃ x ∈ xs, f x = .ok y := by
  induction xs generalizing ys with
  | nil =>
    rw [List.mapM_nil, pure_ok] at h
    simp [← h]
  | cons x xs ih =>
    obtain ⟨y, rest, first, later, rfl⟩ := mapM_cons_ok.mp h
    intro z member
    rcases List.mem_cons.mp member with rfl | member
    · exact ⟨x, List.mem_cons_self, first⟩
    · obtain ⟨x', present, made⟩ := ih later z member
      exact ⟨x', List.mem_cons_of_mem _ present, made⟩

theorem mapM_ok_ne_nil {f : α → Outcome β} {xs : List α} {ys : List β} (h : xs.mapM f = .ok ys)
    (filled : xs ≠ []) : ys ≠ [] := by
  cases xs with
  | nil => exact absurd rfl filled
  | cons x xs =>
    obtain ⟨y, rest, _, _, rfl⟩ := mapM_cons_ok.mp h
    exact List.cons_ne_nil y rest

/-- An operation for each item that undoes how the items were made. -/
theorem mapM_undoes {f : α → Outcome β} {g : β → α} (undoes : ∀ b, f (g b) = .ok b)
    (ys : List β) : (ys.map g).mapM f = .ok ys := by
  induction ys with
  | nil => rfl
  | cons y ys ih => exact mapM_cons_ok.mpr ⟨y, ys, undoes y, ih, rfl⟩

theorem toOption_ok {x : Outcome α} {a : α} : x.toOption = some a ↔ x = .ok a := by
  cases x <;> simp [Except.toOption]

theorem toOption_bind {x : Outcome α} {f : α → Outcome β} :
    (x >>= f).toOption = x.toOption.bind fun a => (f a).toOption := by
  cases x <;> rfl

theorem toOption_mapM {f : α → Outcome β} (xs : List α) :
    (xs.mapM f).toOption = xs.mapM fun x => (f x).toOption := by
  induction xs with
  | nil => rfl
  | cons x xs ih =>
    simp only [List.mapM_cons, toOption_bind, ih]
    rfl

end RestQuery
