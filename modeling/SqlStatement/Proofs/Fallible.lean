import Mathlib.Data.List.Forall2

/-!
# Computations that may fail

A computation in `Except` stops at its first failure, and a computation in `Option` has a result
only if all its parts have.  The lemmas here say so for sequences and for traversals of lists.

* `Fallible.exists_of_bind_eq_ok` takes a successful sequence apart.
* `Fallible.mapM_eq_ok_iff` turns a successful traversal into a relation between two lists.
* `Fallible.failure?_mapM` names the failure of a traversal: it is that of the first element that
  fails.
* `Fallible.mapM_eq_none_iff` and `Fallible.mapM_eq_some_of_forall₂` tell the traversals without
  and with a result.
-/

namespace SqlStatement.Fallible

variable {ε α β : Type}

theorem exists_of_bind_eq_ok
    {x : Except ε α}
    {f : α → Except ε β}
    {b : β}
    (h : x >>= f = .ok b) :
    ∃ a, x = .ok a ∧ f a = .ok b := by
  cases x with
  | error e =>
      cases h
  | ok a =>
      exact ⟨a, rfl, h⟩

theorem mapM_eq_ok_iff
    (f : α → Except ε β)
    (as : List α)
    (bs : List β) :
    as.mapM f = .ok bs ↔ List.Forall₂ (fun a b => f a = .ok b) as bs := by
  induction as generalizing bs with
  | nil =>
      rw [List.mapM_nil, List.forall₂_nil_left_iff]
      exact ⟨fun h => (Except.ok.inj h).symm, fun h => h ▸ rfl⟩
  | cons a as ih =>
      rw [List.mapM_cons, List.forall₂_cons_left_iff]
      constructor
      · intro h
        obtain ⟨b, hb, h⟩ := exists_of_bind_eq_ok h
        obtain ⟨rest, hrest, h⟩ := exists_of_bind_eq_ok h
        exact ⟨b, rest, hb, (ih rest).1 hrest, (Except.ok.inj h).symm⟩
      · rintro ⟨b, rest, hb, hrest, rfl⟩
        rw [hb, (ih rest).2 hrest]
        rfl

theorem forall_left_of_forall₂
    {R : α → β → Prop}
    {p : α → Prop}
    {as : List α}
    {bs : List β}
    (h : List.Forall₂ R as bs)
    (hp : ∀ a b, R a b → p a) :
    ∀ a ∈ as, p a :=
  ((List.forall₂_and_left as bs).1 (h.imp fun a b hab => ⟨hp a b hab, hab⟩)).1

theorem forall_right_of_forall₂
    {R : α → β → Prop}
    {p : β → Prop}
    {as : List α}
    {bs : List β}
    (h : List.Forall₂ R as bs)
    (hp : ∀ a b, R a b → p b) :
    ∀ b ∈ bs, p b :=
  forall_left_of_forall₂ h.flip fun b a => hp a b

theorem exists_left_of_forall₂
    {R : α → β → Prop}
    {as : List α}
    {bs : List β}
    {b : β}
    (h : List.Forall₂ R as bs)
    (hb : b ∈ bs) :
    ∃ a ∈ as, R a b := by
  induction h with
  | nil =>
      simp at hb
  | @cons a b' as bs hab _ ih =>
      rcases List.mem_cons.1 hb with rfl | hb
      · exact ⟨a, List.mem_cons_self, hab⟩
      · obtain ⟨a', ha', hab'⟩ := ih hb
        exact ⟨a', List.mem_cons_of_mem _ ha', hab'⟩

/-- The failure of a computation, if it fails. -/
def failure? : Except ε α → Option ε
  | .ok _ => none
  | .error e => some e

theorem failure?_eq_some_iff
    {x : Except ε α}
    {e : ε} :
    failure? x = some e ↔ x = .error e := by
  cases x <;> simp [failure?]

theorem failure?_eq_none_iff {x : Except ε α} :
    failure? x = none ↔ ∃ a, x = .ok a := by
  cases x <;> simp [failure?]

/-- A sequence fails with its first part, and otherwise with its second. -/
theorem failure?_bind
    {x : Except ε α}
    {f : α → Except ε β}
    {rest : Option ε}
    (h : ∀ a, failure? (f a) = rest) :
    failure? (x >>= f) = (failure? x).or rest := by
  cases x with
  | error e =>
      rfl
  | ok a =>
      exact h a

/-- A traversal fails with the first element that fails. -/
theorem failure?_mapM
    (f : α → Except ε β)
    (as : List α) :
    failure? (as.mapM f) = as.findSome? fun a => failure? (f a) := by
  induction as with
  | nil =>
      rfl
  | cons a as ih =>
      have htail : ∀ b, failure? (do let bs ← as.mapM f; pure (b :: bs)) =
          as.findSome? fun a => failure? (f a) := by
        intro b
        have hlast : ∀ bs, failure? (pure (b :: bs) : Except ε (List β)) = none :=
          fun _ => rfl
        rw [failure?_bind hlast, Option.or_none, ih]
      rw [List.mapM_cons, failure?_bind htail, List.findSome?_cons]
      cases failure? (f a) <;> rfl

/-! ### Optional results -/

/-- A traversal has no result exactly if there is none for some element. -/
theorem mapM_eq_none_iff
    {f : α → Option β}
    {as : List α} :
    as.mapM f = none ↔ ∃ a ∈ as, f a = none := by
  induction as with
  | nil =>
      simp
  | cons a as ih =>
      rw [List.mapM_cons, List.exists_mem_cons_iff, ← ih]
      cases f a <;> cases as.mapM f <;> simp

theorem mapM_eq_some_of_forall₂
    {f : α → Option β}
    {as : List α}
    {bs : List β}
    (h : List.Forall₂ (fun a b => f a = some b) as bs) :
    as.mapM f = some bs := by
  induction h with
  | nil =>
      rfl
  | cons hhead _ ih =>
      simp [hhead, ih]

theorem mapM_eq_some_map
    {f : α → Option β}
    {g : α → β}
    {as : List α}
    (h : ∀ a ∈ as, f a = some (g a)) :
    as.mapM f = some (as.map g) :=
  mapM_eq_some_of_forall₂ (List.forall₂_map_right_iff.2 (List.forall₂_same.2 h))

end SqlStatement.Fallible
