import Mathlib.Data.List.Forall2

set_option autoImplicit false
set_option relaxedAutoImplicit false

/-!
# Computations that may fail

When a sequence of computations succeeds, and with which faults it may fail: with those of its
parts.

## Main definitions

* `Sift.FaultsAre` — every fault that a computation may end with has a property.

## Main results

* `Sift.bind_eq_ok_iff`, `Sift.mapM_eq_ok_iff`, `Sift.exists_mapM_eq_ok_iff` — when a sequence
  succeeds.
* `Sift.FaultsAre.bind`, `Sift.FaultsAre.mapM` — the faults of a sequence.
-/

namespace Sift

variable {ε α β : Type}

/-! ## Success -/

lemma pure_eq_ok_iff {a b : α} : (pure a : Except ε α) = .ok b ↔ a = b := by
  constructor
  · intro h
    exact Except.ok.inj h
  · rintro rfl
    rfl

/-- A sequence of two computations succeeds iff both do, the second with what the first gives. -/
lemma bind_eq_ok_iff {x : Except ε α} {f : α → Except ε β} {b : β} :
    x >>= f = .ok b ↔ ∃ a, x = .ok a ∧ f a = .ok b := by
  cases x with
  | error fault => simp only [bind, Except.bind, reduceCtorEq, false_and, exists_false]
  | ok a =>
    constructor
    · intro h
      exact ⟨a, rfl, h⟩
    · rintro ⟨a', h, hf⟩
      obtain rfl := Except.ok.inj h
      exact hf

lemma map_eq_ok_iff {x : Except ε α} {f : α → β} {b : β} :
    f <$> x = .ok b ↔ ∃ a, x = .ok a ∧ f a = b := by
  cases x with
  | error fault => simp [Functor.map, Except.map]
  | ok a => simp [Functor.map, Except.map]

/-- One computation for each entry of a list: all of them succeed. -/
lemma mapM_eq_ok_iff {f : α → Except ε β} {l : List α} {l' : List β} :
    l.mapM f = .ok l' ↔ List.Forall₂ (fun a b => f a = .ok b) l l' := by
  induction l generalizing l' with
  | nil => rw [List.mapM_nil, pure_eq_ok_iff, List.forall₂_nil_left_iff, eq_comm]
  | cons a rest ih =>
    simp only [List.mapM_cons, bind_eq_ok_iff, pure_eq_ok_iff, ih, List.forall₂_cons_left_iff]
    constructor
    · rintro ⟨b, hb, l, hl, rfl⟩
      exact ⟨b, l, hb, hl, rfl⟩
    · rintro ⟨b, l, hb, hl, rfl⟩
      exact ⟨b, hb, l, hl, rfl⟩

/-- One computation for each entry of a list succeeds as a whole iff each of them does. -/
lemma exists_mapM_eq_ok_iff {f : α → Except ε β} {l : List α} :
    (∃ l', l.mapM f = .ok l') ↔ ∀ a ∈ l, ∃ b, f a = .ok b := by
  induction l with
  | nil => simp [pure_eq_ok_iff]
  | cons a rest ih =>
    rw [List.forall_mem_cons, ← ih]
    simp only [List.mapM_cons, bind_eq_ok_iff, pure_eq_ok_iff]
    constructor
    · rintro ⟨-, b, hb, l, hl, -⟩
      exact ⟨⟨b, hb⟩, l, hl⟩
    · rintro ⟨⟨b, hb⟩, l, hl⟩
      exact ⟨b :: l, b, hb, l, hl, rfl⟩

/-! ## Faults -/

/-- Every fault that a computation may end with has a property. -/
def FaultsAre (p : ε → Prop) (x : Except ε α) : Prop :=
  ∀ fault, x = .error fault → p fault

namespace FaultsAre

variable {p : ε → Prop}

lemma ok (a : α) : FaultsAre p (.ok a : Except ε α) := nofun

lemma error {fault : ε} (h : p fault) : FaultsAre p (.error fault : Except ε α) := by
  intro fault' h'
  obtain rfl := Except.error.inj h'
  exact h

lemma bind {x : Except ε α} {f : α → Except ε β} (hx : FaultsAre p x)
    (hf : ∀ a, x = .ok a → FaultsAre p (f a)) : FaultsAre p (x >>= f) := by
  cases x with
  | error fault => exact error (hx fault rfl)
  | ok a => exact hf a rfl

lemma map {x : Except ε α} (hx : FaultsAre p x) (f : α → β) : FaultsAre p (f <$> x) := by
  cases x with
  | error fault => exact error (hx fault rfl)
  | ok a => exact ok (f a)

lemma mapM {f : α → Except ε β} {l : List α} (h : ∀ a ∈ l, FaultsAre p (f a)) :
    FaultsAre p (l.mapM f) := by
  induction l with
  | nil => exact ok []
  | cons a rest ih =>
    obtain ⟨ha, hrest⟩ := List.forall_mem_cons.1 h
    rw [List.mapM_cons]
    exact ha.bind fun b _ => (ih hrest).bind fun l _ => ok (b :: l)

end FaultsAre

end Sift
