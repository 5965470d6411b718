import Mathlib.Data.List.Nodup
import Sift.Config.Value

set_option autoImplicit false
set_option relaxedAutoImplicit false

/-!
# Named entries

Lists of named entries in which the first entry of a name counts: what is found in them under a
name, and which names they have.

## Main definitions

* `Sift.NamesOnce` — no name occurs twice.

## Main results

* `Sift.lookup_zip` — names and entries put side by side.
* `Sift.Config.lookup_put`, `Sift.Config.namesOnce_put` — replacing an entry.
-/

namespace Sift

variable {α : Type}

/-- No name occurs twice. -/
def NamesOnce (l : List (String × α)) : Prop :=
  (l.map Prod.fst).Nodup

lemma namesOnce_nil : NamesOnce ([] : List (String × α)) :=
  List.nodup_nil

lemma lookup_cons_eq (name : String) (entry : String × α) (l : List (String × α)) :
    (entry :: l).lookup name = if name = entry.1 then some entry.2 else l.lookup name := by
  rw [List.lookup_cons]
  by_cases h : name = entry.1
  · simp [h]
  · rw [if_neg h, beq_false_of_ne h]

lemma lookup_eq_none_of_notMem {l : List (String × α)} {name : String}
    (h : name ∉ l.map Prod.fst) : l.lookup name = none := by
  rw [List.lookup_eq_none_iff]
  intro entry hentry
  have hne : name ≠ entry.1 := by
    rintro rfl
    exact h (List.mem_map_of_mem hentry)
  exact bne_iff_ne.2 hne

/-- Some entry has a name iff an entry is found under it. -/
lemma any_eq_isSome_lookup (l : List (String × α)) (name : String) :
    l.any (·.1 == name) = (l.lookup name).isSome := by
  induction l with
  | nil => rfl
  | cons entry rest ih =>
    rw [List.any_cons, List.lookup_cons, ih, Bool.beq_comm]
    cases name == entry.1 <;> rfl

/-- The entry at the place of a name. -/
lemma lookup_zip (names : List String) (l : List α) {name : String} (h : name ∈ names) :
    (names.zip l).lookup name = l[names.idxOf name]? := by
  induction names generalizing l with
  | nil => exact nomatch h
  | cons n rest ih =>
    cases l with
    | nil => simp
    | cons a l =>
      rw [List.zip_cons_cons, lookup_cons_eq]
      by_cases heq : name = n
      · simp [heq]
      · have hmem : name ∈ rest := (List.mem_cons.1 h).resolve_left heq
        rw [if_neg heq, ih l hmem, List.idxOf_cons_ne rest (Ne.symm heq), List.getElem?_cons_succ]

namespace Config

/-! ## Replacing an entry -/

@[simp]
lemma lookup_put (key name : String) (a : α) (l : List (String × α)) :
    (put key a l).lookup name = if name = key then some a else l.lookup name := by
  induction l with
  | nil => rw [put, lookup_cons_eq]
  | cons entry rest ih =>
    obtain ⟨k, b⟩ := entry
    by_cases hk : k = key
    · subst hk
      simp only [put, if_true, lookup_cons_eq]
      split <;> rfl
    · simp only [put, if_neg hk, lookup_cons_eq, ih]
      by_cases h : name = k
      · subst h
        simp only [if_true, if_neg hk]
      · simp only [if_neg h]

/-- The names stay, and the name of the new entry joins them if it is not among them. -/
lemma names_put (key : String) (a : α) (l : List (String × α)) :
    (put key a l).map Prod.fst =
      if key ∈ l.map Prod.fst then l.map Prod.fst else l.map Prod.fst ++ [key] := by
  induction l with
  | nil => rfl
  | cons entry rest ih =>
    obtain ⟨k, b⟩ := entry
    by_cases hk : k = key
    · subst hk
      simp [put]
    · have hne : ¬key = k := Ne.symm hk
      simp only [put, hk, if_false, List.map_cons, ih, List.mem_cons, hne, false_or]
      split <;> rfl

lemma mem_names_put {key name : String} {a : α} {l : List (String × α)} :
    name ∈ (put key a l).map Prod.fst ↔ name = key ∨ name ∈ l.map Prod.fst := by
  rw [names_put]
  split
  · next hkey =>
    constructor
    · exact Or.inr
    · rintro (rfl | hname)
      · exact hkey
      · exact hname
  · rw [List.mem_append, List.mem_singleton, or_comm]

lemma namesOnce_put {key : String} {a : α} {l : List (String × α)} (h : NamesOnce l) :
    NamesOnce (put key a l) := by
  rw [NamesOnce, names_put]
  split
  · exact h
  · next hkey => exact List.nodup_append.2 ⟨h, List.nodup_singleton key, by
      rintro name hname _ hmem rfl
      exact hkey (List.mem_singleton.1 hmem ▸ hname)⟩

end Config

end Sift
