import Mathlib.Data.List.Perm.Basic
import Sift.Proofs.Merging

set_option autoImplicit false
set_option relaxedAutoImplicit false

/-!
# The order of entries

The entries of a layer are taken one after the other. Where no two of them lead to the same place,
or one of them to a place on the way of the other, their order is of no importance: whichever is
taken first, the values that they give together look alike, from the outside and from the end of
every path. They may only list the entries of tables in different orders.

## Main definitions

* `Sift.Config.Apart` — two paths can be written to in any order.
* `Sift.Config.Unambiguous` — the entries of a layer lead apart from one another.
* `Sift.Config.Value.Alike` — two values look alike at the end of every path.

## Main results

* `Sift.Config.Value.alike_assign_comm` — the exchange of two writes that lead apart.
* `Sift.Config.alike_written_of_perm` — writes that lead apart, in any order.
* `Sift.Config.alike_setting_of_perm` — what layers give a setting together, with the entries of
  each layer in any order.
-/

namespace Sift.Config

/-! ## Paths that lead apart -/

/-- Two paths lead apart: where they part, both take names, or both take positions that are counted
from the same end. -/
def Apart : List Value.Step → List Value.Step → Prop
  | .key n :: p, .key n' :: q => n ≠ n' ∨ Apart p q
  | .index i :: p, .index j :: q => i ≠ j ∧ (0 ≤ i ↔ 0 ≤ j) ∨ i = j ∧ Apart p q
  | _, _ => False

lemma Apart.symm {p q : List Value.Step} (h : Apart p q) : Apart q p := by
  induction p generalizing q with
  | nil => exact h.elim
  | cons step p ih =>
    match step, q, h with
    | .key _, .key _ :: q, h => exact h.imp Ne.symm ih
    | .index _, .index _ :: q, h =>
      exact h.imp (fun ⟨hne, hend⟩ => ⟨hne.symm, hend.symm⟩) fun ⟨heq, h⟩ => ⟨heq.symm, ih h⟩

/-- The entries of a layer lead apart from one another. -/
def Unambiguous (layer : Table) : Prop :=
  layer.Pairwise fun a b => Apart (KeyPath.ofText a.1) (KeyPath.ofText b.1)

/-- The writes of an unambiguous layer below a name lead apart. -/
lemma Unambiguous.pairwise_writes {layer : Table} (h : Unambiguous layer) (name : String) :
    (writes name layer).Pairwise fun w w' => Apart w.1 w'.1 := by
  refine List.Pairwise.filterMap _ (fun a b hab w hw w' hw' => ?_) h
  obtain ⟨n, rest, hpath, -⟩ := KeyPath.ofText_eq_cons a.1
  obtain ⟨n', rest', hpath', -⟩ := KeyPath.ofText_eq_cons b.1
  rw [hpath, below, Option.ite_none_right_eq_some] at hw
  rw [hpath', below, Option.ite_none_right_eq_some] at hw'
  obtain ⟨rfl, hrest⟩ := hw
  obtain ⟨rfl, hrest'⟩ := hw'
  obtain rfl := Option.some.inj hrest
  obtain rfl := Option.some.inj hrest'
  rw [hpath, hpath'] at hab
  exact hab.resolve_left (absurd rfl)

/-! ## Looking into values -/

namespace Value

/-- What is seen at the end of a path into a value: the outline of what stands there. -/
def look : List Step → Value → Option Value
  | [], v => some v.outline
  | .key name :: rest, v => (v.entries.lookup name).bind (look rest)
  | .index position :: rest, v => v.elements[position.toNat]?.bind (look rest)

/-- Two values, where there are any, look alike at the end of every path. -/
def Alike (v w : Option Value) : Prop :=
  ∀ path, v.bind (look path) = w.bind (look path)

/-- What a value holds at a place. -/
def element? (i : Nat) (v : Option Value) : Option Value :=
  v.bind fun v => v.elements[i]?

lemma element_eq_getElem? (i : Nat) (v : Option Value) :
    element? i v = (v.getD (array [])).elements[i]? := by
  cases v <;> rfl

namespace Alike

lemma refl (v : Option Value) : Alike v v :=
  fun _ => rfl

lemma trans {u v w : Option Value} (h : Alike u v) (h' : Alike v w) : Alike u w :=
  fun path => (h path).trans (h' path)

lemma symm {v w : Option Value} (h : Alike v w) : Alike w v :=
  fun path => (h path).symm

lemma map_outline {v w : Option Value} (h : Alike v w) :
    v.map outline = w.map outline := by
  have hlook := h []
  cases v <;> cases w <;> exact hlook

lemma isSome_eq {v w : Option Value} (h : Alike v w) : v.isSome = w.isSome := by
  rw [← Option.isSome_map (f := outline), h.map_outline, Option.isSome_map]

lemma member {v w : Option Value} (h : Alike v w) (name : String) :
    Alike (member? name v) (member? name w) := by
  intro path
  have hlook := h (.key name :: path)
  rw [member?, member?, Option.bind_assoc, Option.bind_assoc]
  exact hlook

lemma element {v w : Option Value} (h : Alike v w) (i : Nat) :
    Alike (element? i v) (element? i w) := by
  intro path
  have hlook := h (.index i :: path)
  rw [element?, element?, Option.bind_assoc, Option.bind_assoc]
  exact hlook

end Alike

lemma alike_table {es es' : Table} (h : ∀ name, Alike (es.lookup name) (es'.lookup name)) :
    Alike (some (table es)) (some (table es')) := by
  intro path
  match path with
  | [] => rfl
  | .key name :: rest => exact h name rest
  | .index _ :: _ => rfl

lemma alike_array {xs ys : List Value} (h : ∀ i : Nat, Alike xs[i]? ys[i]?) :
    Alike (some (array xs)) (some (array ys)) := by
  intro path
  match path with
  | [] => rfl
  | .key _ :: _ => rfl
  | .index i :: rest => exact h i.toNat rest

/-! ## Merging into values that look alike -/

mutual

/-- A value on top of values that look alike. -/
theorem Alike.merge (later : Value) {v w : Option Value} (h : Alike v w) :
    Alike (some (later.merge v)) (some (later.merge w)) := by
  match later with
  | .table entries =>
    rw [Value.merge, Value.merge]
    refine alike_table (alike_mergeEntries entries fun name => ?_)
    rw [← member_eq_lookup, ← member_eq_lookup]
    exact h.member name
  | .absent | .bool _ | .integer _ | .float _ | .text _ | .array _ =>
    simp only [Value.merge]
    exact .refl _

theorem alike_mergeEntries (later : List (String × Value)) {es es' : Table}
    (h : ∀ name, Alike (es.lookup name) (es'.lookup name)) (name : String) :
    Alike ((mergeEntries later es).lookup name) ((mergeEntries later es').lookup name) := by
  match later with
  | [] =>
    rw [mergeEntries, mergeEntries]
    exact h name
  | (key, value) :: rest =>
    rw [mergeEntries, mergeEntries]
    refine alike_mergeEntries rest (fun name => ?_) name
    rw [lookup_put, lookup_put]
    split
    · exact (h key).merge value
    · exact h name

end

/-! ## Places in arrays -/

/-- The elements with what `f` makes of the one at a place. Gaps fill the way to the place. -/
def placed (i : Nat) (f : Option Value → Value) (xs : List Value) : List Value :=
  let roomy := xs ++ List.replicate (i + 1 - xs.length) absent
  roomy.set i (f roomy[i]?)

lemma getElem?_placed (i : Nat) (f : Option Value → Value) (xs : List Value) (k : Nat) :
    (placed i f xs)[k]? =
      if k = i then some (f (some (xs[i]?.getD absent)))
      else xs[k]?.or (if k < i then some absent else none) := by
  have hroomy (k : Nat) : (xs ++ List.replicate (i + 1 - xs.length) absent)[k]? =
      xs[k]?.or (if k < i + 1 then some absent else none) := by
    rw [List.getElem?_append, List.getElem?_replicate]
    split
    · next hk => rw [List.getElem?_eq_getElem hk, Option.some_or]
    · next hk =>
      rw [List.getElem?_eq_none (Nat.not_lt.1 hk), Option.none_or]
      refine if_congr ?_ rfl rfl
      omega
  have hthere : xs[i]?.or (some absent) = some (xs[i]?.getD absent) := by
    cases xs[i]? <;> rfl
  rw [placed, List.getElem?_set, List.length_append, List.length_replicate, hroomy, hroomy,
    if_pos (Nat.lt_succ_self i), hthere]
  by_cases hk : k = i
  · rw [if_pos hk.symm, if_pos hk, if_pos (by omega)]
  · rw [if_neg (Ne.symm hk), if_neg hk]
    refine congrArg _ (if_congr ?_ rfl rfl)
    omega

/-- Replacing an element of a reversed list. -/
lemma reverse_set_reverse {α : Type} (xs : List α) {i : Nat} (hi : i < xs.length) (a : α) :
    (xs.reverse.set i a).reverse = xs.set (xs.length - 1 - i) a := by
  refine List.ext_getElem (by simp) fun k hk hk' => ?_
  rw [List.length_reverse, List.length_set, List.length_reverse] at hk
  rw [List.getElem_reverse, List.getElem_set, List.getElem_set, List.getElem_reverse]
  simp only [List.length_set, List.length_reverse]
  have hplace : (i = xs.length - 1 - k) ↔ (xs.length - 1 - i = k) := by omega
  refine if_congr hplace rfl ?_
  congr 1
  omega

/-- A place is counted from the front, or from the end, which is the front of the elements in
reverse. -/
lemma assign_index (position : Int) (rest : List Step) (later : Value) (v : Option Value) :
    assign (.index position :: rest) later v =
      array (if 0 ≤ position then
          placed position.toNat (assign rest later) (v.getD (array [])).elements
        else
          (placed (position.natAbs - 1) (assign rest later)
            (v.getD (array [])).elements.reverse).reverse) := by
  generalize hxs : (v.getD (array [])).elements = xs
  rw [assign, hxs, withRoom]
  by_cases hposition : 0 ≤ position
  · rw [if_pos hposition, if_pos hposition]
    rfl
  · rw [if_neg hposition, if_neg hposition]
    refine congrArg array ?_
    have hroom : position.natAbs - 1 + 1 - xs.length = position.natAbs - xs.length := by omega
    have hlength : (List.replicate (position.natAbs - xs.length) absent ++ xs).length =
        position.natAbs - xs.length + xs.length := by simp
    have hplace : (List.replicate (position.natAbs - xs.length) absent ++ xs).length - 1 -
        (position.natAbs - 1) = xs.length - position.natAbs := by omega
    have hwithin : position.natAbs - 1 <
        (List.replicate (position.natAbs - xs.length) absent ++ xs).length := by omega
    simp only [placed, List.length_reverse, hroom]
    rw [← List.reverse_replicate, ← List.reverse_append, reverse_set_reverse _ hwithin,
      List.getElem?_reverse hwithin, hplace, List.reverse_replicate]

/-! ## Writing into values that look alike -/

/-- The elements of arrays that look alike, from the end. -/
lemma alike_getElem?_reverse {xs ys : List Value} (h : ∀ i : Nat, Alike xs[i]? ys[i]?) (i : Nat) :
    Alike xs.reverse[i]? ys.reverse[i]? := by
  have hwithin (i : Nat) : i < xs.length ↔ i < ys.length := by
    have hsome := Bool.eq_iff_iff.1 (h i).isSome_eq
    simpa using hsome
  have hlength : xs.length = ys.length :=
    Nat.le_antisymm (Nat.not_lt.1 fun hlt => Nat.lt_irrefl _ ((hwithin _).1 hlt))
      (Nat.not_lt.1 fun hlt => Nat.lt_irrefl _ ((hwithin _).2 hlt))
  by_cases hi : i < xs.length
  · rw [List.getElem?_reverse hi, List.getElem?_reverse (hlength ▸ hi), ← hlength]
    exact h _
  · have hnone {zs : List Value} (hzs : xs.length = zs.length) : zs.reverse[i]? = none := by
      rw [List.getElem?_eq_none_iff, List.length_reverse, ← hzs]
      exact Nat.not_lt.1 hi
    rw [hnone rfl, hnone hlength]
    exact .refl none

lemma alike_getElem?_placed {xs ys : List Value} (h : ∀ i : Nat, Alike xs[i]? ys[i]?)
    {f g : Option Value → Value}
    (hfg : ∀ {v w : Option Value}, Alike v w → Alike (some (f v)) (some (g w))) (i k : Nat) :
    Alike (placed i f xs)[k]? (placed i g ys)[k]? := by
  have hor {v w : Option Value} (h : Alike v w) (gap : Option Value) :
      Alike (v.or gap) (w.or gap) := by
    cases v <;> cases w
    · exact .refl _
    · exact nomatch h.isSome_eq
    · exact nomatch h.isSome_eq
    · exact h
  have hgetD {v w : Option Value} (h : Alike v w) :
      Alike (some (v.getD absent)) (some (w.getD absent)) := by
    cases v <;> cases w
    · exact .refl _
    · exact nomatch h.isSome_eq
    · exact nomatch h.isSome_eq
    · exact h
  rw [getElem?_placed, getElem?_placed]
  split
  · exact hfg (hgetD (h i))
  · exact hor (h k) _

/-- **Writing keeps likeness**: values that look alike do so after the same write. -/
theorem Alike.assign (path : List Step) (later : Value) {v w : Option Value} (h : Alike v w) :
    Alike (some (assign path later v)) (some (assign path later w)) := by
  induction path generalizing v w with
  | nil =>
    rw [Value.assign, Value.assign]
    exact h.merge later
  | cons step rest ih =>
    cases step with
    | key name =>
      rw [Value.assign, Value.assign]
      refine alike_table fun n => ?_
      rw [lookup_put, lookup_put, ← member_eq_lookup, ← member_eq_lookup, ← member_eq_lookup,
        ← member_eq_lookup]
      split
      · exact ih (h.member name)
      · exact h.member n
    | index position =>
      have helements (i : Nat) :
          Alike (v.getD (array [])).elements[i]? (w.getD (array [])).elements[i]? := by
        rw [← element_eq_getElem?, ← element_eq_getElem?]
        exact h.element i
      rw [assign_index, assign_index]
      refine alike_array fun i => ?_
      split
      · exact alike_getElem?_placed helements ih _ i
      · exact alike_getElem?_reverse
          (alike_getElem?_placed (alike_getElem?_reverse helements) ih _) i

/-! ## The exchange of writes -/

lemma placed_comm {i j : Nat} (hij : i ≠ j) (f g : Option Value → Value) (xs : List Value) :
    placed i f (placed j g xs) = placed j g (placed i f xs) := by
  have hgap (n : Nat) (v : Option Value) (k : Nat) :
      (v.or (if k < n then some absent else none)).getD absent = v.getD absent := by
    cases v with
    | some _ => rfl
    | none => split <;> rfl
  refine List.ext_getElem? fun k => ?_
  simp only [getElem?_placed, if_neg hij, if_neg hij.symm, hgap]
  by_cases hi : k = i
  · rw [if_pos hi, if_pos hi, if_neg (hi ▸ hij), Option.some_or]
  · rw [if_neg hi, if_neg hi]
    by_cases hj : k = j
    · rw [if_pos hj, if_pos hj, Option.some_or]
    · rw [if_neg hj, if_neg hj, Option.or_assoc, Option.or_assoc]
      congr 1
      split <;> split <;> rfl

lemma alike_placed_comm {f g : Option Value → Value}
    (hfg : ∀ v, Alike (some (f (some (g v)))) (some (g (some (f v))))) (i : Nat) (xs : List Value)
    (k : Nat) : Alike (placed i f (placed i g xs))[k]? (placed i g (placed i f xs))[k]? := by
  simp only [getElem?_placed, if_true, Option.getD_some]
  split
  · exact hfg _
  · exact .refl _

/-- **The exchange of two writes** that lead apart.

**Proof sketch.** Induction on the first path. Where the paths part, the writes are into different
entries or at different places, which are filled independently of one another. -/
theorem alike_assign_comm {p q : List Step} (h : Apart p q) (a b : Value) (v : Option Value) :
    Alike (some (assign p a (some (assign q b v)))) (some (assign q b (some (assign p a v)))) := by
  induction p generalizing q v with
  | nil => exact h.elim
  | cons step p ih =>
    match step, q, h with
    | .key n, .key n' :: q, h =>
      simp only [assign, Option.getD_some, entries]
      refine alike_table fun name => ?_
      simp only [lookup_put]
      by_cases hn : n = n'
      · subst hn
        simp only [if_true]
        split
        · exact ih (h.resolve_left (absurd rfl)) _
        · exact .refl _
      · rw [if_neg hn, if_neg (Ne.symm hn)]
        split
        · next hname =>
          rw [if_neg (hname ▸ hn)]
          exact .refl _
        · exact .refl _
    | .index i, .index j :: q, h =>
      simp only [assign_index, Option.getD_some, elements]
      refine alike_array fun k => ?_
      rcases h with ⟨hne, hend⟩ | ⟨rfl, h⟩
      · by_cases hi : 0 ≤ i
        · have hj : 0 ≤ j := hend.1 hi
          rw [if_pos hi, if_pos hi, if_pos hj, if_pos hj, placed_comm (by omega)]
          exact .refl _
        · have hj : ¬0 ≤ j := fun hj => hi (hend.2 hj)
          rw [if_neg hi, if_neg hi, if_neg hj, if_neg hj, List.reverse_reverse,
            List.reverse_reverse, placed_comm (by omega)]
          exact .refl _
      · split
        · exact alike_placed_comm (fun v => ih h v) _ _ k
        · rw [List.reverse_reverse, List.reverse_reverse]
          exact alike_getElem?_reverse (alike_placed_comm (fun v => ih h v) _ _) k

end Value

/-! ## Entries in any order -/

lemma alike_written_congr {v w : Option Value} (h : Value.Alike v w) (ws : List Write) :
    Value.Alike (written v ws) (written w ws) := by
  induction ws generalizing v w with
  | nil => exact h
  | cons write ws ih => exact ih (h.assign write.1 write.2)

/-- **Writes that lead apart** give the same in any order. -/
theorem alike_written_of_perm {ws ws' : List Write} (hperm : ws.Perm ws')
    (hapart : ws.Pairwise fun w w' => Apart w.1 w'.1) (v : Option Value) :
    Value.Alike (written v ws) (written v ws') := by
  induction hperm generalizing v with
  | nil => exact .refl v
  | cons write _ ih => exact ih (List.pairwise_cons.1 hapart).2 _
  | swap first second ws =>
    have hlead : Apart second.1 first.1 := (List.pairwise_cons.1 hapart).1 first List.mem_cons_self
    exact alike_written_congr (Value.alike_assign_comm hlead.symm _ _ v) ws
  | trans hfirst _ ih ih' =>
    have hmiddle := (hfirst.pairwise_iff fun h => Apart.symm h).1 hapart
    exact (ih hapart v).trans (ih' hmiddle v)

/-- **Layers with their entries in any order**: what they give a setting together looks the same. -/
theorem alike_setting_of_perm {layers taken : List Table}
    (hperm : List.Forall₂ List.Perm layers taken) (hclear : ∀ layer ∈ layers, Unambiguous layer)
    (name : String) :
    Value.Alike (setting? name layers.flatten) (setting? name taken.flatten) := by
  have hwritten (v : Option Value) : Value.Alike (written v (writes name layers.flatten))
      (written v (writes name taken.flatten)) := by
    induction hperm generalizing v with
    | nil => exact .refl v
    | cons hlayer _ ih =>
      obtain ⟨hfirst, hrest⟩ := List.forall_mem_cons.1 hclear
      simp only [List.flatten_cons, writes_append, written_append]
      have hswap := alike_written_of_perm (hlayer.filterMap _) (hfirst.pairwise_writes name) v
      exact (alike_written_congr hswap _).trans (ih hrest _)
  rw [setting_eq_written, setting_eq_written]
  exact hwritten none

end Sift.Config
