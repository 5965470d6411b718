import Sift.Proofs.Layering

set_option autoImplicit false
set_option relaxedAutoImplicit false

/-!
# Merging layers into the arguments

The layers are put on top of one another first, and what they give together is then put on top of
the arguments. The second time there is nothing left of paths: the names in what the layers give are
keys that lead to themselves, and none of them occurs twice.

## Main definitions

* `Sift.Config.arguments` — the lowest layer.

## Main results

* `Sift.Config.lookup_mergeEntries_of_namesOnce` — later entries on top of earlier ones.
* `Sift.Config.merged_eq_table` — all layers on top of the arguments.
-/

namespace Sift.Config

/-! ## Entries that later ones are put on -/

lemma namesOnce_mergeEntries (later : Table) {earlier : Table} (h : NamesOnce earlier) :
    NamesOnce (Value.mergeEntries later earlier) := by
  induction later generalizing earlier with
  | nil =>
    rw [Value.mergeEntries]
    exact h
  | cons entry later ih =>
    rw [Value.mergeEntries]
    exact ih (namesOnce_put h)

/-- No name occurs twice in what is written into a table in which none does. -/
lemma namesOnce_assign (path : List Value.Step) (later : Value) {earlier : Option Value}
    (h : NamesOnce (earlier.getD (.table [])).entries) :
    NamesOnce (Value.assign path later earlier).entries := by
  match path with
  | [] =>
    rw [Value.assign]
    cases later with
    | table entries => exact namesOnce_mergeEntries entries h
    | _ => exact namesOnce_nil
  | .key name :: rest =>
    rw [Value.assign]
    exact namesOnce_put h
  | .index _ :: _ => exact namesOnce_nil

lemma namesOnce_written (ws : List Write) :
    NamesOnce ((written none ws).getD (.table [])).entries := by
  induction ws using List.reverseRecOn with
  | nil => exact namesOnce_nil
  | append_singleton ws w ih =>
    rw [written_concat, Option.getD_some]
    exact namesOnce_assign w.1 w.2 ih

lemma namesOnce_of_setting {name : String} {layer : Table} {v : Value}
    (h : setting? name layer = some v) : NamesOnce v.entries := by
  have hwritten := namesOnce_written (writes name layer)
  rw [← setting_eq_written, h] at hwritten
  exact hwritten

/-- The names in what a layer gives are keys that lead to themselves, and none occurs twice. -/
lemma names_entries_assignAll (layer : Table) {v : Value} (honce : NamesOnce v.entries)
    (hself : ∀ name ∈ v.entries.map Prod.fst, KeyPath.ofText name = [.key name]) :
    NamesOnce (Value.assignAll layer v).entries ∧
      ∀ name ∈ (Value.assignAll layer v).entries.map Prod.fst,
        KeyPath.ofText name = [.key name] := by
  induction layer generalizing v with
  | nil => exact ⟨honce, hself⟩
  | cons entry layer ih =>
    obtain ⟨key, value⟩ := entry
    obtain ⟨n, rest, hpath, hn⟩ := KeyPath.ofText_eq_cons key
    rw [assignAll_cons, hpath]
    refine ih (namesOnce_assign _ _ honce) fun name hname => ?_
    rw [Value.assign] at hname
    rcases mem_names_put.1 hname with rfl | hname
    · exact hn
    · exact hself name hname

/-- Where no name occurs twice, what is found under a name is the later entry on top of the earlier
one. -/
lemma lookup_mergeEntries_of_namesOnce (name : String) {later : Table} (h : NamesOnce later)
    (earlier : Table) :
    (Value.mergeEntries later earlier).lookup name =
      ((later.lookup name).map (·.merge (earlier.lookup name))).or (earlier.lookup name) := by
  induction later generalizing earlier with
  | nil => rfl
  | cons entry later ih =>
    obtain ⟨k, v⟩ := entry
    obtain ⟨hnew, hrest⟩ := List.nodup_cons.1 h
    rw [Value.mergeEntries, ih hrest, lookup_put, lookup_cons_eq]
    by_cases hname : name = k
    · subst hname
      rw [lookup_eq_none_of_notMem hnew, if_pos rfl, if_pos rfl]
      rfl
    · rw [if_neg hname, if_neg hname]

/-! ## All layers on top of the arguments -/

/-- The lowest layer. -/
def arguments (service environment : String) : Table :=
  [("service_name", .text service), ("environment", .text environment)]

lemma assignAll_table {later : Table}
    (hself : ∀ name ∈ later.map Prod.fst, KeyPath.ofText name = [.key name]) (earlier : Table) :
    Value.assignAll later (.table earlier) = .table (Value.mergeEntries later earlier) := by
  induction later generalizing earlier with
  | nil =>
    rw [Value.mergeEntries]
    rfl
  | cons entry later ih =>
    obtain ⟨k, v⟩ := entry
    obtain ⟨hk, hrest⟩ := List.forall_mem_cons.1 hself
    rw [assignAll_cons, hk, Value.assign, Value.assign, Value.mergeEntries, ← ih hrest]
    rfl

/-- **All layers together**: what the layers give is merged into the arguments name by name. -/
theorem merged_eq_table (layers : List Table) (service environment : String) :
    merged layers service environment =
      .table (Value.mergeEntries (Value.assignAll layers.flatten (.table [])).entries
        (arguments service environment)) := by
  have hlayers : layers.foldl (fun value layer => Value.assignAll layer value) (.table []) =
      Value.assignAll layers.flatten (.table []) := by
    simp only [Value.assignAll, List.foldl_flatten]
  have hself := (names_entries_assignAll layers.flatten (v := .table []) namesOnce_nil nofun).2
  rw [← assignAll_table hself, ← hlayers]
  rfl

lemma lookup_merged (name : String) (layers : List Table) (service environment : String) :
    (merged layers service environment).entries.lookup name =
      ((setting? name layers.flatten).map
        (·.merge ((arguments service environment).lookup name))).or
        ((arguments service environment).lookup name) := by
  have honce := (names_entries_assignAll layers.flatten (v := .table []) namesOnce_nil nofun).1
  rw [merged_eq_table]
  exact lookup_mergeEntries_of_namesOnce name honce _

end Sift.Config
