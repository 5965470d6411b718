import Mathlib.Data.List.Induction
import Mathlib.Data.List.TakeWhile
import Sift.Config.Settings
import Sift.Proofs.Lookup

set_option autoImplicit false
set_option relaxedAutoImplicit false

/-!
# What layers give together

A layer is a list of keyed values, and layers are put on top of one another value by value. What a
setting is in the end can be told from the layers themselves: it is what the last layer that has the
setting gives it. For a setting inside a section the same holds of the layers that come after the
section was last something other than a table.

All this is up to the contents of tables and arrays, which join what was there before. They do not
matter to a setting that is a truth value, a number or a text.

## Main definitions

* `Sift.Config.Value.outline` — a value without the contents of tables and arrays.
* `Sift.Config.setting?`, `Sift.Config.sectionSetting?` — what a layer gives a setting.
* `Sift.Config.breaks` — a layer makes a section something other than a table.
* `Sift.Config.standing` — the layers from the last one on that breaks a section.
* `Sift.Config.last?` — what the last layer gives that gives anything.

## Main results

* `Sift.Config.setting_flatten` — the last layer that has a setting decides.
* `Sift.Config.sectionSetting_flatten` — the last standing layer that has a setting of a section
  decides.
-/

namespace Sift.Config

/-! ## Outlines -/

/-- A value without the contents of tables and arrays. -/
def Value.outline : Value → Value
  | table _ => table []
  | array _ => array []
  | value => value

lemma Value.outline_merge (later : Value) (earlier : Option Value) :
    (later.merge earlier).outline = later.outline := by
  cases later <;> simp only [merge, outline]

/-- What stands at the outset of a path does not matter to the outline of the whole. -/
lemma Value.outline_assign (path : List Step) (later : Value) (earlier earlier' : Option Value) :
    (assign path later earlier).outline = (assign path later earlier').outline := by
  match path with
  | [] => rw [assign, assign, outline_merge, outline_merge]
  | .key _ :: _ => rw [assign, assign, outline, outline]
  | .index _ :: _ => simp only [assign, outline]

lemma Value.toBool_outline (v : Value) : v.outline.toBool = v.toBool := by
  cases v <;> rfl

lemma Value.toText_outline (v : Value) : v.outline.toText = v.toText := by
  cases v <;> rfl

/-! ## Paths -/

namespace KeyPath

/-- A name in a path is a key that leads to itself. -/
lemma ofText_ofList {name : List Char} (hname : name ≠ [])
    (hchars : ∀ c ∈ name, isNameChar c = true) :
    ofText (String.ofList name) = [.key (String.ofList name)] := by
  have htake : name.takeWhile isNameChar = name := List.takeWhile_eq_self_iff.2 hchars
  have hdrop : name.dropWhile isNameChar = [] := List.dropWhile_eq_nil_iff.2 hchars
  rw [ofText, ofChars?, String.toList_ofList, stepsWithin, htake, hdrop]
  cases name with
  | nil => exact absurd rfl hname
  | cons c rest => rfl

/-- Every key leads into a table, by a name that is a key that leads to itself. -/
lemma ofText_eq_cons (key : String) :
    ∃ name rest, ofText key = .key name :: rest ∧ ofText name = [.key name] := by
  cases hpath : ofChars? key.toList with
  | none =>
    have hself : ofText key = [.key key] := by rw [ofText, hpath, Option.getD_none]
    exact ⟨key, [], hself, hself⟩
  | some path =>
    have hsteps : ofText key = path := by rw [ofText, hpath, Option.getD_some]
    rw [ofChars?, stepsWithin] at hpath
    split at hpath
    · exact nomatch hpath
    · next hname =>
      obtain ⟨rest, -, rfl⟩ := Option.map_eq_some_iff.1 hpath
      exact ⟨_, rest, hsteps, ofText_ofList hname fun _ hc => List.mem_takeWhile_imp hc⟩

end KeyPath

/-! ## Writes -/

/-- A value to be put at the end of a path. -/
abbrev Write : Type :=
  List Value.Step × Value

/-- The rest of a write that leads into the entry of a given name. -/
def below (name : String) : Write → Option Write
  | (.key n :: rest, v) => if n = name then some (rest, v) else none
  | _ => none

/-- The writes that a layer has below a name. -/
def writes (name : String) (layer : Table) : List Write :=
  layer.filterMap fun entry => below name (KeyPath.ofText entry.1, entry.2)

/-- What writes make of a value. -/
def written (start : Option Value) (ws : List Write) : Option Value :=
  ws.foldl (fun v w => some (Value.assign w.1 w.2 v)) start

lemma assignAll_cons (key : String) (v : Value) (layer : Table) (earlier : Value) :
    Value.assignAll ((key, v) :: layer) earlier =
      Value.assignAll layer (Value.assign (KeyPath.ofText key) v (some earlier)) :=
  rfl

lemma writes_cons (name key : String) (v : Value) (layer : Table) :
    writes name ((key, v) :: layer) =
      (below name (KeyPath.ofText key, v)).toList ++ writes name layer := by
  rw [writes, List.filterMap_cons, writes]
  cases below name (KeyPath.ofText key, v) <;> rfl

lemma writes_append (name : String) (l l' : Table) :
    writes name (l ++ l') = writes name l ++ writes name l' :=
  List.filterMap_append

lemma written_append (start : Option Value) (ws ws' : List Write) :
    written start (ws ++ ws') = written (written start ws) ws' :=
  List.foldl_append

lemma written_concat (start : Option Value) (ws : List Write) (w : Write) :
    written start (ws ++ [w]) = some (Value.assign w.1 w.2 (written start ws)) := by
  rw [written_append]
  rfl

/-- **Entries are written independently**: under a name there is what the writes below the name make
of what was there before. -/
theorem lookup_entries_assignAll (name : String) (layer : Table) (v : Value) :
    (Value.assignAll layer v).entries.lookup name =
      written (v.entries.lookup name) (writes name layer) := by
  induction layer generalizing v with
  | nil => rfl
  | cons entry layer ih =>
    obtain ⟨key, value⟩ := entry
    obtain ⟨n, rest, hpath, -⟩ := KeyPath.ofText_eq_cons key
    rw [assignAll_cons, ih, writes_cons, hpath, Value.assign, Value.entries, lookup_put,
      Option.getD_some, written_append, below]
    by_cases hname : name = n
    · subst hname
      rw [if_pos rfl, if_pos rfl]
      rfl
    · rw [if_neg hname, if_neg (Ne.symm hname)]
      rfl

/-- Up to its outline, a written value is what the last writes make of nothing, if there are any. -/
lemma outline_written_append (start : Option Value) (ws ws' : List Write) :
    (written start (ws ++ ws')).map Value.outline =
      ((written none ws').or (written start ws)).map Value.outline := by
  rcases List.eq_nil_or_concat ws' with rfl | ⟨ws', w, rfl⟩
  · rw [List.append_nil]
    rfl
  · rw [List.concat_eq_append, ← List.append_assoc, written_concat, written_concat, Option.some_or,
      Option.map_some, Option.map_some, Value.outline_assign]

/-! ## Settings -/

/-- What a layer gives a setting. -/
def setting? (name : String) (layer : Table) : Option Value :=
  (Value.assignAll layer (.table [])).entries.lookup name

/-- What the last layer gives that gives anything. -/
def last? (given? : Table → Option Value) (layers : List Table) : Option Value :=
  layers.reverse.findSome? given?

lemma setting_eq_written (name : String) (layer : Table) :
    setting? name layer = written none (writes name layer) :=
  lookup_entries_assignAll name layer (.table [])

lemma last_singleton (given? : Table → Option Value) (layer : Table) :
    last? given? [layer] = given? layer := by
  rw [last?, List.reverse_singleton, List.findSome?_singleton]

lemma last_concat (given? : Table → Option Value) (layers : List Table) (layer : Table) :
    last? given? (layers ++ [layer]) = (given? layer).or (last? given? layers) := by
  rw [last?, List.reverse_append, List.reverse_singleton, List.singleton_append,
    List.findSome?_cons]
  cases given? layer <;> rfl

/-- **The last layer decides**: what all layers give a setting together is, up to its outline, what
the last of them gives that has the setting.

**Proof sketch.** Induction on the number of layers, from the last one. If it has a write for the
setting, the outline is that of its last write; otherwise the earlier layers decide. -/
theorem setting_flatten (name : String) (layers : List Table) :
    (setting? name layers.flatten).map Value.outline =
      (last? (setting? name) layers).map Value.outline := by
  induction layers using List.reverseRecOn with
  | nil => rfl
  | append_singleton layers layer ih =>
    rw [setting_eq_written] at ih
    rw [last_concat, List.flatten_append, List.flatten_singleton, setting_eq_written, writes_append,
      outline_written_append, Option.map_or, ih, ← setting_eq_written, ← Option.map_or]

/-! ## Settings of sections -/

/-- What a value holds under a key. -/
def member? (key : String) (v : Option Value) : Option Value :=
  v.bind fun v => v.entries.lookup key

/-- What a layer gives a setting of a section. -/
def sectionSetting? (name key : String) (layer : Table) : Option Value :=
  member? key (setting? name layer)

/-- A write makes what it is for something other than a table. -/
def replaces : Write → Bool
  | ([], .table _) => false
  | ([], _) => true
  | (.key _ :: _, _) => false
  | (.index _ :: _, _) => true

/-- A layer makes a section something other than a table, even if the same layer makes it a table
again. -/
def breaks (name : String) (layer : Table) : Bool :=
  (writes name layer).any replaces

/-- The layers that bear on the settings of a section: those from the last one on that breaks it, or
all of them if none does. -/
def standing (name : String) : List Table → List Table
  | [] => []
  | layer :: rest => bif rest.any (breaks name) then standing name rest else layer :: rest

lemma standing_concat (name : String) (layers : List Table) (layer : Table) :
    standing name (layers ++ [layer]) =
      if breaks name layer then [layer] else standing name layers ++ [layer] := by
  induction layers with
  | nil =>
    have hone : standing name [layer] = [layer] := rfl
    rw [List.nil_append, hone]
    exact (ite_self _).symm
  | cons first layers ih =>
    rw [List.cons_append, standing, ih, List.any_append, List.any_cons, List.any_nil, Bool.or_false,
      standing]
    by_cases hlayer : breaks name layer = true
    · rw [hlayer, Bool.or_true]
      rfl
    · rw [Bool.not_eq_true] at hlayer
      rw [hlayer, Bool.or_false]
      by_cases hlayers : layers.any (breaks name) = true
      · rw [hlayers]
        rfl
      · rw [Bool.not_eq_true] at hlayers
        rw [hlayers]
        rfl

/-- Later entries decide, up to their outlines. -/
lemma lookup_mergeEntries (key : String) (later earlier : Table) :
    ((Value.mergeEntries later earlier).lookup key).map Value.outline =
      (((Value.mergeEntries later []).lookup key).or (earlier.lookup key)).map Value.outline := by
  induction later generalizing earlier with
  | nil => rfl
  | cons entry later ih =>
    obtain ⟨k, v⟩ := entry
    rw [Value.mergeEntries, Value.mergeEntries, ih, lookup_put, Option.map_or, Option.map_or,
      ih (put k _ []), lookup_put, Option.map_or, Option.or_assoc]
    -- what the entries after this one give decides in both cases
    congr 1
    by_cases hkey : key = k
    · rw [if_pos hkey, if_pos hkey, Option.map_some, Option.map_some, Value.outline_merge,
        Value.outline_merge, Option.some_or]
    · rw [if_neg hkey, if_neg hkey]
      rfl

lemma member_eq_lookup (key : String) (v : Option Value) :
    member? key v = (v.getD (.table [])).entries.lookup key := by
  cases v <;> rfl

/-- A write into a member of a section changes this member only. -/
lemma member_assign_key (key n : String) (rest : List Value.Step) (value : Value)
    (v : Option Value) :
    member? key (some (Value.assign (.key n :: rest) value v)) =
      if key = n then some (Value.assign rest value (member? n v)) else member? key v := by
  rw [member_eq_lookup n, member_eq_lookup key v, ← lookup_put]
  rfl

/-- **One write**: what a section holds under a key after a write is what the write alone gives, or
else what was there before, unless the write replaces the section. -/
lemma member_assign (key : String) (w : Write) (v : Option Value) :
    (member? key (some (Value.assign w.1 w.2 v))).map Value.outline =
      ((member? key (some (Value.assign w.1 w.2 none))).or
        (if replaces w then none else member? key v)).map Value.outline := by
  obtain ⟨path, value⟩ := w
  match path with
  | [] =>
    cases value with
    | table entries =>
      have hkeeps : replaces ([], .table entries) = false := rfl
      rw [hkeeps, if_neg Bool.false_ne_true, member_eq_lookup key v]
      exact lookup_mergeEntries key entries _
    | _ => rfl
  | .key n :: rest =>
    have hkeeps : replaces (.key n :: rest, value) = false := rfl
    rw [hkeeps, if_neg Bool.false_ne_true, member_assign_key, member_assign_key]
    by_cases hkey : key = n
    · rw [if_pos hkey, if_pos hkey, Option.map_some, Option.some_or, Option.map_some,
        Value.outline_assign]
    · rw [if_neg hkey, if_neg hkey]
      rfl
  | .index _ :: _ => rfl

/-- **Many writes**: the same holds of the writes of a layer, which replace the section if any of
them does.

**Proof sketch.** Induction on the number of writes, from the last one: it decides by itself, unless
it gives nothing and leaves the section a table. -/
lemma member_written (key : String) (v : Option Value) (ws : List Write) :
    (member? key (written v ws)).map Value.outline =
      ((member? key (written none ws)).or
        (if ws.any replaces then none else member? key v)).map Value.outline := by
  induction ws using List.reverseRecOn with
  | nil => rfl
  | append_singleton ws w ih =>
    rw [written_concat, written_concat, member_assign, Option.map_or, Option.map_or,
      member_assign key w (written none ws), Option.map_or, List.any_append, List.any_cons,
      List.any_nil, Bool.or_false]
    by_cases hw : replaces w = true
    · simp [hw]
    · rw [Bool.not_eq_true] at hw
      simp only [hw, Bool.or_false, Bool.false_eq_true, if_false, ih, Option.map_or,
        Option.or_assoc]

/-- **The last standing layer decides**: what all layers give a setting of a section together is, up
to its outline, what the last of the layers gives that has the setting, among those from the last
one on that breaks the section.

**Proof sketch.** Induction on the number of layers, from the last one. What it does not give comes
from the earlier ones, unless it breaks the section. -/
theorem sectionSetting_flatten (name key : String) (layers : List Table) :
    (sectionSetting? name key layers.flatten).map Value.outline =
      (last? (sectionSetting? name key) (standing name layers)).map Value.outline := by
  induction layers using List.reverseRecOn with
  | nil => rfl
  | append_singleton layers layer ih =>
    rw [sectionSetting?, setting_eq_written] at ih
    rw [List.flatten_append, List.flatten_singleton, sectionSetting?, setting_eq_written,
      writes_append, written_append, member_written, standing_concat, ← breaks,
      ← setting_eq_written, ← sectionSetting?]
    by_cases hbreaks : breaks name layer = true
    · rw [if_pos hbreaks, if_pos hbreaks, Option.or_none, last_singleton]
    · rw [if_neg hbreaks, if_neg hbreaks, last_concat, Option.map_or, ih, ← Option.map_or]

end Sift.Config
