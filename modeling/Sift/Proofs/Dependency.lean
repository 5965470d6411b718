import Mathlib.Logic.Basic
import Sift.Rule.Matching
import Sift.Proofs.Conjunction
import Sift.Proofs.SingleField

set_option autoImplicit false
set_option relaxedAutoImplicit false

/-!
# What matching looks at

Matching a list of rules looks at the paths that the active rules list, wildcards and unknown
operators aside, and at each of them only at the outside of the value: objects all look alike. The
required fields are these paths without the empty one. A rule can list the empty path, by a blank
field or a stray comma, and then it looks at the member whose name is empty; records that differ in
nothing else may fare differently.

## Main definitions

* `Sift.Json.surface`, `Sift.Field.Alike` — values that differ inside objects only.
* `Sift.Field.Indistinct` — values that no test tells apart.
* `Sift.Rule.Reads` — the paths that matching a rule looks at.

## Main results

* `Sift.CompiledRule.matches_congr` — a rule does not tell records apart whose fields are indistinct.
* `Sift.mem_requiredFields_iff` — the required fields are the paths of active rules but the empty one.
* `Sift.requiredFields_cover_all_but_empty` — agreement on the required fields settles the matter
  unless a rule reads the empty path.
-/

namespace Sift

/-! ## The outside of values -/

namespace Json

mutual

/-- A value without the members of the objects in it. -/
def surface : Json → Json
  | null => null
  | bool b => bool b
  | number n => number n
  | text s => text s
  | array elements => array (surfaceOfAll elements)
  | object _ => object []

/-- Each of several values without the members of the objects in it. -/
def surfaceOfAll : List Json → List Json
  | [] => []
  | v :: rest => v.surface :: surfaceOfAll rest

end

mutual

/-- The text of a value does not show what is inside an object. -/
theorem shownChars_surface (v : Json) : v.surface.shownChars = v.shownChars := by
  match v with
  | null | bool _ | number _ | text _ | object _ => simp only [surface, shownChars_object]
  | array elements =>
    rw [surface, shownChars_array, shownChars_array, shownCharsOfAll_surfaceOfAll elements]

theorem shownCharsOfAll_surfaceOfAll (elements : List Json) :
    shownCharsOfAll (surfaceOfAll elements) = shownCharsOfAll elements := by
  match elements with
  | [] => rw [surfaceOfAll]
  | v :: rest =>
    rw [surfaceOfAll, shownCharsOfAll_cons, shownCharsOfAll_cons, shownChars_surface v,
      shownCharsOfAll_surfaceOfAll rest]

end

@[simp] lemma shown_surface (v : Json) : v.surface.shown = v.shown := by
  rw [shown, shown, shownChars_surface]

end Json

namespace Field

/-- Two fields differ inside objects only. In particular the order in which an object lists its
members makes no difference here. -/
def Alike (v w : Option Json) : Prop :=
  v.map Json.surface = w.map Json.surface

/-- No test tells two fields apart: they hold the same number, and pass the same tests with every
candidate. -/
def Indistinct (v w : Option Json) : Prop :=
  amount v = amount w ∧
    ∀ (op : Operator) (candidate : String), op.passes v candidate = op.passes w candidate

/-! ## What tests look at -/

/-- A search looks at the text of a field that is open to it, and at nothing else. -/
lemma isLike_eq_any (field : Option Json) (candidate : String) :
    isLike field candidate =
      ((searchable? field).map Json.shown).any fun s =>
        Text.contains (Text.lower s) (Text.lower candidate) := by
  rw [isLike]
  cases searchable? field with
  | none => rfl
  | some v => simp only [Option.map_some, Option.any_some]

/-- Fields that hold the same number are indistinct if they equal the same candidates, have the
same truth value, and show the same text where they are open to a search. -/
lemma indistinct_of_eq {v w : Option Json} (hamount : amount v = amount w)
    (hequals : ∀ candidate, equals v candidate = equals w candidate)
    (htruth : ∀ expression, hasTruth v expression = hasTruth w expression)
    (hshown : (searchable? v).map Json.shown = (searchable? w).map Json.shown) :
    Indistinct v w := by
  refine ⟨hamount, fun op candidate => ?_⟩
  have hlike : isLike v candidate = isLike w candidate := by
    rw [isLike_eq_any, isLike_eq_any, hshown]
  cases op <;> simp only [Operator.passes, hamount, hequals, hlike, htruth]

/-! ## Tests look at the outside -/

/-- What gives the same for all arrays, and for all objects, looks at the outside only. -/
lemma apply_surface {α : Type} (f : Option Json → α)
    (harray : ∀ l l', f (some (.array l)) = f (some (.array l')))
    (hobject : ∀ m m', f (some (.object m)) = f (some (.object m'))) (v : Option Json) :
    f (v.map Json.surface) = f v := by
  rcases v with _ | v
  · rfl
  · cases v with
    | array elements => exact harray (Json.surfaceOfAll elements) elements
    | object members => exact hobject [] members
    | _ => rfl

lemma amount_surface (v : Option Json) : amount (v.map Json.surface) = amount v :=
  apply_surface amount (fun _ _ => rfl) (fun _ _ => rfl) v

lemma equals_surface (v : Option Json) (candidate : String) :
    equals (v.map Json.surface) candidate = equals v candidate :=
  apply_surface (equals · candidate) (fun _ _ => rfl) (fun _ _ => rfl) v

lemma hasTruth_surface (v : Option Json) (expression : String) :
    hasTruth (v.map Json.surface) expression = hasTruth v expression :=
  apply_surface (hasTruth · expression) (fun _ _ => rfl) (fun _ _ => rfl) v

lemma searchable?_surface (v : Option Json) :
    searchable? (v.map Json.surface) = (searchable? v).map Json.surface := by
  rcases v with _ | v
  · rfl
  · cases v with
    | null => rfl
    | bool b => rfl
    | number n => cases hzero : n.isZero <;> simp [searchable?, isFalsy, hzero, Json.surface]
    | text s => cases hempty : s.isEmpty <;> simp [searchable?, isFalsy, hempty, Json.surface]
    | array elements => rfl
    | object members => rfl

lemma map_shown_searchable?_surface (v : Option Json) :
    (searchable? (v.map Json.surface)).map Json.shown = (searchable? v).map Json.shown := by
  rw [searchable?_surface]
  cases searchable? v with
  | none => rfl
  | some w => simp only [Option.map_some, Json.shown_surface]

/-- Fields that differ inside objects only are indistinct. -/
lemma Alike.indistinct {v w : Option Json} (h : Alike v w) : Indistinct v w := by
  refine indistinct_of_eq ?_ (fun candidate => ?_) (fun expression => ?_) ?_
  · rw [← amount_surface v, ← amount_surface w, h]
  · rw [← equals_surface v, ← equals_surface w, h]
  · rw [← hasTruth_surface v, ← hasTruth_surface w, h]
  · rw [← map_shown_searchable?_surface v, ← map_shown_searchable?_surface w, h]

end Field

/-! ## Rules look at the paths they list -/

/-- A search over a list depends on the test of its entries alone. -/
lemma any_congr_of_mem {α : Type} {l : List α} {p q : α → Bool} (h : ∀ a ∈ l, p a = q a) :
    l.any p = l.any q := by
  rw [Bool.eq_iff_iff, List.any_eq_true, List.any_eq_true]
  refine exists_congr fun a => and_congr_right fun ha => ?_
  rw [h a ha]

namespace CompiledRule

/-- **A rule does not tell records apart whose fields are indistinct** at each of the paths it lists.
If it is a wildcard or has an unknown operator, it looks at no field at all. -/
theorem matches_congr {r : CompiledRule} {record₁ record₂ : Json}
    (h : ∀ op, r.operator = some op → op.isWildcard = false → ∀ path ∈ r.fields,
      Field.Indistinct (record₁.resolve? path) (record₂.resolve? path)) :
    r.matches record₁ = r.matches record₂ := by
  have hamount : ∀ op, r.operator = some op → op.isWildcard = false → ∀ path ∈ r.fields,
      record₁.amountAt path = record₂.amountAt path :=
    fun op hop hwild path hpath => (h op hop hwild path hpath).1
  cases hop : r.operator with
  | none => simp only [CompiledRule.matches, hop]
  | some op =>
    cases op with
    | includeAll | excludeAll => simp only [CompiledRule.matches, hop]
    | aggregate aggregation comparison =>
      have hnumbers : r.fields.map record₁.amountAt = r.fields.map record₂.amountAt :=
        List.map_congr_left (hamount _ hop rfl)
      simp only [CompiledRule.matches, hop, hnumbers]
    | between =>
      simp only [CompiledRule.matches, hop]
      cases r.range with
      | none => rfl
      | some bounds =>
        refine any_congr_of_mem fun path hpath => ?_
        rw [hamount _ hop rfl path hpath]
    | _ =>
      simp only [CompiledRule.matches, hop]
      refine any_congr_of_mem fun path hpath => ?_
      refine any_congr_of_mem fun candidate _ => ?_
      exact (h _ hop rfl path hpath).2 _ candidate

end CompiledRule

/-- Matching a rule looks at a path: the rule is active, its operator looks at fields, and its field
lists the path. -/
def Rule.Reads (r : Rule) (path : String) : Prop :=
  r.isActive = true ∧ (∃ op, Operator.ofSymbol? r.operator = some op ∧ op.isWildcard = false) ∧
    path ∈ Rule.entries r.field

/-- An active rule does not tell records apart whose fields are indistinct at the paths that
matching it looks at. -/
lemma Rule.matches_congr {r : Rule} {record₁ record₂ : Json} (hactive : r.isActive = true)
    (h : ∀ path, r.Reads path →
      Field.Indistinct (record₁.resolve? path) (record₂.resolve? path)) :
    r.matches record₁ = r.matches record₂ := by
  refine CompiledRule.matches_congr fun op hop hwild path hpath => ?_
  exact h path ⟨hactive, ⟨op, hop, hwild⟩, hpath⟩

/-- Rules do not tell records apart that none of the active ones tells apart. -/
lemma matchesAll_congr_record {rules : List Rule} {record₁ record₂ : Json}
    (h : ∀ r ∈ rules, r.isActive = true → r.matches record₁ = r.matches record₂) :
    matchesAll rules record₁ = matchesAll rules record₂ := by
  have hforall : (∀ r ∈ rules, r.isActive = true → r.matches record₁ = true) ↔
      ∀ r ∈ rules, r.isActive = true → r.matches record₂ = true := by
    refine forall₃_congr fun r hr hactive => ?_
    rw [h r hr hactive]
  rw [Bool.eq_iff_iff, matchesAll_iff, matchesAll_iff, hforall]

/-! ## Required fields -/

/-- The required fields are the paths that active rules list, but for the empty path. -/
theorem mem_requiredFields_iff (rules : List Rule) (path : String) :
    path ∈ requiredFields rules ↔
      path ≠ "" ∧ ∃ r ∈ rules, r.isActive = true ∧ path ∈ Rule.entries r.field := by
  have hnonempty : (!path.isEmpty) = true ↔ path ≠ "" := by simp
  simp only [requiredFields, List.mem_mergeSort, List.mem_eraseDups, List.mem_filter,
    List.mem_flatMap, Rule.fields_compile, hnonempty, and_assoc]
  exact and_comm

/-- The required fields cover what matching a rule looks at, except for the empty path. -/
lemma Rule.Reads.mem_requiredFields {r : Rule} {path : String} (h : r.Reads path)
    {rules : List Rule} (hr : r ∈ rules) (hpath : path ≠ "") : path ∈ requiredFields rules :=
  (mem_requiredFields_iff rules path).2 ⟨hpath, r, hr, h.1, h.2.2⟩

/-- **Agreement on the required fields settles what rules match, unless one reads the empty path.**
The required fields cover all paths that matching looks at iff none of these is empty. Two records
that agree on the required fields, be it only outside of objects, fare alike; if they do not, then
because some rule that reads the empty path tells them apart, and they differ in the member whose
name is empty. -/
theorem requiredFields_cover_all_but_empty (rules : List Rule) :
    ((∀ r ∈ rules, ∀ path, r.Reads path → path ∈ requiredFields rules) ↔
      ∀ r ∈ rules, ¬r.Reads "") ∧
    ∀ record₁ record₂ : Json,
      (∀ path ∈ requiredFields rules,
        Field.Alike (record₁.resolve? path) (record₂.resolve? path)) →
      matchesAll rules record₁ = matchesAll rules record₂ ∨
        ∃ r ∈ rules, r.Reads "" ∧ r.matches record₁ ≠ r.matches record₂ ∧
          ¬Field.Alike (record₁.member? "") (record₂.member? "") := by
  refine ⟨⟨fun hcover r hr hreads => ?_, fun hnone r hr path hreads => ?_⟩,
    fun record₁ record₂ hagree => ?_⟩
  · exact ((mem_requiredFields_iff rules "").1 (hcover r hr "" hreads)).1 rfl
  · refine hreads.mem_requiredFields hr ?_
    rintro rfl
    exact hnone r hr hreads
  · -- the records fare alike unless an active rule tells them apart; follow that rule's paths
    by_contra hcontra
    obtain ⟨hdiffer, hblame⟩ := not_or.1 hcontra
    refine hdiffer (matchesAll_congr_record fun r hr hactive => ?_)
    by_contra hrule
    refine hrule (Rule.matches_congr hactive fun path hreads => ?_)
    by_cases hpath : path = ""
    · subst hpath
      rw [Json.resolve?_empty, Json.resolve?_empty]
      by_contra hunnamed
      exact hblame ⟨r, hr, hreads, hrule, fun halike => hunnamed halike.indistinct⟩
    · exact (hagree path (hreads.mem_requiredFields hr hpath)).indistinct

/-- A stray comma lists the empty path, which is no required field: two records without a name are
told apart by the member whose name is empty. -/
theorem requiredFields_cover_all_but_empty_stray_comma :
    (∀ path ∈ requiredFields [⟨",name", "=", "x"⟩],
      Field.Alike ((Json.object [("", .text "x")]).resolve? path) ((Json.object []).resolve? path)) ∧
    matchesAll [⟨",name", "=", "x"⟩] (.object [("", .text "x")]) = true ∧
    matchesAll [⟨",name", "=", "x"⟩] (.object []) = false ∧
    ∃ r ∈ [(⟨",name", "=", "x"⟩ : Rule)], r.Reads "" ∧
      r.matches (.object [("", .text "x")]) ≠ r.matches (.object []) := by
  have hagree : ∀ path ∈ requiredFields [⟨",name", "=", "x"⟩],
      Field.Alike ((Json.object [("", .text "x")]).resolve? path)
        ((Json.object []).resolve? path) := by
    intro path hpath
    obtain ⟨hne, r, hr, -, hlisted⟩ := (mem_requiredFields_iff _ path).1 hpath
    obtain rfl : r = ⟨",name", "=", "x"⟩ := List.mem_singleton.1 hr
    have hentries : Rule.entries ",name" = ["", "name"] := by decide
    obtain rfl : path = "name" := by simpa [hentries, hne] using hlisted
    rfl
  have hfull : matchesAll [⟨",name", "=", "x"⟩] (.object [("", .text "x")]) = true := by decide
  have hempty : matchesAll [⟨",name", "=", "x"⟩] (.object []) = false := by decide
  refine ⟨hagree, hfull, hempty, ?_⟩
  rcases (requiredFields_cover_all_but_empty _).2 _ _ hagree with heq | ⟨r, hr, hreads, hdiffer, -⟩
  · rw [hfull, hempty] at heq
    exact absurd heq (by decide)
  · exact ⟨r, hr, hreads, hdiffer⟩

end Sift
