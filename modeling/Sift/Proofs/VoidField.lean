import Sift.Proofs.Dependency

set_option autoImplicit false
set_option relaxedAutoImplicit false

/-!
# Void fields

A field without a value can be so in several ways: it is missing, it is `null`, a zero of either
sign, or the empty text. No test tells these apart, so records that differ in nothing else fare
alike with all rules, down to the reports on them. The value `false` is different: it is as falsy as
the others, but a search finds it.

## Main definitions

* `Sift.Field.isVoid` — the fields without a value.

## Main results

* `Sift.Field.indistinct_none_iff` — no test tells a void field from a missing one.
* `Sift.MatchReport.ofRules_congr` — a report depends on what the active rules match.
* `Sift.void_fields_fare_alike` — records that agree up to void fields fare alike.
-/

namespace Sift

namespace Field

/-- A field is missing, or it is `null`, zero or the empty text. -/
def isVoid : Option Json → Bool
  | none => true
  | some .null => true
  | some (.number n) => n.isZero
  | some (.text s) => s.isEmpty
  | some (.bool _) | some (.array _) | some (.object _) => false

lemma isFalsy_of_isVoid {v : Option Json} (h : isVoid v = true) : isFalsy v = true := by
  rcases v with _ | v
  · rfl
  · cases v with
    | null => rfl
    | number n => exact h
    | text s => exact h
    | bool b | array elements | object members => exact absurd h Bool.false_ne_true

/-- The void fields are those that are not open to a search: a truth value is, also where it is
falsy. -/
lemma searchable?_eq_none_iff (v : Option Json) : searchable? v = none ↔ isVoid v = true := by
  rcases v with _ | v
  · simp [searchable?, isVoid]
  · cases v with
    | null => simp [searchable?, isFalsy, isVoid]
    | bool b => simp [searchable?, isVoid]
    | number n => cases hzero : n.isZero <;> simp [searchable?, isFalsy, isVoid, hzero]
    | text s => simp [searchable?, isFalsy, isVoid]
    | array elements => simp [searchable?, isFalsy, isVoid]
    | object members => simp [searchable?, isFalsy, isVoid]

/-- A search for the empty text succeeds in every field that is open to it. -/
lemma isLike_empty (v : Option Json) : isLike v "" = (searchable? v).isSome := by
  have hlower : Text.lower "" = "" := by decide
  have hoccurs : ∀ hay : List Char, Text.occursIn [] hay = true := by
    intro hay
    cases hay <;> rfl
  rw [isLike]
  cases searchable? v with
  | none => rfl
  | some w =>
    simp only [hlower, Text.contains, String.toList_empty, hoccurs, Option.isSome_some]

/-- A void field passes the same tests as a missing one: it equals nothing, nothing is found in it,
it is false, and its number is zero. -/
lemma indistinct_none_of_isVoid {v : Option Json} (h : isVoid v = true) : Indistinct v none := by
  have hfalsy : isFalsy v = true := isFalsy_of_isVoid h
  refine indistinct_of_eq (if_pos hfalsy) (fun candidate => ?_) (fun _ => if_pos hfalsy) ?_
  · simp only [equals, hfalsy, Bool.not_true, Bool.false_and, Bool.and_false]
  · rw [(searchable?_eq_none_iff v).2 h]
    rfl

/-- **The void fields** are those that no test tells from a missing one. -/
theorem indistinct_none_iff (v : Option Json) : Indistinct v none ↔ isVoid v = true := by
  constructor
  · intro h
    have hlike : isLike v "" = isLike none "" := h.2 .like ""
    rw [isLike_empty, isLike_empty] at hlike
    rw [← searchable?_eq_none_iff, ← Option.isNone_iff_eq_none, ← Option.isSome_eq_false_iff]
    exact hlike
  · exact indistinct_none_of_isVoid

/-- No test tells two void fields apart. -/
lemma indistinct_of_isVoid {v w : Option Json} (hv : isVoid v = true) (hw : isVoid w = true) :
    Indistinct v w := by
  obtain ⟨hamountv, hpassesv⟩ := (indistinct_none_iff v).2 hv
  obtain ⟨hamountw, hpassesw⟩ := (indistinct_none_iff w).2 hw
  constructor
  · rw [hamountv, hamountw]
  · intro op candidate
    rw [hpassesv, hpassesw]

end Field

/-! ## Records that agree up to void fields -/

/-- A report depends on what the active rules match. -/
lemma MatchReport.ofRules_congr {record₁ record₂ : Json} {rules : List CompiledRule}
    (h : ∀ r ∈ rules, r.rule.isActive = true → r.matches record₁ = r.matches record₂)
    (matched : Bool) (index : Nat) :
    ofRules record₁ matched index rules = ofRules record₂ matched index rules := by
  induction rules generalizing matched index with
  | nil => rfl
  | cons r rest ih =>
    have hrest := ih fun r' hr' => h r' (List.mem_cons_of_mem r hr')
    rw [ofRules, ofRules, hrest, hrest]
    by_cases hactive : r.rule.isActive = true
    · rw [h r List.mem_cons_self hactive]
    · simp only [hactive, Bool.not_false, if_true]

/-- **Records that agree up to void fields fare alike.** If at each path that an active rule lists,
two records hold values that differ inside objects at most, or void fields on both sides, then every
active rule matches both or neither, and so do the rules together; and the reports on the records
are the same, under any settings. -/
theorem void_fields_fare_alike (rules : List Rule) (record₁ record₂ : Json)
    (h : ∀ r ∈ rules, r.isActive = true → ∀ path ∈ Rule.entries r.field,
      Field.Alike (record₁.resolve? path) (record₂.resolve? path) ∨
        Field.isVoid (record₁.resolve? path) = true ∧
          Field.isVoid (record₂.resolve? path) = true) :
    (∀ r ∈ rules, r.isActive = true → r.matches record₁ = r.matches record₂) ∧
    matchesAll rules record₁ = matchesAll rules record₂ ∧
    ∀ e : Engine, e.explain record₁ rules = e.explain record₂ rules := by
  have hrules : ∀ r ∈ rules, r.isActive = true → r.matches record₁ = r.matches record₂ := by
    intro r hr hactive
    refine Rule.matches_congr hactive fun path hreads => ?_
    rcases h r hr hactive path hreads.2.2 with halike | ⟨hvoid₁, hvoid₂⟩
    · exact halike.indistinct
    · exact Field.indistinct_of_isVoid hvoid₁ hvoid₂
  refine ⟨hrules, matchesAll_congr_record hrules, fun e => Logged.ext ?_ rfl⟩
  have hreport : MatchReport.ofRules record₁ false 0 (rules.map Rule.compile) =
      MatchReport.ofRules record₂ false 0 (rules.map Rule.compile) := by
    refine MatchReport.ofRules_congr ?_ false 0
    intro c hc hactive
    obtain ⟨r, hr, rfl⟩ := List.mem_map.1 hc
    exact hrules r hr hactive
  simp only [Engine.explain, Logged.value_bind, Logged.value_pure, Engine.value_compile, hreport]

/-- A missing price and a negative zero, and a missing tag and an empty one, differ alike from a
candidate. -/
theorem void_fields_fare_alike_negative_zero :
    let bare : Json := .object []
    let full : Json :=
      .object [("price", .number (.float (.signedZero true) rfl)), ("tag", .text "")]
    (∀ r ∈ [(⟨"price, tag", "!=", "x"⟩ : Rule)], r.isActive = true →
      ∀ path ∈ Rule.entries r.field,
        Field.Alike (bare.resolve? path) (full.resolve? path) ∨
          Field.isVoid (bare.resolve? path) = true ∧ Field.isVoid (full.resolve? path) = true) ∧
    matchesAll [⟨"price, tag", "!=", "x"⟩] bare = true ∧
    matchesAll [⟨"price, tag", "!=", "x"⟩] full = true := by
  intro bare full
  have hvoid : ∀ r ∈ [(⟨"price, tag", "!=", "x"⟩ : Rule)], r.isActive = true →
      ∀ path ∈ Rule.entries r.field,
        Field.Alike (bare.resolve? path) (full.resolve? path) ∨
          Field.isVoid (bare.resolve? path) = true ∧ Field.isVoid (full.resolve? path) = true := by
    intro r hr _ path hpath
    obtain rfl := List.mem_singleton.1 hr
    have hentries : Rule.entries "price, tag" = ["price", "tag"] := by decide
    rw [hentries] at hpath
    simp only [List.mem_cons, List.not_mem_nil, or_false] at hpath
    rcases hpath with rfl | rfl
    · exact Or.inr ⟨by decide, by decide⟩
    · exact Or.inr ⟨by decide, by decide⟩
  have hbare : matchesAll [⟨"price, tag", "!=", "x"⟩] bare = true := by decide
  exact ⟨hvoid, hbare, (void_fields_fare_alike _ bare full hvoid).2.1 ▸ hbare⟩

end Sift
