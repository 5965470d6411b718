import Mathlib.Data.List.Forall2
import Sift.Proofs.Selection
import Sift.Proofs.VoidField
import Sift.Proofs.WholeText
import Sift.Transform.Basic

set_option autoImplicit false
set_option relaxedAutoImplicit false

/-!
# Respelled numbers

Whether a record has `5` or `5.0` makes no difference. A whole number of up to 53 bits can take the
place of the binary64 with its value anywhere in a record, also within arrays that are searched as
texts: both are the same number when they are compared and the same text when they are shown. So no
rule and no state tells the two records apart, and whatever is made of them is the same, down to
what is logged on the way.

Zero becomes the zero without a sign here. The other zero has the text `-0`, which an array shows.

## Main definitions

* `Sift.Json.Respelled` — a record in which whole numbers have become binary64s.
* `Sift.Json.Interchangeable` — records that no rule and no state tells apart.

## Main results

* `Sift.Json.Respelled.shownChars_eq` — respelled values show the same text.
* `Sift.Json.Respelled.resolve?` — at the end of a path there are respelled values again.
* `Sift.Json.Respelled.indistinct` — which no test tells apart.
* `Sift.number_spelling_is_irrelevant` — matching, reports and all selections are the same.
-/

namespace Sift

namespace Json

/-! ## Respelling -/

/-- The second value is the first one, except that any of the whole numbers of up to 53 bits in it,
at any depth, may be kept as the binary64 that has their value. -/
inductive Respelled : Json → Json → Prop
  /-- Nothing has changed. -/
  | same (v : Json) : Respelled v v
  /-- A whole number has become a binary64. -/
  | number {n : Int} (isWord : IsWord n) (isFinite : (Binary64.ofInt n).isFinite = true)
      (h : n.natAbs ≤ 2 ^ (53 : Nat)) :
      Respelled (number (.integer n isWord)) (number (.float (.ofInt n) isFinite))
  /-- The elements of an array are respelled. -/
  | array {elements elements' : List Json} (h : List.Forall₂ Respelled elements elements') :
      Respelled (array elements) (array elements')
  /-- The members of an object are respelled, under the same names. -/
  | object {members members' : List (String × Json)}
      (hnames : members.map Prod.fst = members'.map Prod.fst)
      (h : List.Forall₂ Respelled (members.map Prod.snd) (members'.map Prod.snd)) :
      Respelled (object members) (object members')

/-! ## Texts -/

mutual

/-- **Respelled values show the same text**, within arrays as well. -/
theorem Respelled.shownChars_eq {v w : Json} (h : v.Respelled w) : v.shownChars = w.shownChars := by
  match h with
  | .same v => rfl
  | .number hword hfinite hbits =>
    rw [shownChars_number, shownChars_number, Number.text, Number.text, Binary64.text_ofInt hbits]
  | .array helements =>
    rw [shownChars_array, shownChars_array, shownCharsOfAll_eq_of_forall₂ helements]
  | .object _ _ => rfl

theorem shownCharsOfAll_eq_of_forall₂ {l l' : List Json} (h : List.Forall₂ Respelled l l') :
    shownCharsOfAll l = shownCharsOfAll l' := by
  match h with
  | .nil => rfl
  | .cons hv hrest =>
    rw [shownCharsOfAll_cons, shownCharsOfAll_cons, hv.shownChars_eq,
      shownCharsOfAll_eq_of_forall₂ hrest]

end

lemma Respelled.shown_eq {v w : Json} (h : v.Respelled w) : v.shown = w.shown := by
  rw [shown, shown, h.shownChars_eq]

/-! ## Paths -/

/-- Entries at one place of related lists are related. -/
lemma rel_getElem?_of_forall₂ {α : Type} {R : α → α → Prop} {l l' : List α}
    (h : List.Forall₂ R l l') (i : Nat) : Option.Rel R l[i]? l'[i]? := by
  induction h generalizing i with
  | nil => exact .none
  | cons ha _ ih =>
    cases i with
    | zero => exact .some ha
    | succ i => exact ih i

/-- Lists with related values under the same names have related values under every name. -/
lemma rel_lookup_of_forall₂ {α : Type} {R : α → α → Prop} {members members' : List (String × α)}
    (hnames : members.map Prod.fst = members'.map Prod.fst)
    (h : List.Forall₂ R (members.map Prod.snd) (members'.map Prod.snd)) (name : String) :
    Option.Rel R (members.lookup name) (members'.lookup name) := by
  induction members generalizing members' with
  | nil =>
    obtain rfl := List.map_eq_nil_iff.1 hnames.symm
    exact .none
  | cons m rest ih =>
    cases members' with
    | nil => exact nomatch hnames
    | cons m' rest' =>
      obtain ⟨n, v⟩ := m
      obtain ⟨n', v'⟩ := m'
      obtain ⟨hname, hothers⟩ := List.cons.inj hnames
      obtain ⟨hvalue, hvalues⟩ := List.forall₂_cons.1 h
      obtain rfl : n = n' := hname
      rw [List.lookup_cons, List.lookup_cons]
      cases name == n with
      | true => exact .some hvalue
      | false => exact ih hothers hvalues

namespace Respelled

variable {v w : Json}

/-- What is there or missing alike is respelled where nothing has changed. -/
lemma rel_same (v : Option Json) : Option.Rel Respelled v v := by
  cases v with
  | none => exact .none
  | some v => exact .some (.same v)

/-- One step into respelled values leads to respelled values or nowhere. -/
lemma step? (h : v.Respelled w) (step : String) :
    Option.Rel Respelled (v.step? step) (w.step? step) := by
  cases h with
  | same => exact rel_same _
  | number => exact .none
  | array helements =>
    rw [Json.step?, Json.step?]
    cases Text.word? step with
    | none => exact .none
    | some i => exact rel_getElem?_of_forall₂ helements i
  | object hnames hmembers => exact rel_lookup_of_forall₂ hnames hmembers step

lemma foldlM_step? (h : v.Respelled w) (steps : List String) :
    Option.Rel Respelled (steps.foldlM Json.step? v) (steps.foldlM Json.step? w) := by
  induction steps generalizing v w with
  | nil => exact .some h
  | cons step rest ih =>
    rw [List.foldlM_cons, List.foldlM_cons]
    have hstep := h.step? step
    generalize v.step? step = next at hstep ⊢
    generalize w.step? step = next' at hstep ⊢
    cases hstep with
    | none => exact .none
    | some hnext => exact ih hnext

/-- **At the end of a path** in respelled records there are respelled values or nothing. -/
theorem resolve? (h : v.Respelled w) (path : String) :
    Option.Rel Respelled (v.resolve? path) (w.resolve? path) :=
  h.foldlM_step? _

/-- The members of respelled records are respelled. -/
lemma member? (h : v.Respelled w) (name : String) :
    Option.Rel Respelled (v.member? name) (w.member? name) := by
  cases h with
  | same => exact rel_same _
  | number | array => exact .none
  | object hnames hmembers => exact rel_lookup_of_forall₂ hnames hmembers name

end Respelled

end Json

/-! ## Tests -/

section Number

variable {m n : Number} (hvalue : m.toBinary64 = n.toBinary64)

include hvalue

/-- A literal looks at the binary64 of a number only. -/
lemma Literal.isSame_number_eq (l : Literal) : l.isSame (.number m) = l.isSame (.number n) := by
  cases l with
  | number x => rw [isSame, isSame, hvalue]
  | text s => rfl

/-- No test tells numbers apart that are one binary64 and have one text. -/
lemma Field.indistinct_number (htext : m.text = n.text) :
    Indistinct (some (.number m)) (some (.number n)) := by
  have hzero : m.isZero = n.isZero := by rw [Number.isZero, Number.isZero, hvalue]
  have hfalsy : isFalsy (some (.number m)) = isFalsy (some (.number n)) := hzero
  refine indistinct_of_eq ?_ (fun candidate => ?_) (fun expression => ?_) ?_
  · simp only [amount, hfalsy, hvalue]
  · simp only [equals, hfalsy, Literal.isSame_number_eq hvalue]
  · simp only [hasTruth, hfalsy]
  · cases hn : n.isZero <;>
      simp [searchable?, isFalsy, hzero, hn, Json.shown, htext]

end Number

namespace Json.Respelled

/-- **No test tells respelled fields apart.** -/
theorem indistinct {v w : Option Json} (h : Option.Rel Respelled v w) : Field.Indistinct v w := by
  cases h with
  | none => exact ⟨rfl, fun _ _ => rfl⟩
  | some hvalue =>
    have hshown := hvalue.shown_eq
    cases hvalue with
    | same => exact ⟨rfl, fun _ _ => rfl⟩
    | number hword hfinite hbits =>
      exact Field.indistinct_number rfl (Binary64.text_ofInt hbits).symm
    | array => exact Field.indistinct_of_eq rfl (fun _ => rfl) (fun _ => rfl) (congrArg some hshown)
    | object => exact ⟨rfl, fun _ _ => rfl⟩

/-- A literal is the same as both of two respelled values or as neither. -/
lemma any_isSame_eq {v w : Option Json} (h : Option.Rel Respelled v w) (l : Literal) :
    v.any l.isSame = w.any l.isSame := by
  cases h with
  | none => rfl
  | some hvalue =>
    cases hvalue with
    | same => rfl
    | @number n hword hfinite hbits =>
      have hvalue : (Number.integer n hword).toBinary64 =
          (Number.float (.ofInt n) hfinite).toBinary64 := rfl
      exact l.isSame_number_eq hvalue
    | array | object => cases l <;> rfl

end Json.Respelled

/-! ## Records that fare alike -/

/-- No rule and no state tells two records apart. -/
structure Json.Interchangeable (record record' : Json) : Prop where
  /-- A rule matches both or neither. -/
  matches_eq : ∀ r : CompiledRule, r.matches record = r.matches record'
  /-- Both have one of the states of a criterion or neither has. -/
  any_isSame_eq : ∀ (l : Literal) (key : String),
    (record.member? key).any l.isSame = (record'.member? key).any l.isSame

/-- Respelling a record leaves it what it was to all rules and states. -/
theorem Json.Respelled.interchangeable {record record' : Json} (h : record.Respelled record') :
    record.Interchangeable record' where
  matches_eq _ := CompiledRule.matches_congr fun _ _ _ path _ => indistinct (h.resolve? path)
  any_isSame_eq l key := any_isSame_eq (h.member? key) l

namespace Json.Interchangeable

variable {record record' : Json} (h : record.Interchangeable record')

include h

/-- Rules have the same trial on both records. -/
lemma ofRules_eq (rules : List CompiledRule) (matched : Bool) (index : Nat) :
    MatchReport.ofRules record matched index rules =
      MatchReport.ofRules record' matched index rules :=
  MatchReport.ofRules_congr (fun r _ _ => h.matches_eq r) matched index

lemma matchesCompiled_eq (rules : List CompiledRule) :
    matchesCompiled rules record = matchesCompiled rules record' := by
  rw [matchesCompiled, matchesCompiled, ← MatchReport.matched_ofRules record false 0,
    ← MatchReport.matched_ofRules record' false 0, h.ofRules_eq]

/-- A state accepts both records or neither. -/
lemma accepts_eq (s : PreparedState) (key : String) :
    s.accepts key record = s.accepts key record' := by
  simp only [PreparedState.accepts, h.matchesCompiled_eq, h.any_isSame_eq]

/-- States are tried alike on both records, with the same reports. -/
lemma exactMatchKey_eq (e : Engine) (key : String) (states : List State) :
    e.exactMatchKey record key states = e.exactMatchKey record' key states := by
  induction states with
  | nil => rfl
  | cons s rest ih => simp only [Engine.exactMatchKey, h.accepts_eq, ih]

end Json.Interchangeable

section Selections

variable {ι : Type} {record record' : ι → Json} (h : ∀ i, (record i).Interchangeable (record' i))
  (e : Engine)

include h

/-- Selections by rules do not tell interchangeable records apart. -/
lemma Engine.keep_eq : e.keep record = e.keep record' := by
  funext exclude refs rules
  simp only [Engine.keep, fun i => (h i).matchesCompiled_eq]

lemma Engine.partition_eq : e.partition record = e.partition record' := by
  funext refs rules
  simp only [Engine.partition, fun i => (h i).matchesCompiled_eq]

lemma Engine.matchRatio_eq : e.matchRatio record = e.matchRatio record' := by
  funext refs rules
  simp only [Engine.matchRatio, Engine.select, Engine.keep_eq h]

variable [DecidableEq ι]

/-- Neither do selections by criteria. -/
lemma Engine.keepByCriteria_eq : e.keepByCriteria record = e.keepByCriteria record' := by
  funext exclude refs criterion states
  simp only [Engine.keepByCriteria, fun i => (h i).accepts_eq]

/-- A transform is one of these selections. -/
lemma Engine.apply_eq : e.apply record = e.apply record' := by
  funext t refs
  cases t <;>
    simp only [Engine.apply, Engine.select, Engine.reject, Engine.selectByStates,
      Engine.rejectByStates, Engine.selectByCriteria, Engine.rejectByCriteria, Engine.keep_eq h,
      Engine.keepByCriteria_eq h]

/-- A pipeline is made of transforms. -/
lemma Engine.applyPipeline_eq : e.applyPipeline record = e.applyPipeline record' := by
  have hstep : e.applyStep record = e.applyStep record' := by
    funext refs t
    simp only [Engine.applyStep, Engine.apply_eq h]
  funext pipeline refs
  rw [Engine.applyPipeline, Engine.applyPipeline, hstep]

end Selections

/-- **The spelling of numbers is irrelevant.** Where some of the whole numbers of up to 53 bits in a
record, at any depth, are kept as the binary64s of the same values, every rule, every list of rules
and every list of states of any criterion gives the same answer, and the reports are the same. Where
this happens to the records behind references, all selections keep the same references, and so does
every pipeline. The equations are between results together with what is logged on the way. -/
theorem number_spelling_is_irrelevant :
    (∀ record record' : Json, record.Respelled record' →
      (∀ r : Rule, r.matches record = r.matches record') ∧
      (∀ rules : List Rule, matchesAll rules record = matchesAll rules record') ∧
      ∀ e : Engine,
        (∀ rules : List Rule, e.accepts record rules = e.accepts record' rules ∧
          e.explain record rules = e.explain record' rules) ∧
        ∀ (states : List State) (criterion : String),
          e.exactMatch record states criterion = e.exactMatch record' states criterion) ∧
    ∀ (ι : Type) [DecidableEq ι] (e : Engine) (record record' : ι → Json),
      (∀ i, (record i).Respelled (record' i)) → ∀ refs : List ι,
        (∀ rules : List Rule,
          e.select record refs rules = e.select record' refs rules ∧
          e.reject record refs rules = e.reject record' refs rules ∧
          e.partition record refs rules = e.partition record' refs rules ∧
          e.matchRatio record refs rules = e.matchRatio record' refs rules) ∧
        (∀ states : List State,
          e.selectByStates record refs states = e.selectByStates record' refs states ∧
          e.rejectByStates record refs states = e.rejectByStates record' refs states) ∧
        (∀ (criterion : String) (states : List State),
          e.selectByCriteria record refs criterion states =
            e.selectByCriteria record' refs criterion states ∧
          e.rejectByCriteria record refs criterion states =
            e.rejectByCriteria record' refs criterion states) ∧
        ∀ pipeline : List Transform,
          e.applyPipeline record pipeline refs = e.applyPipeline record' pipeline refs := by
  constructor
  · intro record record' hrespelled
    have h := hrespelled.interchangeable
    refine ⟨fun r => h.matches_eq r.compile, fun rules => h.matchesCompiled_eq _, fun e => ?_⟩
    refine ⟨fun rules => ⟨?_, ?_⟩, fun states criterion => h.exactMatchKey_eq e _ states⟩
    · simp only [Engine.accepts, h.matchesCompiled_eq]
    · simp only [Engine.explain, h.ofRules_eq]
  · intro ι _ e record record' hrespelled refs
    have h := fun i => (hrespelled i).interchangeable
    have hkeep := Engine.keep_eq h e
    have hcriteria := Engine.keepByCriteria_eq h e
    refine ⟨fun rules => ?_, fun states => ?_, fun criterion states => ?_, fun pipeline => ?_⟩
    · simp only [Engine.select, Engine.reject, hkeep, Engine.partition_eq h, Engine.matchRatio_eq h,
        and_self]
    · simp only [Engine.selectByStates, Engine.rejectByStates, Engine.select, Engine.reject, hkeep,
        and_self]
    · simp only [Engine.selectByCriteria, Engine.rejectByCriteria, hcriteria, and_self]
    · rw [Engine.applyPipeline_eq h]

/-- A box with whole numbers in it, also within an array, and the same box with some of them as
binary64s, up to the greatest that fits. -/
theorem number_spelling_is_irrelevant_nested :
    let two : Json := .number (.integer 2 (by decide))
    let three : Json := .number (.integer 3 (by decide))
    let three' : Json := .number (.float (.ofInt 3) (by decide +kernel))
    let large : Json := .number (.integer (-9007199254740992) (by decide))
    let large' : Json := .number (.float (.ofInt (-9007199254740992)) (by decide +kernel))
    let record : Json := .object [("size", three), ("parts", .array [.array [two, three], large])]
    let record' : Json :=
      .object [("size", three'), ("parts", .array [.array [two, three'], large'])]
    let rules : List Rule := [⟨"size", "=", "3"⟩, ⟨"parts", "%", "2,3"⟩, ⟨"parts", "%", "4740992"⟩]
    record.Respelled record' ∧ matchesAll rules record' = true ∧
      (Engine.exactMatch {} record' [⟨"3.0", "", []⟩] "size").value = true ∧
      (Engine.select {} (fun i => if i then record else record') [true, false] rules).value =
        [true, false] := by
  intro two three three' large large' record record' rules
  have hthree : three.Respelled three' := .number _ _ (by decide)
  have hlarge : large.Respelled large' := .number _ _ (by decide)
  have hparts : (Json.array [.array [two, three], large]).Respelled
      (.array [.array [two, three'], large']) :=
    .array (.cons (.array (.cons (.same two) (.cons hthree .nil))) (.cons hlarge .nil))
  have hrecord : record.Respelled record' := .object rfl (.cons hthree (.cons hparts .nil))
  obtain ⟨hsame, hselections⟩ := number_spelling_is_irrelevant
  obtain ⟨-, hrules, hengine⟩ := hsame record record' hrecord
  have hmatches : matchesAll rules record = true := by decide +kernel
  refine ⟨hrecord, (hrules rules).symm.trans hmatches, ?_, ?_⟩
  · rw [← (hengine {}).2]
    decide +kernel
  · have hboth : ∀ i : Bool, record.Respelled (if i then record else record') := by
      intro i
      cases i
      · exact hrecord
      · exact .same record
    rw [← ((hselections Bool {} (fun _ => record) _ hboth [true, false]).1 rules).1,
      Engine.value_select]
    simp only [hmatches, List.filter_true]

end Sift
