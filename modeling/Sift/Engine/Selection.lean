import Sift.Engine.Basic

set_option autoImplicit false
set_option relaxedAutoImplicit false

/-!
# Selections

Dividing a list of records by whether they match rules. The lists hold references, of any type, and
a function tells which record stands behind each reference; the same reference may occur several
times. Without any rules nothing matches and nothing is compiled.

## Main definitions

* `Sift.Engine.select`, `Sift.Engine.reject`: the references that match, and those that do not.
* `Sift.Engine.partition`: both at once.
* `Sift.Engine.matchRatio`: the share of those that match.
-/

namespace Sift.Engine

/-- The part of the program that selections are reported by. -/
def target : String :=
  "product_filter::engine"

section Selection

variable {ι : Type} (e : Engine) (record : ι → Json)

/-- The references whose records match the rules, or with `exclude` those whose records do not. -/
def keep (exclude : Bool) (refs : List ι) (rules : List Rule) : Logged (List ι) :=
  .within
    { name := "filter_records", target,
      fields := [("rules", .integer rules.length), ("exclude", .bool exclude)] }
    do
      if rules.isEmpty then
        return if exclude then refs else []
      let compiled ← e.compile rules
      let kept := refs.filter fun r => matchesCompiled compiled (record r) != exclude
      Logged.emit
        { level := .debug, target, message := "记录过滤完成",
          fields := [("kept", .integer kept.length)] }
      return kept

/-- The references whose records match the rules. -/
def select (refs : List ι) (rules : List Rule) : Logged (List ι) :=
  e.keep record false refs rules

/-- The references whose records do not match the rules. -/
def reject (refs : List ι) (rules : List Rule) : Logged (List ι) :=
  e.keep record true refs rules

/-- The references whose records match the rules and those whose records do not. -/
def partition (refs : List ι) (rules : List Rule) : Logged (List ι × List ι) :=
  .within { name := "partition", target, fields := [("rules", .integer rules.length)] } do
    if rules.isEmpty then
      return ([], refs)
    let compiled ← e.compile rules
    let (included, excluded) := refs.partition fun r => matchesCompiled compiled (record r)
    Logged.emit
      { level := .debug, target, message := "记录划分完成",
        fields := [("included", .integer included.length), ("excluded", .integer excluded.length)] }
    return (included, excluded)

/-- The number of references that match the rules by the number of all references; zero if there are
none. -/
def matchRatio (refs : List ι) (rules : List Rule) : Logged Binary64 :=
  .within { name := "match_ratio", target, fields := [("rules", .integer rules.length)] } do
    if refs.isEmpty then
      return .zero
    let included ← e.select record refs rules
    let ratio := (Binary64.ofNat included.length).div (Binary64.ofNat refs.length)
    Logged.emit
      { level := .debug, target, message := "匹配比例计算完成",
        fields := [("included", .integer included.length), ("total", .integer refs.length),
          ("ratio", .float ratio)] }
    return ratio

end Selection

end Sift.Engine
