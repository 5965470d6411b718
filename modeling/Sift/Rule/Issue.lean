import Sift.Rule.Compiled
import Sift.Text.Blank

set_option autoImplicit false
set_option relaxedAutoImplicit false

/-!
# Issues of rules

What can be wrong with an active rule. None of it stops a filter: rules with issues are tried on
records like all others. A rule with an unknown operator or a malformed range matches no record; one
without a field looks at the member whose name is empty, and may match.

## Main definitions

* `Sift.RuleIssue`: what is wrong with a rule, and with which.
* `Sift.validate`: the issues of a list of rules.
* `Sift.RuleError`, `Sift.check`: the first issue as an error.
-/

namespace Sift

/-- What is wrong with the rule at an index of a list. -/
inductive RuleIssue
  /-- The symbol stands for no operator. -/
  | unknownOperator (index : Nat) (operator : String)
  /-- The expression of a range has not two parts. -/
  | malformedRange (index : Nat) (field expression : String)
  /-- The rule names no field. -/
  | emptyField (index : Nat)
deriving DecidableEq

/-- Why a list of rules is refused. -/
inductive RuleError
  /-- A symbol stands for no operator. -/
  | unknownOperator (operator : String)
  /-- The expression of a range has not two parts. -/
  | malformedRange (field expression : String)
  /-- A rule cannot be read for another reason. -/
  | unreadable (reason : String)
deriving DecidableEq

namespace RuleIssue

/-- The text of an issue. -/
def message : RuleIssue → String
  | unknownOperator index operator =>
    s!"规则 #{index} 的操作符 '{operator}' 无法识别"
  | malformedRange index field expression =>
    s!"规则 #{index} ({field}) 的区间表达式 '{expression}' 需要 min,max 两部分"
  | emptyField index => s!"规则 #{index} 的字段不能为空"

/-- The error that an issue gives rise to. -/
def toError : RuleIssue → RuleError
  | unknownOperator _ operator => .unknownOperator operator
  | malformedRange _ field expression => .malformedRange field expression
  | issue@(emptyField _) => .unreadable issue.message

end RuleIssue

/-- The text of an error. -/
def RuleError.message : RuleError → String
  | unknownOperator operator => s!"无效的操作符: {operator}"
  | malformedRange field expression =>
    s!"区间表达式格式错误: 字段 {field} 的表达式 '{expression}' 需要 min,max 两部分"
  | unreadable reason => s!"规则解析失败: {reason}"

/-- The operator that a symbol stands for, or the error of one that stands for none. -/
def Operator.ofSymbol (symbol : String) : Except RuleError Operator :=
  match ofSymbol? symbol with
  | some op => .ok op
  | none => .error (.unknownOperator symbol)

/-- The issues of the rule at an index. A rule that is not active has none, and a wildcard needs no
field. -/
def Rule.issues (r : Rule) (index : Nat) : List RuleIssue :=
  if !r.isActive then []
  else
    match Operator.ofSymbol? r.operator with
    | none => [.unknownOperator index r.operator]
    | some op =>
      if op.isWildcard then []
      else
        (if op = .between ∧ bounds? r.expression = none then
          [.malformedRange index r.field r.expression] else []) ++
        (if Text.allBlank r.field then [.emptyField index] else [])

/-- The issues of a list of rules, in the order of the rules. -/
def validate (rules : List Rule) : List RuleIssue :=
  rules.zipIdx.flatMap fun (r, index) => r.issues index

/-- The rules have no issue, or the error of the first one. -/
def check (rules : List Rule) : Except RuleError Unit :=
  match validate rules with
  | [] => .ok ()
  | issue :: _ => .error issue.toError

end Sift
