import ToolPolicy.Text.Basic

/-!
# Categories

Rules stand in one of three lists: what is denied, what is asked about, what is allowed. The
category of the rule that decides is the verdict. `Category.all` is the order in which the lists are
read and evaluated, and `ofLabel?_label` says that a label names its category.
-/

namespace ToolPolicy

/-- The lists that rules stand in, and the verdicts they give. -/
inductive Category where
  | deny
  | ask
  | allow
  deriving DecidableEq, Repr

namespace Category

/-- All categories, the strictest first. -/
def all : List Category := [deny, ask, allow]

/-- The word for a category. -/
def label : Category → Text
  | deny => "deny"
  | ask => "ask"
  | allow => "allow"

/-- The category that a word names. -/
def ofLabel? (t : Text) : Option Category := all.find? fun c => c.label == t

@[simp] theorem ofLabel?_label (c : Category) : ofLabel? c.label = some c := by
  cases c <;> rfl

/-- Every category is evaluated. -/
theorem mem_all (c : Category) : c ∈ all := by cases c <;> simp [all]

end Category

end ToolPolicy
