import ToolPolicy.Value.Shown
import ToolPolicy.Value.Basic

/-!
# Errors of rules and rule files

An error has a topic, which says what it is about, and a report: message, code, suggestion and
context. The parts of the report that are not given are those of the topic, and the context always
names what the topic is about. `PolicyError.make` builds an error.

Main statements: `field?_context_rule` and `field?_context_category` say that the context of a
rule error agrees with it.
-/

namespace ToolPolicy

/-- What an error is about. -/
inductive PolicyError.Topic where
  | general
  /-- A pattern that cannot be used. -/
  | pattern (pattern flags : Text)
  /-- A pattern that is no regular expression. -/
  | malformed (pattern flags detail : Text)
  /-- A pattern with a repetition within a repetition. -/
  | nested (pattern flags : Text)
  /-- A flag that has no meaning. -/
  | flag (pattern flags flag : Text)
  /-- An entry that is no rule. -/
  | rule (rule : Text) (category : Option Text)
  /-- A rule that is not written `Tool(pattern)`. -/
  | shape (rule : Text) (category : Option Text)
  /-- An entry without a rule. -/
  | empty (rule : Text) (category : Option Text)
  /-- A file of rules that cannot be loaded. -/
  | file (path : Text)
  deriving DecidableEq, Repr

/-- An error of a rule or of a file of rules. -/
structure PolicyError where
  topic : PolicyError.Topic
  message : Text
  code : Int
  suggestion : Option Text
  context : List (Value × Value)
  deriving Repr

namespace PolicyError

namespace Topic

/-- The names of the kinds of error that a topic belongs to, from the most
special to the most general. -/
def kinds : Topic → List Text
  | general => ["RegexPermissionsError"]
  | pattern .. => ["PatternError", "RegexPermissionsError"]
  | malformed .. => ["PatternCompileError", "PatternError", "RegexPermissionsError"]
  | nested .. => ["UnsafePatternError", "PatternError", "RegexPermissionsError"]
  | flag .. => ["UnsupportedFlagError", "PatternError", "RegexPermissionsError"]
  | rule .. => ["RuleParseError", "RegexPermissionsError"]
  | shape .. => ["RuleFormatError", "RuleParseError", "RegexPermissionsError"]
  | empty .. => ["EmptyRuleError", "RuleParseError", "RegexPermissionsError"]
  | file _ => ["ConfigLoadError", "RegexPermissionsError"]

/-- The name of the kind of error. -/
def kind (t : Topic) : Text := t.kinds.headD []

/-- The message of an error that has none of its own. -/
def message : Topic → Text
  | general => []
  | pattern p _ => "Invalid pattern: " ++ p
  | malformed p _ detail => "Cannot compile pattern " ++ Text.quote p ++ ": " ++ detail
  | nested p _ => "Unsafe regex (possible ReDoS): " ++ p
  | flag p _ f => "Unsupported regex flag " ++ Text.quote f ++ " on pattern " ++ Text.quote p
  | rule r _ => "Invalid rule: " ++ r
  | shape r _ => "Rule is not of the form Tool(pattern): " ++ r
  | empty .. => "Rule entry has no rule text"
  | file path => "Cannot load rules from " ++ path

/-- The code of an error that has none of its own. -/
def code : Topic → Int
  | general => 0
  | pattern .. => 1001
  | malformed .. => 1001
  | nested .. => 1002
  | flag .. => 1003
  | rule .. => 2001
  | shape .. => 2002
  | empty .. => 2003
  | file _ => 3001

/-- What to do about it, where there is a general answer. -/
def suggestion? : Topic → Option Text
  | malformed .. => some "Check the pattern against Python 're' syntax"
  | nested .. => some "Drop the outer quantifier, e.g. write 'a+' instead of '(a+)+'"
  | flag .. => some "Use only the flags i, m, s (u and d are ignored)"
  | shape .. => some "Write rules as \"Bash(^git\\\\s+status)\""
  | empty .. => some "Use a string or an object with a \"rule\" key"
  | _ => none

/-- The fields of the topic, under their names. -/
def fields : Topic → List (Text × Value)
  | general => []
  | pattern p flags => [("pattern", .str p), ("flags", .str flags)]
  | malformed p flags detail =>
    [("pattern", .str p), ("flags", .str flags), ("detail", .str detail)]
  | nested p flags => [("pattern", .str p), ("flags", .str flags)]
  | flag p flags f => [("pattern", .str p), ("flags", .str flags), ("flag", .str f)]
  | rule r category => [("rule", .str r), ("category", .ofText? category)]
  | shape r category => [("rule", .str r), ("category", .ofText? category)]
  | empty r category => [("rule", .str r), ("category", .ofText? category)]
  | file path => [("path", .str path)]

end Topic

/-- An error from its topic and what is given of its report; an empty message, a zero code and an
empty suggestion count as not given. -/
def make (topic : Topic) (message : Text := []) (code : Int := 0) (suggestion : Option Text := none)
    (context : List (Value × Value) := []) : PolicyError where
  topic
  message := if message.isEmpty then topic.message else message
  code := if code = 0 then topic.code else code
  suggestion := if (suggestion.getD []).isEmpty then topic.suggestion?.orElse fun _ => suggestion
    else suggestion
  context := topic.fields.foldl (fun entries (name, v) => Value.putField name v entries) context

/-- The name of the kind of error. -/
def kind (e : PolicyError) : Text := e.topic.kind

/-- An error as it is displayed: code and message, and the suggestion on a line of its own. -/
def display (e : PolicyError) : Text :=
  let head : Text := "[E" ++ Text.ofInt e.code ++ "] " ++ e.message
  match e.suggestion with
  | some s => if s.isEmpty then head else head ++ "\nSuggestion: " ++ s
  | none => head

/-- An error with all of its parts, for those who look into details. -/
def shown (e : PolicyError) : Text :=
  let part (name : Text) (v : Value) : Text := name ++ "=" ++ v.shown
  let parts := match e.topic with
    | .general =>
      [part "message" (.str e.message), part "code" (.int e.code),
       part "context" (.mapping e.context)]
    | topic =>
      [part "message" (.str e.message), part "code" (.int e.code),
        part "suggestion" (.ofText? e.suggestion), part "context" (.mapping e.context)]
        ++ topic.fields.map fun (name, v) => part name v
  e.kind ++ "(" ++ Text.join ", " parts ++ ")"

/-- An error as a mapping. -/
def toValue (e : PolicyError) : Value :=
  .object [("error_type", .str e.kind), ("message", .str e.message), ("code", .int e.code),
    ("suggestion", .ofText? e.suggestion), ("context", .mapping e.context)]

/-- Whether two errors are of one kind and agree in every part. -/
def same (a b : PolicyError) : Bool :=
  a.topic == b.topic && a.message == b.message && a.code == b.code
    && a.suggestion == b.suggestion && Value.same (.mapping a.context) (.mapping b.context)

/-! ## The parts of a report -/

theorem field?_context_rule (rule : Text) (category : Option Text) (message : Text)
    (suggestion : Option Text) :
    Value.field? "rule" (make (.rule rule category) message 0 suggestion).context
      = some (.str rule) := by
  have h : Text.ofString "rule" ≠ Text.ofString "category" := by decide
  simp [make, Topic.fields, Value.field?_put_of_ne h, Value.field?_put_self]

theorem field?_context_category (rule : Text) (category : Option Text) (message : Text)
    (suggestion : Option Text) :
    Value.field? "category" (make (.rule rule category) message 0 suggestion).context
      = some (.ofText? category) := by
  simp [make, Topic.fields, Value.field?_put_self]

end PolicyError

/-- Why an entry is no rule, and the error of its pattern that led to it. -/
structure RuleFailure where
  error : PolicyError
  cause : Option PolicyError := none
  deriving Repr

end ToolPolicy
