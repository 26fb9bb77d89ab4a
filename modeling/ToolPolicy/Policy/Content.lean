import ToolPolicy.Value.Basic

/-!
# The content of a request

Rules are matched against one text of a request: the argument that matters for the tool. For tools
that are not listed it is the first of some usual arguments that is a text and not empty.
-/

namespace ToolPolicy.Content

/-- Tools and the argument that their rules are matched against. -/
def primaryFields : List (Text × Text) :=
  [("Bash", "command"), ("Edit", "file_path"), ("Write", "file_path"), ("Read", "file_path"),
    ("WebFetch", "url"), ("Grep", "pattern"), ("Glob", "pattern"), ("WebSearch", "query")]

/-- The arguments that are tried for a tool that is not listed, in this order. -/
def usualFields : List Text := ["command", "file_path", "url", "pattern"]

/-- The argument of a listed tool. -/
def listedField? (tool : Text) : Option Text := primaryFields.lookup tool

/-- The argument under which a content is given for a tool. -/
def primaryField (tool : Text) : Text := (listedField? tool).getD "command"

/-- The text under a name, if there is one. -/
def textAt? (arguments : List (Value × Value)) (name : Text) : Option Text :=
  (Value.field? name arguments).bind Value.asText?

/-- The text under a name, if there is one that is not empty. -/
def fullTextAt? (arguments : List (Value × Value)) (name : Text) : Option Text :=
  (textAt? arguments name).filter fun t => !t.isEmpty

/-- The content of a request, if its arguments hold one. -/
def content? (tool : Text) (arguments : List (Value × Value)) : Option Text :=
  match listedField? tool with
  | some field => textAt? arguments field
  | none => usualFields.findSome? (fullTextAt? arguments)

end ToolPolicy.Content
