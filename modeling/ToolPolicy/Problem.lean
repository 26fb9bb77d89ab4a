import ToolPolicy.Text.Basic

/-!
# Problems with records

Rule entries, requests and settings are records with known fields. A `Problem` says what is wrong
with a value that should be such a record, and at which field. `Problem.within` moves a problem into
an enclosing record; `place_within` says where it is then.
-/

namespace ToolPolicy

/-- What is wrong with a value. -/
inductive Problem.Cause where
  | missing
  | notText
  /-- The text cannot be written as Unicode characters. -/
  | undecodableText
  | emptyText
  | notMapping
  | notRecord (model : Text)
  | unknownChoice
  | unknownField
  | readOnly
  deriving DecidableEq, Repr

/-- A problem and the field it is at, from the outermost record inwards. -/
structure Problem where
  cause : Problem.Cause
  place : List Text
  deriving DecidableEq, Repr

namespace Problem

/-- The label of a cause. -/
def Cause.label : Cause → Text
  | missing => "missing"
  | notText => "string_type"
  | undecodableText => "string_unicode"
  | emptyText => "string_too_short"
  | notMapping => "dict_type"
  | notRecord _ => "model_type"
  | unknownChoice => "enum"
  | unknownField => "extra_forbidden"
  | readOnly => "frozen_instance"

/-- The words for a cause. -/
def Cause.message : Cause → Text
  | missing => "Field required"
  | notText => "Input should be a valid string"
  | undecodableText =>
    "Input should be a valid string, unable to parse raw data as a unicode string"
  | emptyText => "String should have at least 1 character"
  | notMapping => "Input should be a valid dictionary"
  | notRecord model => "Input should be a valid dictionary or instance of " ++ model
  | unknownChoice => "Input should be 'deny', 'ask' or 'allow'"
  | unknownField => "Extra inputs are not permitted"
  | readOnly => "Instance is frozen"

/-- The words for a problem. -/
def message (p : Problem) : Text := p.cause.message

/-- The words for the first of some problems. -/
def firstMessage (problems : List Problem) : Text := (problems.head?.map message).getD []

/-- A problem at the value itself. -/
def here (cause : Cause) : Problem := ⟨cause, []⟩

/-- A problem with a field of a record. -/
def within (p : Problem) (field : Text) : Problem := { p with place := field :: p.place }

@[simp] theorem place_within (p : Problem) (field : Text) :
    (p.within field).place = field :: p.place := rfl

@[simp] theorem message_within (p : Problem) (field : Text) :
    (p.within field).message = p.message := rfl

end Problem

end ToolPolicy
