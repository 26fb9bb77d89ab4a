import ToolPolicy.Text.Quoted
import ToolPolicy.Problem

/-!
# Faults

A fault is a failure outside the vocabulary of rules and settings: a limit of number conversion, a
date that does not exist, a path that no file system takes. Reading and rule parsing report their
own errors as values and degrade; a fault passes through every one of those handlers and ends the
operation. `Fault.kind` is the class under which it is reported and `Fault.message` its text.
-/

namespace ToolPolicy

/-- Which part of a date or a time is impossible. -/
inductive CalendarFault where
  | year (value : Nat)
  | month
  | day
  | hour
  | minute
  | second
  | offset (seconds : Int)
  deriving DecidableEq, Repr

/-- A failure that no handler of the program covers. -/
inductive Fault where
  /-- A repetition count of a pattern reaches the largest count the matcher can hold. -/
  | repetitionTooLarge
  /-- An escape names a number beyond the range of machine integers. -/
  | codePointTooLarge
  /-- An escape names a number that is no code point. -/
  | codePointOutOfRange
  /-- A number is written with more digits than are converted. -/
  | tooManyDigits (count : Nat)
  /-- An integer is to be written with more digits than are converted. -/
  | integerTooLong
  /-- A pattern asks for ASCII and for Unicode classes at once. -/
  | incompatibleClasses
  /-- A lookbehind of a pattern reaches further back than the matcher can count, which makes no
  valid code in the releases 3.11.0 to 3.11.4 of the engine. -/
  | farLookbehind
  /-- A group of a pattern is recorded with an end in front of its start. -/
  | reversedGroup
  /-- A document or a pattern is nested too deeply to be read. -/
  | nestedTooDeeply
  /-- A path holds the code point zero. -/
  | nulInPath
  /-- A path that is only looked at holds the code point zero. -/
  | nulInName (action : Text)
  /-- A scalar tagged as an integer holds no digits of the base. -/
  | notAnInteger (base : Nat) (text : Text)
  /-- A scalar tagged as a float is not written as one. -/
  | notAFloat (text : Text)
  /-- A place of sixty counts more than the greatest float. -/
  | integerTooLarge
  /-- A scalar tagged as a boolean is none of the known words. -/
  | unknownWord (text : Text)
  /-- A scalar tagged as a time stamp is not shaped like one. -/
  | notATimestamp
  /-- A node tagged as a time stamp is a mapping. -/
  | timestampOfMapping
  /-- A scalar has no text to read a number from. -/
  | emptyNumber
  /-- A date or time that the calendar does not have. -/
  | calendar (part : CalendarFault)
  /-- Text with half of a surrogate pair cannot leave as bytes. -/
  | unencodable (text : Text) (position : Nat)
  /-- Text with half of a surrogate pair cannot be shown on the console. -/
  | unprintable (text : Text) (position : Nat)
  /-- A path to be removed is not there. -/
  | absentFile (path : Text)
  /-- A record is built from a value that it does not take. -/
  | invalidRecord (problems : List Problem)
  /-- Console markup closes a style that is not open. -/
  | markup (text : Text)
  deriving DecidableEq, Repr

/-- A length of time in days and seconds, as messages show it. -/
def Text.shownDuration (seconds : Int) : Text :=
  let days := Int.fdiv seconds 86400
  let rest := Int.fmod seconds 86400
  let parts : List Text :=
    (if days = 0 then [] else ["days=" ++ Text.ofInt days])
      ++ (if rest = 0 then [] else ["seconds=" ++ Text.ofInt rest])
  let inner : Text := if parts.isEmpty then "0" else Text.join (Text.ofString ", ") parts
  "datetime.timedelta(" ++ inner ++ ")"

/-- The number of digits up to which numbers are converted. -/
def digitLimit : Nat := 4300

/-- How much of a text is shown that is no integer. -/
def shownLength : Nat := 200

namespace Fault

/-- The class under which a fault is reported. -/
def kind : Fault → String
  | repetitionTooLarge => "OverflowError"
  | codePointTooLarge => "OverflowError"
  | codePointOutOfRange => "ValueError"
  | tooManyDigits _ => "ValueError"
  | integerTooLong => "ValueError"
  | incompatibleClasses => "ValueError"
  | farLookbehind => "RuntimeError"
  | reversedGroup => "SystemError"
  | nestedTooDeeply => "RecursionError"
  | nulInPath => "ValueError"
  | nulInName _ => "ValueError"
  | notAnInteger .. => "ValueError"
  | notAFloat _ => "ValueError"
  | integerTooLarge => "OverflowError"
  | unknownWord _ => "KeyError"
  | notATimestamp => "AttributeError"
  | timestampOfMapping => "TypeError"
  | emptyNumber => "IndexError"
  | calendar _ => "ValueError"
  | unencodable .. => "UnicodeEncodeError"
  | unprintable .. => "UnicodeEncodeError"
  | absentFile _ => "FileNotFoundError"
  | invalidRecord _ => "ValidationError"
  | markup _ => "MarkupError"

/-- The text for a part of the calendar that does not exist. -/
def calendarMessage : CalendarFault → Text
  | .year value => "year " ++ Text.ofNat value ++ " is out of range"
  | .month => "month must be in 1..12"
  | .day => "day is out of range for month"
  | .hour => "hour must be in 0..23"
  | .minute => "minute must be in 0..59"
  | .second => "second must be in 0..59"
  | .offset seconds =>
    "offset must be a timedelta strictly between -timedelta(hours=24) and timedelta(hours=24), not "
      ++ Text.shownDuration seconds ++ "."

/-- Where a text holds code points that no bytes stand for: from a position on, as many
as there are in a row. -/
def unencodablePlace (text : Text) (position : Nat) : Text :=
  let row := (text.drop position).takeWhile CodePoint.isSurrogate
  if row.length ≤ 1 then
    "character '" ++ "\\u" ++ Text.hex 4 (text.getD position 0) ++ "' in position "
      ++ Text.ofNat position
  else
    "characters in position " ++ Text.ofNat position ++ "-" ++
      Text.ofNat (position + row.length - 1)

/-- The text for code points that no bytes stand for. -/
def unencodableMessage (text : Text) (position : Nat) : Text :=
  "'utf-8' codec can't encode " ++ unencodablePlace text position ++ ": surrogates not allowed"

/-- The text of a fault; some are reported by their class alone. -/
def message : Fault → Option Text
  | repetitionTooLarge => some "the repetition number is too large"
  | codePointTooLarge => some "Python int too large to convert to C int"
  | codePointOutOfRange => some "chr() arg not in range(0x110000)"
  | tooManyDigits count => some <|
    "Exceeds the limit (" ++ Text.ofNat digitLimit ++ " digits) for integer string conversion: "
      ++ "value has " ++ Text.ofNat count
      ++ " digits; use sys.set_int_max_str_digits() to increase the limit"
  | integerTooLong => some <|
    "Exceeds the limit (" ++ Text.ofNat digitLimit ++ " digits) for integer string conversion; "
      ++ "use sys.set_int_max_str_digits() to increase the limit"
  | incompatibleClasses => some "ASCII and UNICODE flags are incompatible"
  | farLookbehind => some "invalid SRE code"
  | reversedGroup => some
    "The span of capturing group is wrong, please report a bug for the re module."
  | nestedTooDeeply => none
  | nulInPath => some "embedded null byte"
  | nulInName action => some (action ++ ": embedded null character in path")
  | notAnInteger base text => some <|
    "invalid literal for int() with base " ++ Text.ofNat base ++ ": "
      ++ (Text.quote text).take shownLength
  | notAFloat text => some ("could not convert string to float: " ++ Text.quote text)
  | integerTooLarge => some "int too large to convert to float"
  | unknownWord text => some (Text.quote text)
  | notATimestamp => none
  | timestampOfMapping => none
  | emptyNumber => some "string index out of range"
  | calendar part => some (calendarMessage part)
  | unencodable text position => some (unencodableMessage text position)
  | unprintable text position => some <|
    unencodableMessage text position
      ++ "\n*** You may need to add PYTHONIOENCODING=utf-8 to your environment ***"
  | absentFile path => some ("[Errno 2] No such file or directory: " ++ Text.quote path)
  | invalidRecord problems => some (Problem.firstMessage problems)
  | markup text => some text

end Fault

end ToolPolicy
