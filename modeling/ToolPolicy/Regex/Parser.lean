import ToolPolicy.Regex.Width
import ToolPolicy.Text.Number

/-!
# Reading patterns

`Regex.parse` turns the text of a pattern into its tree, the options in force for the whole pattern
and the widths of its groups, or says what is wrong with it first. Reading follows the text from
left to right; the fuel of the mutually recursive readers is the length of the pattern, which bounds
how often they can call one another.
-/

namespace ToolPolicy.Regex

open Reading

/-- A pattern that has been read. -/
structure Parsed where
  tree : Regex
  flags : Flags
  /-- Widths of the groups, the first group first. -/
  widths : List (Option Width)
  deriving Repr

/-- The first repetition count that is too large. -/
def repetitionLimit : Nat := 0xFFFFFFFF

/-- The first group number that is too large. -/
def groupLimit : Nat := 0x3FFFFFFF

/-- The depth of nested groups at which reading gives up. -/
def nestingLimit : Nat := 950

/-! ## Escapes -/

/-- The escapes that stand for a control character or a backslash, in a class and outside. -/
def controlEscape? (c : CodePoint) : Option CodePoint :=
  if c = 'a' then some 7
  else if c = 'b' then some 8
  else if c = 'f' then some 12
  else if c = 'n' then some 10
  else if c = 'r' then some 13
  else if c = 't' then some 9
  else if c = 'v' then some 11
  else if c = 92 then some 92
  else none

/-- The escapes that stand for a class of code points. -/
def categoryEscape? (c : CodePoint) : Option Category :=
  if c = 'd' then some .digit
  else if c = 'D' then some .notDigit
  else if c = 's' then some .space
  else if c = 'S' then some .notSpace
  else if c = 'w' then some .word
  else if c = 'W' then some .notWord
  else none

/-- The escapes that stand for a condition on the position. -/
def anchorEscape? (c : CodePoint) : Option Anchor :=
  if c = 'A' then some .textStart
  else if c = 'Z' then some .textEnd
  else if c = 'b' then some .boundary
  else if c = 'B' then some .noBoundary
  else none

/-- An escape with a fixed number of hexadecimal digits. -/
def readHexEscape (letter : CodePoint) (count : Nat) : Reading CodePoint := do
  let digits ← takeSome CodePoint.isHexDigit count
  let escape : Text := [92, letter] ++ digits
  if digits.length != count then flaw (.incompleteEscape escape) escape.length
  else
    let value := Text.toNatBase 16 digits
    if value < 0x110000 then return value
    else if value < 0x80000000 then flaw (.badEscape escape) escape.length
    else fault .codePointTooLarge

/-- An escape by the name of a character. A name with half of a surrogate pair is not even looked
up. -/
def readNamedEscape : Reading CodePoint := do
  if !(← accept 123) then flaw (.missing "\x7b")
  let name ← takeName 125 "character name"
  if name.any CodePoint.isSurrogate then flaw (.badEscape [92, 78]) 2
  match CodePoint.ofName? name with
  | some c => return c
  | none => flaw (.undefinedCharacterName name) (name.length + 4)

/-- The escapes with hexadecimal digits or a name, which mean the same everywhere. -/
def readNumericEscape? (c : CodePoint) : Option (Reading CodePoint) :=
  if c = 'x' then some (readHexEscape c 2)
  else if c = 'u' then some (readHexEscape c 4)
  else if c = 'U' then some (readHexEscape c 8)
  else if c = 'N' then some readNamedEscape
  else none

/-- An octal number, which has to fit into a byte. -/
def octalValue (digits : Text) : Reading CodePoint := do
  let value := Text.toNatBase 8 digits
  if 0o377 < value then flaw (.octalTooLarge (92 :: digits)) (digits.length + 1)
  else return value

/-- A reference to a group that has been closed. -/
def readBackref (digits : Text) : Reading Regex := do
  let index := Text.toNatBase 10 digits
  let s ← get
  if index < s.groupCount then
    if !s.isClosed index then flaw .openGroup (digits.length + 1)
    checkLookbehind index
    return .backref index
  else flaw (.invalidGroupReference index) digits.length

/-- What an escape outside a class stands for. -/
def readEscape (c : CodePoint) : Reading Regex := do
  if let some a := anchorEscape? c then return .anchor a
  if let some k := categoryEscape? c then return .one (.oneOf false [.category k])
  if let some v := controlEscape? c then return .one (.literal v)
  if let some number := readNumericEscape? c then return .one (.literal (← number))
  if c = '0' then
    let digits ← takeSome CodePoint.isOctalDigit 2
    return .one (.literal (Text.toNatBase 8 (c :: digits)))
  else if CodePoint.isAsciiDigit c then
    let second ← takeSome CodePoint.isAsciiDigit 1
    if CodePoint.isOctalDigit c && !second.isEmpty && second.all CodePoint.isOctalDigit then
      let third ← takeSome CodePoint.isOctalDigit 1
      if !third.isEmpty then return .one (.literal (← octalValue (c :: second ++ third)))
    readBackref (c :: second)
  else if CodePoint.isAsciiLetter c then flaw (.badEscape [92, c]) 2
  else return .one (.literal c)

/-- What an escape inside a class stands for. -/
def readClassEscape (c : CodePoint) : Reading ClassItem := do
  if let some v := controlEscape? c then return .literal v
  if let some k := categoryEscape? c then return .category k
  if let some number := readNumericEscape? c then return .literal (← number)
  if CodePoint.isOctalDigit c then
    let digits ← takeSome CodePoint.isOctalDigit 2
    return .literal (← octalValue (c :: digits))
  else if CodePoint.isAsciiDigit c || CodePoint.isAsciiLetter c then flaw (.badEscape [92, c]) 2
  else return .literal c

/-! ## Classes -/

/-- A member of a class, from its first token. -/
def readClassMember : Token → Reading ClassItem
  | .plain c => return .literal c
  | .escape c => readClassEscape c

/-- The members of a class up to its bracket; a bracket in the first place is a member. -/
def readMembers (start : Nat) : Nat → List ClassItem → Reading (List ClassItem)
  | 0, _ => flaw .unterminatedSet
  | fuel + 1, members => do
    match ← take with
    | none => flaw .unterminatedSet ((← get).position - start)
    | some first =>
      if first = .plain ']' && !members.isEmpty then return members
      let low ← readClassMember first
      if !(← accept '-') then readMembers start fuel (members ++ [low])
      else
        match ← take with
        | none => flaw .unterminatedSet ((← get).position - start)
        | some last =>
          if last = .plain ']' then return members ++ [low, .literal '-']
          let high ← readClassMember last
          let bad : Reading (List ClassItem) :=
            flaw (.badRange first.text last.text) (first.length + 1 + last.length)
          match low, high with
          | .literal a, .literal b =>
            if b < a then bad else readMembers start fuel (members ++ [.range a b])
          | _, _ => bad

/-- The test for a class with the given members. -/
def CharTest.ofMembers (negated : Bool) (members : List ClassItem) : CharTest :=
  match members.eraseDups with
  | [.literal c] => if negated then .notLiteral c else .literal c
  | distinct => .oneOf negated distinct

/-- A class, after its opening bracket. -/
def readClass : Reading CharTest := do
  let start := (← get).position - 1
  let negated ← accept '^'
  let members ← readMembers start ((← get).rest.length + 1) []
  return .ofMembers negated members

/-! ## Repetition -/

/-- A repetition count. -/
def readCount (digits : Text) : Reading Nat := do
  if digitLimit < digits.length then fault (.tooManyDigits digits.length)
  let n := Text.toNatBase 10 digits
  if repetitionLimit ≤ n then fault .repetitionTooLarge
  return n

/-- The counts of a repetition after its sign, or `none` if a brace turns out to be a literal. -/
def readCounts? (sign : CodePoint) : Reading (Option (Nat × Option Nat)) := do
  if sign = '?' then return some (0, some 1)
  if sign = '*' then return some (0, none)
  if sign = '+' then return some (1, none)
  if (← peek) = some (.plain 125) then return none
  let here ← get
  let low ← takeAll CodePoint.isAsciiDigit
  let comma ← accept ','
  let high ← if comma then takeAll CodePoint.isAsciiDigit else pure low
  if !(← accept 125) then
    backTo here
    return none
  let least ← if low.isEmpty then pure 0 else readCount low
  if high.isEmpty then return some (least, none)
  let most ← readCount high
  if most < least then flaw .reversedCounts ((← get).position - here.position)
  return some (least, some most)

/-- The counts in braces, after the least one. -/
def countsFrom (here : Reader) (high : Text) (least : Nat) :
    Reading (Option (Nat × Option Nat)) := do
  if high.isEmpty then return some (least, none)
  let most ← readCount high
  if most < least then flaw .reversedCounts ((← get).position - here.position)
  return some (least, some most)

/-- The counts in braces, once their digits are read; without a closing brace there are none. -/
def closeCounts (here : Reader) (low high : Text) : Reading (Option (Nat × Option Nat)) := do
  if !(← accept 125) then
    backTo here
    return none
  let least ← if low.isEmpty then pure 0 else readCount low
  countsFrom here high least

/-- The counts in braces. -/
def bracedCounts : Reading (Option (Nat × Option Nat)) := do
  if (← peek) = some (.plain 125) then return none
  let here ← get
  let low ← takeAll CodePoint.isAsciiDigit
  let high ← if ← accept ',' then takeAll CodePoint.isAsciiDigit else pure low
  closeCounts here low high

/-- The counts of a repetition, with what stands in braces cut into steps. -/
theorem readCounts?_eq (sign : CodePoint) : readCounts? sign =
    if sign = '?' then pure (some (0, some 1))
    else if sign = '*' then pure (some (0, none))
    else if sign = '+' then pure (some (1, none))
    else bracedCounts := rfl

/-- The sign after a repetition that says how much it takes. -/
def readGreed : Reading Greed := do
  if ← accept '?' then return .reluctant
  if ← accept '+' then return .possessive
  return .greedy

/-- Repeats the part read last. -/
def repeatLast (place : Nat) (counts : Nat × Option Nat) (parts : List Regex) :
    Reading (List Regex) := do
  let back := (← get).position - place
  match parts with
  | [] => flaw .nothingToRepeat back
  | .anchor _ :: _ => flaw .nothingToRepeat back
  | .rep .. :: _ => flaw .multipleRepeat back
  | last :: before =>
    let body := match last with
      | .flagged on off body => if on.isEmpty && off.isEmpty then body else last
      | _ => last
    return .rep (← readGreed) counts.1 counts.2 body :: before

/-! ## Options -/

/-- The option that a letter stands for. -/
def optionOf? (c : CodePoint) : Option Flags :=
  if c = 'i' then some { ignoreCase := true }
  else if c = 'm' then some { multiLine := true }
  else if c = 's' then some { dotAll := true }
  else if c = 'x' then some { verbose := true }
  else if c = 'a' then some { ascii := true }
  else if c = 'u' then some { unicode := true }
  else if c = 't' then some { template := true }
  else none

/-- Whether a letter is an option, the one for locales included. -/
def isOptionLetter (c : CodePoint) : Bool := (optionOf? c).isSome || c == 'L'

/-- The flaw of a token where an option letter was expected. -/
def wrongOption {α : Type} (t : Token) (otherwise : Flaw.Cause) : Reading α :=
  match t with
  | .plain c =>
    if CodePoint.isLetter c then flaw .unknownOption 1 else flaw otherwise 1
  | .escape _ => flaw otherwise 2

/-- Option letters that switch on, from the given one up to a closing sign. -/
def readOptionsOn : Nat → CodePoint → Flags → Reading (Flags × CodePoint)
  | 0, _, _ => flaw .missingOptionEnd
  | fuel + 1, letter, on => do
    match optionOf? letter with
    | none => flaw .localeOption
    | some o =>
      let on := on.union o
      if (o.ascii || o.unicode) && on.ascii && on.unicode then flaw .incompatibleOptions
      match ← take with
      | none => flaw .missingOptionEnd
      | some (.plain c) =>
        if c = ')' || c = '-' || c = ':' then return (on, c)
        else if isOptionLetter c then readOptionsOn fuel c on
        else wrongOption (.plain c) .missingOptionEnd
      | some t => wrongOption t .missingOptionEnd

/-- Option letters that switch off, from the given one up to the colon. -/
def readOptionsOff : Nat → CodePoint → Flags → Reading Flags
  | 0, _, _ => flaw .missingColon
  | fuel + 1, letter, off => do
    match optionOf? letter with
    | none => flaw .classOptionOff
    | some o =>
      if o.ascii || o.unicode then flaw .classOptionOff
      let off := off.union o
      match ← take with
      | none => flaw .missingColon
      | some (.plain c) =>
        if c = ':' then return off
        else if isOptionLetter c then readOptionsOff fuel c off
        else wrongOption (.plain c) .missingColon
      | some t => wrongOption t .missingColon

/-- The options of a group, from the first letter or the minus sign on; `none` if they were for the
whole pattern. -/
def readOptions (c : CodePoint) : Reading (Option (Flags × Flags)) := do
  let fuel := (← get).rest.length + 1
  let (on, sign) ←
    if c = '-' then pure (({} : Flags), c) else readOptionsOn fuel c {}
  if sign = ')' then
    modify fun s => { s with flags := s.flags.union on }
    return none
  if on.template then flaw .globalOptionOn 1
  let off ←
    if sign = '-' then
      match ← take with
      | none => flaw .missingOption
      | some (.plain c) =>
        if isOptionLetter c then readOptionsOff fuel c {}
        else wrongOption (.plain c) .missingOption
      | some t => wrongOption t .missingOption
    else pure ({} : Flags)
  if off.template then flaw .globalOptionOff 1
  if on.meets off then flaw .optionOnAndOff 1
  return some (on, off)

/-! ## Alternatives -/

/-- Whether two parts are the same part written twice; groups and repetitions never are. -/
def isSamePart : Regex → Regex → Bool
  | .one a, .one b => a == b
  | .anchor a, .anchor b => a == b
  | .backref a, .backref b => a == b
  | _, _ => false

/-- The tails of the alternatives, if all of them begin with the same part. -/
def sharedHead? : List (List Regex) → Option (Regex × List (List Regex))
  | (head :: tail) :: others =>
    let tails? := others.mapM fun other => match other with
      | h :: t => if isSamePart h head then some t else none
      | [] => none
    tails?.map fun tails => (head, tail :: tails)
  | _ => none

/-- Moves the parts with which all alternatives begin in front of them. -/
def sharedStart : Nat → List (List Regex) → List Regex × List (List Regex)
  | 0, alternatives => ([], alternatives)
  | fuel + 1, alternatives =>
    match sharedHead? alternatives with
    | none => ([], alternatives)
    | some (head, tails) =>
      let (start, rest) := sharedStart fuel tails
      (head :: start, rest)

/-- The members of one class, if every alternative is one literal or one plain class. -/
def asMembers? (alternatives : List (List Regex)) : Option (List ClassItem) :=
  (alternatives.mapM fun (parts : List Regex) => match parts with
    | [.one (.literal c)] => some [ClassItem.literal c]
    | [.one (.oneOf false members)] => some members
    | _ => none).map List.flatten

/-- The parts of a choice: what all alternatives share, then one class or the choice itself. -/
def partsOfAlternatives : List (List Regex) → List Regex
  | [parts] => parts
  | alternatives =>
    let longest := alternatives.foldl (fun n parts => max n parts.length) 0
    let (start, rest) := sharedStart longest alternatives
    match asMembers? rest with
    | some members => start ++ [.one (.oneOf false members.eraseDups)]
    | none => start ++ [.ofAlternatives (rest.map .ofItems)]

/-- The parts of a sequence, with groups that neither record nor switch options dissolved. -/
def dissolveGroups (parts : List Regex) : List Regex :=
  parts.flatMap fun r => match r with
    | .flagged on off body => if on.isEmpty && off.isEmpty then body.items else [r]
    | _ => [r]

/-! ## Groups and sequences -/

/-- Skips a comment up to the end of the line. -/
def skipLine : Nat → Reading Unit
  | 0 => return ()
  | fuel + 1 => do
    match ← take with
    | none => return ()
    | some t => if t = .plain 10 then return () else skipLine fuel

/-- Skips a comment up to its parenthesis. -/
def skipComment (start : Nat) : Nat → Reading Unit
  | 0 => flaw .unterminatedComment
  | fuel + 1 => do
    match ← take with
    | none => flaw .unterminatedComment ((← get).position - start)
    | some t => if t = .plain ')' then return () else skipComment start fuel

/-- The group of a condition, given by name or number. -/
def readCondition : Reading Nat := do
  let name ← takeName ')' "group name"
  let s ← get
  let back := name.length + 1
  let index ←
    if isGroupName name then
      match s.names.find? (·.1 == name) with
      | some (_, index) => pure index
      | none => flaw (.unknownGroupName name) back
    else
      match Text.readInteger 10 name with
      | .ok (.ofNat index) =>
        if index = 0 then flaw .badGroupNumber back
        else if groupLimit ≤ index then flaw (.invalidGroupReference index) back
        else pure index
      | _ => flaw (.badGroupName name) back
  if !isGroupName name && !s.conditions.any (·.1 == index) then
    set { s with conditions := s.conditions ++ [(index, s.position - back)] }
  checkLookbehind index
  return index

/-- Requires the closing parenthesis of the group that began at a position. -/
def closeParenthesis (start : Nat) : Reading Unit := do
  if !(← accept ')') then flaw .unterminatedGroup ((← get).position - start)

/-- Code points that are no literals outside a class. -/
def isSpecial (c : CodePoint) : Bool :=
  (".\\[\x7b()*+?^$|" : Text).contains c

/-- White space that the verbose option makes insignificant. -/
def isVerboseSpace (c : CodePoint) : Bool := CodePoint.isAsciiSpace c

/-- What a parenthesis turned out to be. -/
inductive GroupOutcome where
  /-- A part of the pattern. -/
  | part (r : Regex)
  /-- A comment. -/
  | nothing
  /-- Options for the whole pattern. -/
  | options

mutual

/-- Alternatives up to a closing parenthesis or the end. -/
def readAlternatives : Nat → Bool → Nat → Reading (List Regex)
  | 0, _, _ => fault .nestedTooDeeply
  | fuel + 1, verbose, depth => do
    let first ← readSequence fuel verbose (depth + 1) (depth == 0) []
    let others ← readOthers fuel verbose depth
    return partsOfAlternatives (first :: others)

/-- The alternatives after the first. -/
def readOthers : Nat → Bool → Nat → Reading (List (List Regex))
  | 0, _, _ => fault .nestedTooDeeply
  | fuel + 1, verbose, depth => do
    if ← accept '|' then
      let global := (← get).flags.verbose
      let verbose := if depth = 0 then global else verbose
      let next ← readSequence fuel verbose (depth + 1) false []
      let others ← readOthers fuel verbose depth
      return next :: others
    else return []

/-- Parts up to a bar, a closing parenthesis or the end; the parts so far are given last first. -/
def readSequence : Nat → Bool → Nat → Bool → List Regex → Reading (List Regex)
  | 0, _, _, _, _ => fault .nestedTooDeeply
  | fuel + 1, verbose, depth, first, parts => do
    if nestingLimit < depth then fault .nestedTooDeeply
    let place := (← get).position
    match ← peek with
    | none => return dissolveGroups parts.reverse
    | some (.escape c) =>
      let _ ← take
      let r ← readEscape c
      readSequence fuel verbose depth first (r :: parts)
    | some (.plain c) =>
      if c = '|' || c = ')' then return dissolveGroups parts.reverse
      let _ ← take
      if verbose && isVerboseSpace c then readSequence fuel verbose depth first parts
      else if verbose && c = '#' then
        skipLine (← get).rest.length
        readSequence fuel verbose depth first parts
      else if !isSpecial c then
        readSequence fuel verbose depth first (.one (.literal c) :: parts)
      else if c = '[' then
        let test ← readClass
        readSequence fuel verbose depth first (.one test :: parts)
      else if c = '.' then readSequence fuel verbose depth first (.one .any :: parts)
      else if c = '^' then readSequence fuel verbose depth first (.anchor .lineStart :: parts)
      else if c = '$' then readSequence fuel verbose depth first (.anchor .lineEnd :: parts)
      else if c = '(' then
        match ← readGroup fuel verbose depth place (first && parts.isEmpty) with
        | .part r => readSequence fuel verbose depth first (r :: parts)
        | .nothing => readSequence fuel verbose depth first parts
        | .options => readSequence fuel (← get).flags.verbose depth first parts
      else
        match ← readCounts? c with
        | none => readSequence fuel verbose depth first (.one (.literal c) :: parts)
        | some counts =>
          let parts ← repeatLast place counts parts
          readSequence fuel verbose depth first parts

/-- A group, after its opening parenthesis at the given position. -/
def readGroup : Nat → Bool → Nat → Nat → Bool → Reading GroupOutcome
  | 0, _, _, _, _ => fault .nestedTooDeeply
  | fuel + 1, verbose, depth, start, first => do
    if !(← accept '?') then readCapture fuel verbose depth start none
    else
      match ← take with
      | none => flaw .unexpectedEnd
      | some (.escape c) => flaw (.unknownExtension [92, c]) 3
      | some (.plain c) =>
        if c = 'P' then
          match ← take with
          | none => flaw .unexpectedEnd
          | some t =>
            if t = .plain '<' then
              let name ← takeName '>' "group name"
              checkGroupName name 1
              readCapture fuel verbose depth start (some name)
            else if t = .plain '=' then
              let name ← takeName ')' "group name"
              checkGroupName name 1
              let s ← get
              match s.names.find? (·.1 == name) with
              | none => flaw (.unknownGroupName name) (name.length + 1)
              | some (_, index) =>
                if !s.isClosed index then flaw .openGroup (name.length + 1)
                checkLookbehind index
                return .part (.backref index)
            else flaw (.unknownExtension ('P'.toNat :: t.text)) (t.length + 2)
        else if c = ':' then
          return .part (.flagged {} {} (← readBody fuel verbose depth start))
        else if c = '#' then
          skipComment start ((← get).rest.length + 1)
          return .nothing
        else if c = '=' || c = '!' then
          let body ← readBody fuel verbose depth start
          return .part (.look false (c == '!') body)
        else if c = '<' then
          match ← take with
          | none => flaw .unexpectedEnd
          | some t =>
            if t = .plain '=' || t = .plain '!' then
              let outer := (← get).lookbehind
              modify fun s => { s with lookbehind := outer.orElse fun _ => some s.groupCount }
              let body ← readAlternatives fuel verbose (depth + 1)
              modify fun s => { s with lookbehind := outer }
              closeParenthesis start
              return .part (.look true (t == .plain '!') (.ofItems body))
            else flaw (.unknownExtension ('<'.toNat :: t.text)) (t.length + 2)
        else if c = '(' then
          let index ← readCondition
          let present ← readSequence fuel verbose (depth + 1) false []
          let absent ←
            if ← accept '|' then
              let absent ← readSequence fuel verbose (depth + 1) false []
              if (← peek) = some (.plain '|') then flaw .thirdBranch
              pure absent
            else pure []
          closeParenthesis start
          return .part (.cond index (.ofItems present) (.ofItems absent))
        else if c = '>' then
          return .part (.atomic (← readBody fuel verbose depth start))
        else if isOptionLetter c || c = '-' then
          match ← readOptions c with
          | none =>
            if !first then flaw .lateOptions ((← get).position - start)
            return .options
          | some (on, off) =>
            let verbose := (verbose || on.verbose) && !off.verbose
            return .part (.flagged on off (← readBody fuel verbose depth start))
        else flaw (.unknownExtension [c]) 2

/-- The body of a group and its closing parenthesis. -/
def readBody : Nat → Bool → Nat → Nat → Reading Regex
  | 0, _, _, _ => fault .nestedTooDeeply
  | fuel + 1, verbose, depth, start => do
    let parts ← readAlternatives fuel verbose (depth + 1)
    closeParenthesis start
    return .ofItems parts

/-- A group that records where it matched. -/
def readCapture : Nat → Bool → Nat → Nat → Option Text → Reading GroupOutcome
  | 0, _, _, _, _ => fault .nestedTooDeeply
  | fuel + 1, verbose, depth, start, name => do
    let index ← openGroup name
    let body ← readBody fuel verbose depth start
    let s ← get
    closeGroup index (width s.widthOf body)
    return .part (.capture index body)

end

/-! ## Whole patterns -/

/-- How much fuel a pattern needs: no token takes more than six calls. -/
def fuelFor (pattern : Text) : Nat := 6 * pattern.length + 8

/-- Reads a whole pattern under the given options. -/
def readPattern (pattern : Text) : Reading (List Regex) := do
  checkNext
  let flags := (← get).flags
  let parts ← readAlternatives (fuelFor pattern) flags.verbose 0
  let s ← get
  if s.flags.ascii && s.flags.unicode then fault .incompatibleClasses
  if (← peek).isSome then flaw .unbalanced
  match s.conditions.find? (s.groupCount ≤ ·.1) with
  | some (index, position) => throw (.flaw ⟨.invalidGroupReference index, some position⟩)
  | none => return parts

/-- The tree of a pattern under the given options, or what is wrong with the pattern. -/
def parse (pattern : Text) (flags : Flags) : Except Failure Parsed := do
  let (parts, s) ← (readPattern pattern).run { rest := pattern, flags }
  let tree := Regex.ofItems parts
  match checkShape s.widthOf s.flags.template tree with
  | .error f => .error (.flaw f)
  | .ok () =>
    if hasFarLookbehind s.widthOf tree then .error (.fault .farLookbehind)
    let flags := if s.flags.ascii then s.flags else { s.flags with unicode := true }
    return { tree, flags, widths := s.widths }

end ToolPolicy.Regex
