import ToolPolicy.Console.Literal.Token

/-!
# Literals as expressions

A literal is an expression without names: numbers, quoted texts, constants, and tuples, lists, sets
and dictionaries of those. Expressions of other kinds are read as well, so that what is well formed
can be told from what is not, and so that a refusal can name what was written.

Reading goes from left to right. An operator without an operand behind it is left unread; whoever
reads on then finds that it does not belong there. A reader that cannot begin says
`Refusal.invalid`, which another way of reading may put right; every other refusal is final.
-/

namespace ToolPolicy.Literal

/-! ## Meanings -/

/-- What an expression stands for. -/
inductive Meaning where
  | real (isSigned : Bool)
  | imaginary (isSigned : Bool)
  | fixed
  /-- A value that cannot be a key, with its kind. -/
  | changing (kind : Text)
  | failure (why : Refusal)
  deriving DecidableEq, Repr

namespace Meaning

/-- Why there is no value, if there is none. -/
def failure? : Meaning → Option Refusal
  | failure why => some why
  | _ => none

/-- The kind of a value that cannot be a key. -/
def kindOfChanging? : Meaning → Option Text
  | changing kind => some kind
  | _ => none

/-- Why a value cannot be a key or a member. -/
def keyFailure? : Meaning → Option Refusal
  | failure why => some why
  | changing kind => some (.unhashable kind)
  | _ => none

/-- A number with a sign in front of it. -/
def signed : Meaning → Meaning
  | real false => real true
  | imaginary false => imaginary true
  | _ => failure .notLiteral

/-- The sum or difference of a real and an imaginary number; there is no other arithmetic. -/
def combined (operator : Text) (a b : Meaning) : Meaning :=
  match a, b with
  | real _, imaginary false =>
    if operator == Text.ofString "+" || operator == Text.ofString "-" then fixed
    else failure .notLiteral
  | _, _ => failure .notLiteral

/-- A tuple, which can be a key if all its items can. -/
def ofTuple (items : List Meaning) : Meaning :=
  match items.findSome? failure?, items.findSome? kindOfChanging? with
  | some why, _ => failure why
  | none, some kind => changing kind
  | none, none => fixed

/-- A list. -/
def ofList (items : List Meaning) : Meaning :=
  match items.findSome? failure? with
  | some why => failure why
  | none => changing "list"

/-- A set, whose members have to be able to be keys. -/
def ofSet (items : List Meaning) : Meaning :=
  match items.findSome? keyFailure? with
  | some why => failure why
  | none => changing "set"

/-- A dictionary; a starred entry has no key. -/
def ofEntries (entries : List (Option Meaning × Meaning)) : Meaning :=
  let flaw := entries.findSome? fun (key, value) =>
    match key with
    | none => some .nothingStarred
    | some key => (key.failure? <|> value.failure?) <|> key.keyFailure?
  match flaw with
  | some why => failure why
  | none => changing "dict"

end Meaning

/-- What has been read: what it is called, and what it stands for. -/
structure Node where
  name : Text
  meaning : Meaning
  deriving DecidableEq, Repr

/-- Something that is no literal. -/
def Node.other (name : String) : Node := ⟨Text.ofString name, .failure .notLiteral⟩

/-! ## Reading -/

/-- Something that was read, with the tokens that are left. -/
abbrev Found (α : Type) := α × List Token

/-- What was read, or nothing if reading could not begin. -/
def attempt {α : Type} (r : Except Refusal α) : Except Refusal (Option α) :=
  match r with
  | .ok a => .ok (some a)
  | .error .invalid => .ok none
  | .error why => .error why

/-- The sign that is one code point. -/
def mark (c : CodePoint) : Token := .sign [c]

/-- The sign with a text. -/
def signOf (s : String) : Token := .sign (Text.ofString s)

/-- The keyword with a text. -/
def keywordOf (s : String) : Token := .keyword (Text.ofString s)

/-- Whether some tokens begin with a token. -/
def startsWith (l : List Token) (t : Token) : Bool := l.head? == some t

/-- The signs of arithmetic. -/
def arithmeticSigns : List Text := Text.words "+ - * / // % @ ** & | ^ << >>"

/-- The signs of comparison. -/
def comparisonSigns : List Text := Text.words "== != < <= > >="

/-- What follows a comparison at the beginning of some tokens. -/
def afterComparison? : List Token → Option (List Token)
  | .sign s :: rest => if comparisonSigns.contains s then some rest else none
  | .keyword w :: rest =>
    if w == Text.ofString "in" then some rest
    else if w == Text.ofString "is" then
      some (if startsWith rest (keywordOf "not") then rest.drop 1 else rest)
    else if w == Text.ofString "not" && startsWith rest (keywordOf "in") then some (rest.drop 1)
    else none
  | _ => none

/-- Whether some tokens begin as an expression does that no operator leads up to. -/
def beginsExpression : List Token → Bool
  | .word _ :: _ | .constant _ :: _ | .number _ :: _ | .quoted .. :: _ => true
  | .keyword w :: _ => w == Text.ofString "not" || w == Text.ofString "await"
  | .sign s :: _ => (["(", "[", "\x7b", "~", "..."] : List Text).contains s
  | _ => false

/-- Whether some tokens begin with an operand of a single token. -/
def beginsOperand : List Token → Bool
  | .word _ :: _ | .constant _ :: _ | .number _ :: _ | .quoted .. :: _ => true
  | .sign s :: _ => s == Text.ofString "..."
  | _ => false

/-- Whether a comma is never missed behind what some tokens begin with: a name in front of a quoted
text may belong to it, and some words may be more than names. -/
def isExcused : List Token → Bool
  | .word w :: rest =>
    (["_", "case", "match"] : List Text).contains w
      || match rest with
        | .quoted .. :: _ => true
        | _ => false
  | _ => false

/-- The name of a call that was once written without brackets. -/
def bareCall? : List Token → Option Text
  | .word w :: rest =>
    if (["print", "exec"] : List Text).contains w && !startsWith rest (signOf "(") then some w
    else none
  | _ => none

/-- The first quoted text that does not go with the ones before it, or has a flaw of its own. -/
def quotedFlaw? (isBytes : Bool) : List Token → Option Refusal
  | .quoted b _ flaw :: rest =>
    match flaw with
    | some why => some why
    | none => if b = isBytes then quotedFlaw? isBytes rest else some .mixedQuotes
  | _ => none

/-- Whether a token is a quoted text. -/
def isQuoted : Token → Bool
  | .quoted .. => true
  | _ => false

/-- Whether a token is a quoted text with expressions in it. -/
def isFilled : Token → Bool
  | .quoted _ filled _ => filled
  | _ => false

/-- Quoted texts one behind the other, which have to be of one kind. -/
def readQuotedRun (isBytes : Bool) (l : List Token) : Except Refusal (Found Node) :=
  let rest := l.dropWhile isQuoted
  match rest, quotedFlaw? isBytes l with
  | .stop why :: _, _ => .error why
  | _, some why => .error why
  | _, none =>
    if (l.takeWhile isQuoted).any isFilled then .ok (.other "f-string expression", rest)
    else .ok (⟨"literal", .fixed⟩, rest)

mutual

/-- Reads the smallest part of an expression. -/
def atom : Nat → Nat → List Token → Except Refusal (Found Node)
  | 0, _, _ => .error .invalid
  | fuel + 1, depth, l =>
    match l with
    | .stop why :: _ => .error why
    | .number isImaginary :: rest =>
      .ok (⟨"literal", if isImaginary then .imaginary false else .real false⟩, rest)
    | .quoted isBytes .. :: _ => readQuotedRun isBytes l
    | .constant w :: rest => .ok (⟨w, .fixed⟩, rest)
    | .word _ :: rest => .ok (.other "name", rest)
    | .sign s :: rest =>
      if s == Text.ofString "..." then .ok (⟨"ellipsis", .fixed⟩, rest)
      else if s == Text.ofString "(" then group fuel (depth + 1) rest
      else if s == Text.ofString "[" then
        (items fuel (depth + 1) (mark 93) [] rest).map fun (found, rest) =>
          (⟨"list", .ofList (found.map (·.meaning))⟩, rest)
      else if s == [123] then braces fuel (depth + 1) rest
      else .error .invalid
    | _ => .error .invalid

/-- Reads the names, calls and subscripts behind a part. -/
def trailers : Nat → Nat → Node → List Token → Except Refusal (Found Node)
  | 0, _, _, _ => .error .invalid
  | fuel + 1, depth, node, l =>
    match l with
    | .stop why :: _ => .error why
    | .sign [46] :: .word _ :: rest => trailers fuel depth (.other "attribute") rest
    | .sign [40] :: rest => do
      match ← attempt (arguments fuel (depth + 1) false rest) with
      | some ((), rest) => trailers fuel depth (.other "function call") rest
      | none => return (node, l)
    | .sign [91] :: rest => do
      match ← attempt (slices fuel (depth + 1) false rest) with
      | some ((), rest) => trailers fuel depth (.other "subscript") rest
      | none => return (node, l)
    | _ => .ok (node, l)

/-- Reads a part with what is behind it, and the signs in front of it. -/
def factor : Nat → Nat → List Token → Except Refusal (Found Node)
  | 0, _, _ => .error .invalid
  | fuel + 1, depth, l => do
    match l with
    | .sign [43] :: rest | .sign [45] :: rest =>
      let (node, rest) ← factor fuel depth rest
      return (⟨"expression", node.meaning.signed⟩, rest)
    | .sign [126] :: rest =>
      let (_, rest) ← factor fuel depth rest
      return (.other "expression", rest)
    | .word w :: .sign [40] :: .sign [41] :: rest =>
      if w == Text.ofString "set" then trailers fuel depth ⟨"function call", .changing "set"⟩ rest
      else trailers fuel depth (.other "function call") rest
    | .keyword w :: rest =>
      if w == Text.ofString "await" then
        let (_, rest) ← factor fuel depth rest
        return (.other "await expression", rest)
      else throw .invalid
    | _ =>
      let (node, rest) ← atom fuel depth l
      trailers fuel depth node rest

/-- Reads arithmetic. -/
def arithmetic : Nat → Nat → List Token → Except Refusal (Found Node)
  | 0, _, _ => .error .invalid
  | fuel + 1, depth, l => do
    let (first, rest) ← factor fuel depth l
    moreArithmetic fuel depth first rest

/-- Reads the operators and operands behind an operand. -/
def moreArithmetic : Nat → Nat → Node → List Token → Except Refusal (Found Node)
  | 0, _, _, _ => .error .invalid
  | fuel + 1, depth, node, l => do
    match l with
    | .sign s :: more =>
      if !arithmeticSigns.contains s then return (node, l)
      match ← attempt (factor fuel depth more) with
      | none => return (node, l)
      | some (right, rest) =>
        moreArithmetic fuel depth ⟨"expression", .combined s node.meaning right.meaning⟩ rest
    | _ => return (node, l)

/-- Reads comparisons. -/
def comparison : Nat → Nat → List Token → Except Refusal (Found Node)
  | 0, _, _ => .error .invalid
  | fuel + 1, depth, l => do
    match l with
    | .keyword w :: rest =>
      if w == Text.ofString "not" then
        let (_, rest) ← comparison fuel depth rest
        return (.other "expression", rest)
      else
        let (node, rest) ← arithmetic fuel depth l
        moreComparison fuel depth node rest
    | _ =>
      let (node, rest) ← arithmetic fuel depth l
      moreComparison fuel depth node rest

/-- Reads what a value is compared with. -/
def moreComparison : Nat → Nat → Node → List Token → Except Refusal (Found Node)
  | 0, _, _, _ => .error .invalid
  | fuel + 1, depth, node, l => do
    match afterComparison? l with
    | none => return (node, l)
    | some more =>
      match ← attempt (arithmetic fuel depth more) with
      | none => return (node, l)
      | some (_, rest) => moreComparison fuel depth (.other "comparison") rest

/-- Reads comparisons with `and` and `or` between them. -/
def disjunction : Nat → Nat → List Token → Except Refusal (Found Node)
  | 0, _, _ => .error .invalid
  | fuel + 1, depth, l => do
    let (node, rest) ← comparison fuel depth l
    moreDisjunction fuel depth node rest

/-- Reads what follows with `and` and `or`. -/
def moreDisjunction : Nat → Nat → Node → List Token → Except Refusal (Found Node)
  | 0, _, _, _ => .error .invalid
  | fuel + 1, depth, node, l => do
    if startsWith l (keywordOf "and") || startsWith l (keywordOf "or") then
      match ← attempt (comparison fuel depth (l.drop 1)) with
      | none => return (node, l)
      | some (_, rest) => moreDisjunction fuel depth (.other "expression") rest
    else return (node, l)

/-- Reads an expression without looking at what is behind it. -/
def bareExpression : Nat → Nat → List Token → Except Refusal (Found Node)
  | 0, _, _ => .error .invalid
  | fuel + 1, depth, l => do
    let (node, rest) ← disjunction fuel depth l
    if !startsWith rest (keywordOf "if") then return (node, rest)
    match ← attempt (disjunction fuel depth (rest.drop 1)) with
    | none => return (node, rest)
    | some (_, after) =>
      if !startsWith after (keywordOf "else") then return (node, rest)
      match ← attempt (expression fuel depth (after.drop 1)) with
      | some (_, after) => return (.other "conditional expression", after)
      | none => return (node, rest)

/-- Refuses what stands directly behind an expression that ends where another one begins. -/
def neighbour : Nat → Nat → List Token → Node → List Token → Except Refusal Unit
  | 0, _, _, _, _ => .error .invalid
  | fuel + 1, depth, l, node, rest => do
    if !beginsExpression rest then return ()
    let isName := match l with
      | .word _ :: more => more.length == rest.length
      | _ => false
    if isExcused l then
      if isName then
        if (← attempt (expression fuel depth rest)).isSome then
          if let some name := bareCall? l then throw (.missingBrackets name)
      return ()
    let missesComma := depth != 0 && !((bareCall? l).isSome && node.name == Text.ofString "name")
    match disjunction fuel depth rest with
    | .ok _ => if missesComma then throw .missingComma
    | .error .invalid => if beginsOperand rest && missesComma then throw .missingComma
    | .error why =>
      if why.isAboutToken then throw why
      if beginsOperand rest then
        if missesComma then throw .missingComma
      else if isName then throw why
    if isName then
      if (← attempt (expression fuel depth rest)).isSome then
        if let some name := bareCall? l then throw (.missingBrackets name)

/-- Reads an expression; `depth` is the number of brackets around it. -/
def expression : Nat → Nat → List Token → Except Refusal (Found Node)
  | 0, _, _ => .error .invalid
  | fuel + 1, depth, l => do
    let (node, rest) ← disjunction fuel depth l
    neighbour fuel depth l node rest
    if startsWith rest (keywordOf "if") then
      match ← attempt (disjunction fuel depth (rest.drop 1)) with
      | none => return (node, rest)
      | some (_, after) =>
        if startsWith after (keywordOf "else") then bareExpression fuel depth l
        else if startsWith after (mark 58) then return (node, rest)
        else throw .missingElse
    else return (node, rest)

/-- Reads an expression that may be given a name. -/
def named : Nat → Nat → List Token → Except Refusal (Found Node)
  | 0, _, _ => .error .invalid
  | fuel + 1, depth, l => do
    let colonEqual := signOf ":="
    let isEnd (rest : List Token) : Bool :=
      !(startsWith rest (mark 61) || startsWith rest colonEqual)
    if let .word _ :: sign :: more := l then
      if sign = colonEqual then
        let (_, rest) ← expression fuel depth more
        return (.other "named expression", rest)
      if sign = mark 61 then
        if let some (_, rest) ← attempt (arithmetic fuel depth more) then
          if isEnd rest then throw .noComparison
    let (node, rest) ← expression fuel depth l
    if startsWith rest colonEqual then
      match ← attempt (expression fuel depth (rest.drop 1)) with
      | some _ => throw (.notNameable node.name)
      | none => throw .invalid
    if startsWith rest (mark 61) then
      let (target, after) ← arithmetic fuel depth l
      let isExempt := match l with
        | .constant _ :: _ => true
        | .sign s :: _ => s == [91] || (s == [40] && node.name == Text.ofString "tuple")
        | _ => false
      if !isExempt && startsWith after (mark 61) then
        if let some (_, rest) ← attempt (arithmetic fuel depth (after.drop 1)) then
          if isEnd rest then throw (.notAssignable target.name)
    return (node, rest)

/-- Reads an item of a list, which may be starred. -/
def item : Nat → Nat → List Token → Except Refusal (Found Node)
  | 0, _, _ => .error .invalid
  | fuel + 1, depth, l => do
    if startsWith l (mark 42) then
      let (_, rest) ← arithmetic fuel depth (l.drop 1)
      return (.other "starred", rest)
    else named fuel depth l

/-- Reads items up to a closing bracket, with commas between them and perhaps at their end. -/
def items : Nat → Nat → Token → List Node → List Token → Except Refusal (Found (List Node))
  | 0, _, _, _, _ => .error .invalid
  | fuel + 1, depth, closing, found, l => do
    if startsWith l closing then return (found, l.drop 1)
    if let .stop why :: _ := l then throw why
    let (node, rest) ← item fuel depth l
    if startsWith rest (mark 44) then items fuel depth closing (found ++ [node]) (rest.drop 1)
    else if startsWith rest closing then return (found ++ [node], rest.drop 1)
    else throw .invalid

/-- Reads a tuple, or an expression in brackets. -/
def group : Nat → Nat → List Token → Except Refusal (Found Node)
  | 0, _, _ => .error .invalid
  | fuel + 1, depth, l => do
    let closing := mark 41
    let tuple (found : List Node) : Node := ⟨"tuple", .ofTuple (found.map (·.meaning))⟩
    if startsWith l closing then return (tuple [], l.drop 1)
    if let .stop why :: _ := l then throw why
    if startsWith l (signOf "**") then
      match ← attempt (expression fuel depth (l.drop 1)) with
      | some (_, rest) => throw (if startsWith rest closing then .doubleStarred else .invalid)
      | none => throw .invalid
    else if startsWith l (mark 42) then
      match ← attempt (arithmetic fuel depth (l.drop 1)) with
      | some (_, .sign [44] :: more) =>
        let (found, rest) ← items fuel depth closing [.other "starred"] more
        return (tuple found, rest)
      | _ =>
        match ← attempt (expression fuel depth (l.drop 1)) with
        | some (_, rest) => throw (if startsWith rest closing then .starred else .invalid)
        | none => throw .invalid
    else
      let (node, rest) ← named fuel depth l
      if startsWith rest (mark 44) then
        let (found, rest) ← items fuel depth closing [node] (rest.drop 1)
        return (tuple found, rest)
      else if startsWith rest closing then return (node, rest.drop 1)
      else throw .invalid

/-- Reads an entry of a dictionary, behind its key if there is one. -/
def entryValue :
    Nat → Nat → Node → List Token → Except Refusal (Option (Found (Option Node × Node)))
  | 0, _, _, _ => .ok none
  | fuel + 1, depth, key, l => do
    if startsWith l (mark 58) then
      return (← attempt (expression fuel depth (l.drop 1))).map fun (value, rest) =>
        ((some key, value), rest)
    else return none

/-- Reads the entries of a dictionary behind the first ones, as far as they go. -/
def moreEntries : Nat → Nat → List (Option Node × Node) → List Token →
    Except Refusal (Found (List (Option Node × Node)))
  | 0, _, _, _ => .error .invalid
  | fuel + 1, depth, found, l => do
    if !startsWith l (mark 44) || startsWith l.tail (mark 125) then return (found, l)
    if startsWith l.tail (signOf "**") then
      match ← attempt (arithmetic fuel depth (l.drop 2)) with
      | some (value, rest) => moreEntries fuel depth (found ++ [(none, value)]) rest
      | none => return (found, l)
    else
      match ← attempt (bareExpression fuel depth l.tail) with
      | none => return (found, l)
      | some (key, rest) =>
        match ← entryValue fuel depth key rest with
        | some (entry, rest) => moreEntries fuel depth (found ++ [entry]) rest
        | none =>
          entryFlaw fuel depth rest
          if startsWith rest (mark 58) then return (found, l) else throw .missingColon

/-- Refuses what stands behind a key without being a value. -/
def entryFlaw : Nat → Nat → List Token → Except Refusal Unit
  | 0, _, _ => .error .invalid
  | fuel + 1, depth, l => do
    if startsWith l (mark 58) then
      let after := l.drop 1
      if startsWith after (mark 42) then
        if (← attempt (arithmetic fuel depth (after.drop 1))).isSome then throw .starredValue
      if startsWith after (mark 44) || startsWith after (mark 125) then throw .missingValue

/-- Reads a dictionary or a set. -/
def braces : Nat → Nat → List Token → Except Refusal (Found Node)
  | 0, _, _ => .error .invalid
  | fuel + 1, depth, l => do
    let closing := mark 125
    let dictionary (found : List (Option Node × Node)) : Node :=
      ⟨"dict literal",
       .ofEntries (found.map fun (key, value) => (key.map (·.meaning), value.meaning))⟩
    let finish (found : List (Option Node × Node)) (l : List Token) :
      Except Refusal (Found Node) := do
      let (found, rest) ← moreEntries fuel depth found l
      let rest := if startsWith rest (mark 44) then rest.drop 1 else rest
      if startsWith rest closing then return (dictionary found, rest.drop 1) else throw .invalid
    if startsWith l closing then return (dictionary [], l.drop 1)
    if let .stop why :: _ := l then throw why
    if startsWith l (signOf "**") then
      let (value, rest) ← arithmetic fuel depth (l.drop 1)
      finish [(none, value)] rest
    else
      let (first, rest) ← item fuel depth l
      if startsWith rest (mark 58) then
        match ← entryValue fuel depth first rest with
        | some (entry, rest) => finish [entry] rest
        | none =>
          entryFlaw fuel depth rest
          throw .invalid
      else
        let set (found : List Node) : Node := ⟨"set display", .ofSet (found.map (·.meaning))⟩
        if startsWith rest (mark 44) then
          let (found, rest) ← items fuel depth closing [first] (rest.drop 1)
          return (set found, rest)
        else if startsWith rest closing then return (set [first], rest.drop 1)
        else throw .invalid

/-- Reads the arguments of a call up to its closing bracket. -/
def arguments : Nat → Nat → Bool → List Token → Except Refusal (Found Unit)
  | 0, _, _, _ => .error .invalid
  | fuel + 1, depth, afterName, l => do
    let goOn (afterName : Bool) (rest : List Token) : Except Refusal (Found Unit) :=
      if startsWith rest (mark 44) then arguments fuel depth afterName (rest.drop 1)
      else if startsWith rest (mark 41) then .ok ((), rest.drop 1)
      else .error .invalid
    match l with
    | .stop why :: _ => throw why
    | .sign [41] :: rest => return ((), rest)
    | .sign [42] :: more => goOn afterName (← expression fuel depth more).2
    | .sign [42, 42] :: more => goOn true (← expression fuel depth more).2
    | .word _ :: .sign [61] :: more => goOn true (← expression fuel depth more).2
    | .constant w :: .sign [61] :: _ => throw (.fixedWord w)
    | _ =>
      let (_, rest) ← if startsWith l.tail (signOf ":=") then named fuel depth l
        else expression fuel depth l
      if startsWith rest (mark 61) then throw .assignmentInCall
      if afterName then throw .positionAfterName
      goOn afterName rest

/-- Reads what a subscript holds up to its closing bracket. -/
def slices : Nat → Nat → Bool → List Token → Except Refusal (Found Unit)
  | 0, _, _, _ => .error .invalid
  | fuel + 1, depth, hasPart, l => do
    match l with
    | .stop why :: _ => throw why
    | .sign [93] :: rest => if hasPart then return ((), rest) else throw .invalid
    | .sign [58] :: rest => slices fuel depth true rest
    | .sign [44] :: rest => if hasPart then slices fuel depth true rest else throw .invalid
    | _ =>
      let (_, rest) ← item fuel depth l
      if startsWith rest (mark 93) || startsWith rest (mark 58) || startsWith rest (mark 44) then
        slices fuel depth true rest
      else throw .invalid

end

/-- Reads expressions with commas between them, which have to be all there is. -/
def expressions (fuel : Nat) : Nat → List Node → List Token → Except Refusal (List Node)
  | 0, _, _ => .error .invalid
  | count + 1, found, l => do
    let (node, rest) ← expression fuel 0 l
    match rest with
    | [] => return found ++ [node]
    | [.sign [44]] => return found ++ [node, node]
    | .sign [44] :: more => expressions fuel count (found ++ [node]) more
    | _ => throw .invalid

/-- What the expressions of a text stand for: a single one for itself, several for a tuple. -/
def meaning (t : Text) : Except Refusal Meaning := do
  let l ← tokens (t.length + 1) [] t
  let l := (l.reverse.dropWhile (· == mark 10)).reverse
  let found ← expressions (24 * l.length + 48) (l.length + 1) [] l
  match found with
  | [node] => return node.meaning
  | nodes => return .ofTuple (nodes.map (·.meaning))

/-- Why a text is no literal, if it is none. -/
def refusal? (t : Text) : Option Refusal :=
  match meaning t with
  | .ok m => m.failure?
  | .error why => some why

end ToolPolicy.Literal
