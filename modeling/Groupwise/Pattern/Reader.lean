import Groupwise.Json.Reader
import Groupwise.Pattern.Tree
import Groupwise.Text.Letter

/-!
# Reading patterns

A pattern is read from left to right. Where the pattern asks for it, blanks and comments between its
parts are passed over. Loops take fuel: no more than two of their rounds pass over the same
character, so twice the number of characters is enough.
-/
namespace Groupwise.Pattern

structure Cursor where
  rest : List Char
  position : Nat := 0
  spaced : Bool := false
  /-- The names of the groups so far, with their places. -/
  names : List (List Char × Span) := []

namespace Cursor

def step (s : Cursor) : Cursor :=
  match s.rest with
  | [] => s
  | _ :: rest => { s with rest := rest, position := s.position + 1 }

def dropWhile (p : Char → Bool) (s : Cursor) : Cursor :=
  { s with
    rest := s.rest.dropWhile p
    position := s.position + (s.rest.takeWhile p).length }

/-- The characters after blanks and comments; the flag says whether a comment is open. -/
def afterSpace : Bool → List Char → List Char
  | _, [] => []
  | true, c :: rest => afterSpace (c != '\n') rest
  | false, c :: rest =>
    if Text.blanks.contains c then afterSpace false rest
    else if c == '#' then afterSpace true rest
    else c :: rest

def skipSpace (s : Cursor) : Cursor :=
  if s.spaced then
    let rest := afterSpace false s.rest
    { s with rest := rest, position := s.position + (s.rest.length - rest.length) }
  else s

/-- The character after the next one, blanks apart where they mean nothing. A comment counts from
its first character that is not blank. -/
def second? (s : Cursor) : Option Char :=
  let rest := s.rest.tail
  if s.spaced then
    match rest.dropWhile Text.blanks.contains with
    | [] => rest.head?
    | '#' :: comment => (comment.dropWhile Text.blanks.contains).head?.or rest.head?
    | c :: _ => some c
  else rest.head?

end Cursor

abbrev Reading := StateT Cursor (Except Fault)

def refuse {α : Type} (kind : FaultKind) (span : Span) (other : Option Span := none) : Reading α :=
  throw ⟨kind, span, other⟩

def here : Reading Nat := return (← get).position

def next? : Reading (Option Char) := return (← get).rest.head?

def step : Reading Unit := modify Cursor.step

def skipSpace : Reading Unit := modify Cursor.skipSpace

/-- Pass over a character and the space behind it, and look at what comes then. -/
def advance : Reading (Option Char) := do
  step
  skipSpace
  next?

/-- Pass over a given word if it comes next. -/
def accept (word : String) : Reading Bool := do
  let s ← get
  if word.toList.isPrefixOf s.rest then
    set { s with
      rest := s.rest.drop word.length
      position := s.position + word.length }
    return true
  else return false

def collect (p : Char → Bool) : Nat → Reading (List Char)
  | 0 => pure []
  | fuel + 1 => do
    match ← next? with
    | none => pure []
    | some c =>
      if p c then do
        let _ ← advance
        return c :: (← collect p fuel)
      else pure []

def collectWhile (p : Char → Bool) : Reading (List Char) := do
  collect p (← get).rest.length

/-! ## Escapes -/

inductive Primitive where
  | atom (atom : Atom)
  | dot (span : Span)
  | anchor (span : Span) (mark : AnchorMark)

def Primitive.span : Primitive → Span
  | .atom a => a.span
  | .dot span => span
  | .anchor span _ => span

def Primitive.tree : Primitive → Tree
  | .atom a => .atom a
  | .dot span => .dot span
  | .anchor _ mark => .anchor mark

def isHexDigit (c : Char) : Bool := (Json.hexDigit? c).isSome

def charOfDigits? (digits : List Char) : Option Char :=
  let n := digits.foldl (fun n c => 16 * n + (Json.hexDigit? c).getD 0) 0
  if n.isValidChar then some (Char.ofNat n) else none

def readHexDigits : Nat → Reading (List Char)
  | 0 => pure []
  | n + 1 => do
    let position ← here
    match ← next? with
    | none => refuse .escapeUnfinished (.point position)
    | some c =>
      if isHexDigit c then do
        let _ ← advance
        return c :: (← readHexDigits n)
      else refuse .codeDigit (.char position)

/-- The number of a character: digits of a fixed count, or any digits in braces. Only two digits
without braces can be meant as a byte. -/
def readCode (start count : Nat) : Reading Literal := do
  let found ← advance
  let first ← here
  match found with
  | none => refuse .escapeUnfinished (.point first)
  | some '\x7b' =>
    let _ ← advance
    let digits ← collectWhile isHexDigit
    let stop ← here
    match ← next? with
    | none => refuse .escapeUnfinished ⟨first, stop⟩
    | some '\x7d' =>
      let _ ← advance
      if digits.isEmpty then refuse .codeEmpty ⟨first, ← here⟩
      else match charOfDigits? digits with
        | some c => return { span := ⟨start, ← here⟩, char := c }
        | none => refuse .codeOfNoCharacter ⟨first + 1, stop⟩
    | some _ => refuse .codeDigit (.char stop)
  | some _ =>
    let digits ← readHexDigits count
    match charOfDigits? digits with
    | some c => return { span := ⟨start, ← here⟩, char := c, isByte := count == 2 }
    | none => refuse .codeOfNoCharacter ⟨first, ← here⟩

/-- Split a list at the first place where a word stands. -/
def splitAtWord? (word : List Char) : List Char → Option (List Char × List Char)
  | [] => none
  | c :: rest =>
    if word.isPrefixOf (c :: rest) then some ([], (c :: rest).drop word.length)
    else (splitAtWord? word rest).map fun r => (c :: r.1, r.2)

/-- What is asked for in the braces of a property, and whether its complement is meant. -/
def propertyQuery (content : List Char) : Unicode.PropertyQuery × Bool :=
  match splitAtWord? ['!', '='] content with
  | some (name, value) => (.valued name value, true)
  | none =>
    match (splitAtWord? [':'] content).or (splitAtWord? ['='] content) with
    | some (name, value) => (.valued name value, false)
    | none => (.named content, false)

def readProperty (start : Nat) (negated : Bool) : Reading Atom := do
  let found ← advance
  let first ← here
  match found with
  | none => refuse .escapeUnfinished (.point first)
  | some '\x7b' =>
    let _ ← advance
    let content ← collectWhile (· != '\x7d')
    match ← next? with
    | none => refuse .escapeUnfinished (.point (← here))
    | some _ =>
      step
      let (query, complement) := propertyQuery content
      return .property ⟨start, ← here⟩ query (negated != complement)
  | some '\\' => refuse .propertyInvalid (.char first)
  | some c =>
    let _ ← advance
    return .property ⟨start, ← here⟩ (.named [c]) negated

def isBoundaryChar (c : Char) : Bool := c.isAlpha || c == '-'

/-- A boundary of words. A name in braces tells its kind; any other brace begins the count of a
repetition and is left alone. -/
def readBoundary (start : Nat) : Reading AnchorMark := do
  let before ← get
  match before.rest with
  | '\x7b' :: _ =>
    match ← advance with
    | none => refuse .boundaryUnfinished ⟨start, ← here⟩
    | some c =>
      if isBoundaryChar c then
        let first ← here
        let name ← collectWhile isBoundaryChar
        match ← next? with
        | some '\x7d' =>
          let stop ← here
          step
          match String.ofList name with
          | "start" => return .wordStart
          | "end" => return .wordEnd
          | "start-half" => return .wordStartHalf
          | "end-half" => return .wordEndHalf
          | _ => refuse .boundaryUnknown ⟨first, stop⟩
        | _ => refuse .boundaryUnclosed ⟨before.position, ← here⟩
      else
        set before
        return .boundary
  | _ => return .boundary

def isEscapable (c : Char) : Bool :=
  c.toNat < 0x80 && !c.isAlphanum && c != '<' && c != '>'

def controlOfLetter? : Char → Option Char
  | 'a' => some '\x07'
  | 'f' => some '\x0c'
  | 't' => some '\t'
  | 'n' => some '\n'
  | 'r' => some '\r'
  | 'v' => some '\x0b'
  | _ => none

def shortOfLetter? : Char → Option (ShortClass × Bool)
  | 'd' => some (.digit, false)
  | 'D' => some (.digit, true)
  | 's' => some (.space, false)
  | 'S' => some (.space, true)
  | 'w' => some (.word, false)
  | 'W' => some (.word, true)
  | _ => none

def readEscape : Reading Primitive := do
  let start ← here
  step
  let position ← here
  match ← next? with
  | none => refuse .escapeUnfinished ⟨start, position⟩
  | some c =>
    if c.isDigit then refuse .backReference ⟨start, position + 1⟩
    else if c == 'x' then return .atom (.literal (← readCode start 2))
    else if c == 'u' then return .atom (.literal (← readCode start 4))
    else if c == 'U' then return .atom (.literal (← readCode start 8))
    else if c == 'p' then return .atom (← readProperty start false)
    else if c == 'P' then return .atom (← readProperty start true)
    else
      step
      let span : Span := ⟨start, ← here⟩
      if let some (kind, negated) := shortOfLetter? c then
        return .atom (.short span kind negated)
      else if isEscapable c then return .atom (.literal { span := span, char := c })
      else if let some control := controlOfLetter? c then
        return .atom (.literal { span := span, char := control })
      else match c with
        | 'A' => return .anchor span .textStart
        | 'z' => return .anchor span .textEnd
        | 'B' => return .anchor span .noBoundary
        | '<' => return .anchor span .wordStart
        | '>' => return .anchor span .wordEnd
        | 'b' =>
          let mark ← readBoundary start
          return .anchor ⟨start, ← here⟩ mark
        | _ => refuse .escapeUnknown span

/-- A part that is not made of other parts; a character comes next. -/
def readPrimitive (c : Char) : Reading Primitive := do
  let position ← here
  match c with
  | '\\' => readEscape
  | '.' => do step; return .dot (.char position)
  | '^' => do step; return .anchor (.char position) .caret
  | '$' => do step; return .anchor (.char position) .dollar
  | c => do step; return .atom (.literal { span := .char position, char := c })

/-! ## Classes in brackets -/

/-- A class named between colons, if there is one. -/
def readBasicClass? : Reading (Option ClassTree) := do
  let before ← get
  match before.rest with
  | '[' :: ':' :: rest =>
    let (negated, rest) := match rest with
      | '^' :: rest => (true, rest)
      | _ => (false, rest)
    let name := rest.takeWhile (· != ':')
    match BasicClass.named? (String.ofList name), rest.drop name.length with
    | some kind, ':' :: ']' :: after =>
      let position := before.position + (before.rest.length - after.length)
      set { before with rest := after, position := position }
      return some (.basic ⟨before.position, position⟩ kind negated)
    | _, _ => return none
  | _ => return none

def readClassPrimitive (c : Char) : Reading Primitive := do
  if c == '\\' then readEscape
  else
    let position ← here
    step
    return .atom (.literal { span := .char position, char := c })

def Primitive.classItem : Primitive → Reading ClassTree
  | .atom a => return .atom a
  | p => refuse .anchorInClass p.span

def Primitive.classLiteral : Primitive → Reading Literal
  | .atom (.literal l) => return l
  | p => refuse .rangeWithoutLiteral p.span

/-- An item of a class that was opened at the given span: a range or a part of one character. -/
def readClassItem (opened : Span) (c : Char) : Reading ClassTree := do
  let first ← readClassPrimitive c
  skipSpace
  let second := (← get).second?
  match ← next? with
  | none => refuse .classUnclosed opened
  | some '-' =>
    if second == some ']' || second == some '-' then first.classItem
    else match ← advance with
      | none => refuse .classUnclosed opened
      | some c =>
        let last ← readClassPrimitive c
        let low ← first.classLiteral
        let high ← last.classLiteral
        if low.char ≤ high.char then return .range low high
        else refuse .rangeReversed ⟨low.span.start, high.span.stop⟩
  | some _ => first.classItem

def readHyphens (start : Nat) : Nat → Reading (List ClassTree)
  | 0 => pure []
  | fuel + 1 => do
    let position ← here
    match ← next? with
    | some '-' =>
      match ← advance with
      | none => refuse .classUnclosed (.point start)
      | some _ =>
        return .atom (.literal { span := .char position, char := '-' }) ::
          (← readHyphens start fuel)
    | _ => pure []

/-- The start of a class: whether it is negated, and the items that stand for themselves there. -/
def readClassStart (start : Nat) : Reading (Bool × Nat × List ClassTree) := do
  let found ← advance
  let negated := found == some '^'
  let found ← if negated then advance else pure found
  if found.isNone then refuse .classUnclosed ⟨start, ← here⟩
  let first ← here
  let hyphens ← readHyphens start (← get).rest.length
  match hyphens, ← next? with
  | [], some ']' =>
    match ← advance with
    | none => refuse .classUnclosed ⟨start, ← here⟩
    | some _ => return (negated, first, [.atom (.literal { span := .char first, char := ']' })])
  | hyphens, _ => return (negated, first, hyphens)

/-- What has been read of a class: the pending operation with its left operand, and the items since,
the last one first. -/
structure ClassState where
  pending : Option (Operation × ClassTree) := none
  start : Nat
  items : List ClassTree := []

def ClassState.push (s : ClassState) (item : ClassTree) : ClassState :=
  { s with items := item :: s.items }

def ClassState.finish (s : ClassState) : ClassTree :=
  let right := ClassTree.joined s.start s.items.reverse
  match s.pending with
  | none => right
  | some (op, left) => .operation ⟨left.span.start, right.span.stop⟩ op left right

def operationOf? (a b : Char) : Option Operation :=
  if a == '&' && b == '&' then some .intersection
  else if a == '-' && b == '-' then some .difference
  else if a == '~' && b == '~' then some .symmetricDifference
  else none

mutual

/-- A class, of which the opening bracket comes next. -/
def readBracket : Nat → Reading ClassTree
  | 0 => do refuse .classUnclosed (.point (← here))
  | fuel + 1 => do
    let start ← here
    let (negated, first, items) ← readClassStart start
    let opened : Span := ⟨start, ← here⟩
    let content ← readClassItems fuel opened { start := first, items := items.reverse }
    return .bracket ⟨start, ← here⟩ negated content

def readClassItems : Nat → Span → ClassState → Reading ClassTree
  | 0, opened, _ => refuse .classUnclosed opened
  | fuel + 1, opened, state => do
    skipSpace
    match (← get).rest with
    | [] => refuse .classUnclosed opened
    | ']' :: _ => do
      step
      return state.finish
    | '[' :: _ =>
      match ← readBasicClass? with
      | some item => readClassItems fuel opened (state.push item)
      | none => do
        let item ← readBracket fuel
        readClassItems fuel opened (state.push item)
    | c :: rest =>
      match rest.head?.bind (operationOf? c) with
      | some op => do
        step
        step
        readClassItems fuel opened { pending := some (op, state.finish), start := ← here }
      | none => do
        let item ← readClassItem opened c
        readClassItems fuel opened (state.push item)

end

/-! ## Flags and groups -/

def Flag.ofLetter? : Char → Option Flag
  | 'i' => some .ignoreCase
  | 'm' => some .multiLine
  | 's' => some .dotMatchesNewline
  | 'U' => some .swapGreed
  | 'u' => some .unicode
  | 'R' => some .carriageReturn
  | 'x' => some .spaced
  | _ => none

/-- What has been read of the switches of a group. -/
structure FlagState where
  setting : FlagSetting := []
  places : List (Char × Span) := []

def FlagState.isNegated (s : FlagState) : Bool := (s.places.lookup '-').isSome

/-- Switches up to a colon or a closing parenthesis, each given once. -/
def readFlags : Nat → FlagState → Reading FlagSetting
  | 0, _ => do refuse .flagsUnfinished (.point (← here))
  | fuel + 1, state => do
    let position ← here
    match ← next? with
    | none => refuse .flagsUnfinished (.point position)
    | some c =>
      if c == ':' || c == ')' then
        match state.places with
        | ('-', span) :: _ => refuse .negationDangling span
        | _ => return state.setting.reverse
      else
        let setting ←
          if c == '-' then pure state.setting
          else match Flag.ofLetter? c with
            | some flag => pure ((flag, !state.isNegated) :: state.setting)
            | none => refuse .flagUnknown (.char position)
        match state.places.lookup c with
        | some earlier =>
          refuse (if c == '-' then .negationRepeated else .flagRepeated) (.char position)
            (some earlier)
        | none => do
          step
          readFlags fuel { setting := setting, places := (c, .char position) :: state.places }

/-- Whether a character may stand in the name of a group. -/
def isNameChar (isFirst : Bool) (c : Char) : Bool :=
  c == '_' || Text.letters.contains c ||
    (!isFirst && (c == '.' || c == '[' || c == ']' || Text.numerals.contains c))

def readNameChars : Nat → Bool → Reading (List Char)
  | 0, _ => do refuse .nameUnclosed (.point (← here))
  | fuel + 1, isFirst => do
    let position ← here
    match ← next? with
    | none => refuse .nameUnclosed (.point position)
    | some '>' => pure []
    | some c =>
      if isNameChar isFirst c then do
        step
        return c :: (← readNameChars fuel false)
      else refuse .nameInvalid (.char position)

/-- The name of a group, which no other group may have. -/
def readName : Reading Unit := do
  let start ← here
  let name ← readNameChars ((← get).rest.length + 1) true
  let span : Span := ⟨start, ← here⟩
  step
  if name.isEmpty then refuse .nameEmpty (.point start)
  match (← get).names.lookup name with
  | some earlier => refuse .nameRepeated span (some earlier)
  | none => modify fun s => { s with names := (name, span) :: s.names }

/-- What follows an opening parenthesis. -/
inductive Opening where
  | group (captures : Bool) (setting : FlagSetting)
  | directive (setting : FlagSetting)

def readOpening : Reading Opening := do
  let start ← here
  let _ ← advance
  for word in ["?=", "?!", "?<=", "?<!"] do
    if ← accept word then refuse .lookAround ⟨start, ← here⟩
  let inner ← here
  let isNamed ← accept "?P<"
  let isNamed ← if isNamed then pure true else accept "?<"
  if isNamed then
    readName
    return .group true []
  else if ← accept "?" then
    if (← next?).isNone then refuse .groupUnclosed (.char start)
    let setting ← readFlags ((← get).rest.length + 1) {}
    let hasItems := (← here) != inner + 1
    let last ← next?
    step
    if last == some ')' then
      if hasItems then return .directive setting
      else refuse .nothingToRepeat (.point inner)
    else return .group false setting
  else return .group true []

/-! ## Repetitions -/

def readCount : Reading (Except Fault Nat) := do
  modify (·.dropWhile Text.blanks.contains)
  let start ← here
  let digits ← collectWhile Char.isDigit
  let span : Span := ⟨start, ← here⟩
  modify (·.dropWhile Text.blanks.contains)
  let n := digits.foldl (fun n c => 10 * n + (c.toNat - '0'.toNat)) 0
  return if digits.isEmpty then .error ⟨.countMissing, span, none⟩
    else if n < UInt32.size then .ok n
    else .error ⟨.countTooLarge, span, none⟩

def readBounds : Reading (Nat × Option Nat) := do
  let start ← here
  let unclosed {α : Type} : Reading α := do refuse .countUnclosed ⟨start, ← here⟩
  if (← advance).isNone then unclosed
  let least ← readCount
  let bounds ←
    match ← next? with
    | none => unclosed
    | some ',' =>
      match ← advance with
      | none => unclosed
      | some '\x7d' => do pure (← liftExcept least, none)
      | some _ => do
        let least ← liftExcept least
        pure (least, some (← liftExcept (← readCount)))
    | some _ => do
      let least ← liftExcept least
      pure (least, some least)
  if (← next?) != some '\x7d' then unclosed
  -- A question mark makes the repetition lazy, which plays no part in whether it matches.
  if (← advance) == some '?' then step
  match bounds.2 with
  | some most =>
    if bounds.1 ≤ most then return bounds else refuse .countsReversed ⟨start, ← here⟩
  | none => return bounds
where
  liftExcept {α : Type} (found : Except Fault α) : Reading α :=
    match found with
    | .ok a => pure a
    | .error fault => throw fault

def boundsOfSign? : Char → Option (Nat × Option Nat)
  | '?' => some (0, some 1)
  | '*' => some (0, none)
  | '+' => some (1, none)
  | _ => none

/-- A sign of repetition with the question mark that makes it lazy. -/
def readSign (bounds : Nat × Option Nat) : Reading (Nat × Option Nat) := do
  step
  if (← next?) == some '?' then step
  return bounds

/-! ## Sequences and alternatives -/

/-- A part of a sequence with the place where it starts. -/
abbrev Part := Nat × Tree

/-- What has been read of a group: where it and its last branch start, the branches before and the
parts of the last one, the latest first. -/
structure BodyState where
  first : Nat
  start : Nat
  branches : List Tree := []
  parts : List Part := []

namespace BodyState

def branch (s : BodyState) (stop : Nat) : Tree :=
  .joined ⟨s.start, stop⟩ (s.parts.reverse.map (·.2))

def finish (s : BodyState) (stop : Nat) : Tree :=
  match s.branches with
  | [] => s.branch stop
  | branches => .alternation ⟨s.first, stop⟩ (branches.reverse ++ [s.branch stop])

def push (s : BodyState) (part : Part) : BodyState := { s with parts := part :: s.parts }

/-- The last part, if it can be repeated, and the state without it. -/
def repeatable? (s : BodyState) : Option (Part × BodyState) :=
  match s.parts with
  | [] => none
  | (_, .flags _) :: _ => none
  | part :: rest => some (part, { s with parts := rest })

end BodyState

/-- Repeat the last part as often as its sign or its count says. -/
def readRepetition (state : BodyState) (bounds : Reading (Nat × Option Nat)) :
    Reading BodyState := do
  match state.repeatable? with
  | none => refuse .nothingToRepeat (.point (← here))
  | some ((start, body), state) =>
    let (least, most) ← bounds
    return state.push (start, .repetition ⟨start, ← here⟩ body least most)

def readBody : Nat → BodyState → Reading Tree
  | 0, state => return state.finish (← here)
  | fuel + 1, state => do
    skipSpace
    let position ← here
    match ← next? with
    | none => return state.finish position
    | some ')' => return state.finish position
    | some '|' => do
      step
      readBody fuel
        { state with
          start := ← here
          branches := state.branch position :: state.branches
          parts := [] }
    | some '(' => do
      let spaced := (← get).spaced
      match ← readOpening with
      | .directive setting => do
        modify fun s => { s with spaced := (setting.value? .spaced).getD spaced }
        readBody fuel (state.push (position, .flags setting))
      | .group captures setting => do
        modify fun s => { s with spaced := (setting.value? .spaced).getD spaced }
        let inner ← here
        let body ← readBody fuel { first := inner, start := inner }
        if (← next?).isNone then refuse .groupUnclosed (.char position)
        modify fun s => { s with spaced := spaced }
        step
        readBody fuel
          (state.push (position, .group ⟨position, ← here⟩ captures setting body))
    | some '[' => do
      let content ← readBracket fuel
      readBody fuel (state.push (position, .bracket content))
    | some '\x7b' => do
      readBody fuel (← readRepetition state readBounds)
    | some c =>
      match boundsOfSign? c with
      | some bounds => do readBody fuel (← readRepetition state (readSign bounds))
      | none => do
        let part ← readPrimitive c
        readBody fuel (state.push (position, part.tree))

/-- The deepest nesting. -/
def nestLimit : Nat := 250

def readTree : Reading Tree := do
  let tree ← readBody (2 * (← get).rest.length + 2) { first := 0, start := 0 }
  if (← next?).isSome then refuse .groupUnopened (.char (← here))
  match tree.tooDeep? nestLimit with
  | some span => refuse (.nestedTooDeep nestLimit) span
  | none => return tree

def Tree.read (text : String) : Except Fault Tree :=
  (readTree.run { rest := text.toList }).map (·.1)

end Groupwise.Pattern
