import GotoTape.Pattern.Error
import GotoTape.Pattern.CharSet
import GotoTape.Text.Blank
/-!
# Reading a pattern

A pattern is read left to right, one item at a time, with a stack of the groups still open and,
inside brackets, a stack of the classes and set operators still open. The first fault met ends
the reading, and its stretch points at the characters that show it.

Every loop consumes at least one character per round, so the length of the pattern plus one
bounds the rounds; the loops take that bound as fuel, and it never runs out.
-/

namespace GotoTape
namespace Pattern

/-- A reading position in a pattern, with what has been learned on the way: whether blanks and
comments are skipped (the `x` flag), how many groups capture, and the names given so far. -/
structure Reader where
  pattern : Array Char
  pos : Nat
  ignoreSpace : Bool
  captures : Nat
  names : List (String × Span)

/-- Reading that may end with a fault. -/
abbrev ReadM := StateT Reader (Except Error)

/-- Ends the reading with a fault. -/
def fault {α : Type} (kind : ErrorKind) (span : Span) : ReadM α :=
  throw { kind := kind, span := span, aux := none }

/-- Ends the reading with a fault that also points at an earlier stretch. -/
def faultWith {α : Type} (kind : ErrorKind) (span aux : Span) : ReadM α :=
  throw { kind := kind, span := span, aux := some aux }

namespace Read

/-- The rounds any loop over the pattern may take. -/
def rounds : ReadM Nat := return (← get).pattern.size + 1

/-- The reading position. -/
def pos : ReadM Nat := return (← get).pos

/-- Moves the reading position. -/
def setPos (p : Nat) : ReadM Unit := modify fun r => { r with pos := p }

/-- Whether the whole pattern has been read. -/
def isEof : ReadM Bool := return (← get).pattern.size ≤ (← get).pos

/-- The character at the reading position; only asked for before the end. -/
def char : ReadM Char := return (← get).pattern.getD (← get).pos ' '

/-- The empty stretch at the reading position. -/
def span : ReadM Span := return ⟨← pos, ← pos⟩

/-- The stretch of the character at the reading position. -/
def spanChar : ReadM Span := return ⟨← pos, (← pos) + 1⟩

/-- The characters between two indices. -/
def slice (a b : Nat) : ReadM (List Char) := return ((← get).pattern.extract a b).toList

/-- Whether the characters of a pattern from index `i` on start with `cs`. -/
def matchesAt (pattern : Array Char) : Nat → List Char → Bool
  | _, [] => true
  | i, c :: rest => pattern[i]? == some c && matchesAt pattern (i + 1) rest

/-- Steps past one character; tells whether a character follows. -/
def bump : ReadM Bool := do
  let r ← get
  if r.pattern.size ≤ r.pos then return false
  set { r with pos := r.pos + 1 }
  return r.pos + 1 < r.pattern.size

/-- Steps past `s` if the pattern continues with it. -/
def bumpIf (s : String) : ReadM Bool := do
  let r ← get
  let cs := s.toList
  if matchesAt r.pattern r.pos cs then
    set { r with pos := r.pos + cs.length }
    return true
  return false

/-- The character after the one at the reading position. -/
def peek : ReadM (Option Char) := return (← get).pattern[(← pos) + 1]?

/-- Whether blanks and comments are skipped. -/
def ignoreSpace : ReadM Bool := return (← get).ignoreSpace

/-- Turns the skipping of blanks and comments on or off. -/
def setIgnoreSpace (b : Bool) : ReadM Unit := modify fun r => { r with ignoreSpace := b }

/-- Skips a comment: up to and past the next line feed. -/
def skipComment : Nat → ReadM Unit
  | 0 => pure ()
  | fuel + 1 => do
    if ← isEof then return
    let c ← char
    let _ ← bump
    if c == '\n' then return
    skipComment fuel

/-- With blanks and comments skipped, steps past them. -/
def bumpSpace : ReadM Unit := do
  if !(← ignoreSpace) then return
  go (← rounds)
where
  go : Nat → ReadM Unit
    | 0 => pure ()
    | fuel + 1 => do
      if ← isEof then return
      let c ← char
      if Text.isBlank c then
        let _ ← bump
        go fuel
      else if c == '#' then
        let _ ← bump
        skipComment (← rounds)
        go fuel
      else return

/-- Steps past one character and then past blanks and comments; tells whether anything
follows. -/
def bumpAndBumpSpace : ReadM Bool := do
  if !(← bump) then return false
  bumpSpace
  return !(← isEof)

/-- The character after the one at the reading position, past blanks and comments when they
are skipped. Inside a comment the first character that is neither blank nor a line feed
counts. -/
def peekSpace : ReadM (Option Char) := do
  if !(← ignoreSpace) then return ← peek
  if ← isEof then return none
  let pattern := (← get).pattern
  return go pattern false ((← pos) + 1) pattern.size
where
  go (pattern : Array Char) (inComment : Bool) (i : Nat) : Nat → Option Char
    | 0 => none
    | fuel + 1 =>
      match pattern[i]? with
      | none => none
      | some c =>
        if Text.isBlank c then go pattern inComment (i + 1) fuel
        else if !inComment && c == '#' then go pattern true (i + 1) fuel
        else if inComment && c == '\n' then go pattern false (i + 1) fuel
        else some c

end Read

open Read

/-- The characters with a meaning of their own, which a backslash makes plain. -/
def isMetaChar (c : Char) : Bool :=
  "\\.+*?()|[]{}^$#&-~".toList.contains c

/-- The characters a backslash may make plain: the meta characters and every ASCII character
but letters, digits, `<` and `>`. -/
def isEscapeable (c : Char) : Bool :=
  isMetaChar c || (c.toNat < 128 && !c.isAlphanum && c != '<' && c != '>')

/-- The value of a hexadecimal digit. -/
def hexValue (c : Char) : Nat :=
  if c.isDigit then c.toNat - '0'.toNat
  else if 'a' ≤ c && c ≤ 'f' then c.toNat - 'a'.toNat + 10
  else c.toNat - 'A'.toNat + 10

/-- Whether a character is an ASCII hexadecimal digit. -/
def isHexChar (c : Char) : Bool :=
  c.isDigit || ('a' ≤ c && c ≤ 'f') || ('A' ≤ c && c ≤ 'F')

/-- The character with code `n`, when `n` is a Unicode scalar value. -/
def scalar? (n : Nat) : Option Char :=
  if n < 0xD800 ∨ (0xDFFF < n ∧ n < 0x110000) then some (Char.ofNat n) else none

/-- One item as read, before it takes its place in the pattern or in a class. -/
inductive Primitive where
  | literal (lit : Literal)
  | assertion (span : Span) (kind : Assertion)
  | dot (span : Span)
  | perl (span : Span) (cls : PerlClass) (negated : Bool)
  | unicode (span : Span) (query : Query) (negated : Bool)

/-- The stretch an item was read from. -/
def Primitive.span : Primitive → Span
  | .literal lit => lit.span
  | .assertion s _ => s
  | .dot s => s
  | .perl s _ _ => s
  | .unicode s _ _ => s

/-- The item as a node of the pattern. -/
def Primitive.toNode : Primitive → Node
  | .literal lit => .literal lit
  | .assertion s k => .assertion s k
  | .dot s => .dot s
  | .perl s c n => .perl s c n
  | .unicode s q n => .unicode s q n

/-- The item as a member of a class: assertions and the dot cannot be. -/
def Primitive.toClassItem : Primitive → ReadM ClassSet
  | .literal lit => pure (.literal lit)
  | .perl s c n => pure (.perl s c n)
  | .unicode s q n => pure (.unicode s q n)
  | p => fault .classEscapeInvalid p.span

/-- The item as an end of a range: only a literal can be. -/
def Primitive.toLiteral : Primitive → ReadM Literal
  | .literal lit => pure lit
  | p => fault .classRangeLiteral p.span

/-- Reads exactly `n` hexadecimal digits. -/
def readHexDigits (n : Nat) (isByte : Bool) : ReadM Literal := do
  let start ← pos
  let value ← go n 0 true
  let _ ← bumpAndBumpSpace
  let stop ← pos
  match scalar? value with
  | some c => return { span := ⟨start, stop⟩, c := c, byte := isByte && value ≤ 0xFF }
  | none => fault .escapeHexInvalid ⟨start, stop⟩
where
  go : Nat → Nat → Bool → ReadM Nat
    | 0, acc, _ => pure acc
    | k + 1, acc, first => do
      if !first then
        if !(← bumpAndBumpSpace) then fault .escapeUnexpectedEof (← span)
      let c ← char
      if !isHexChar c then fault .escapeHexInvalidDigit (← spanChar)
      go k (acc * 16 + hexValue c) false

/-- Reads hexadecimal digits between braces; the character they give names no byte, whatever
its value. -/
def readHexBrace : ReadM Literal := do
  let bracePos ← pos
  let start := bracePos + 1
  let digits ← go (← rounds) []
  if ← isEof then fault .escapeUnexpectedEof ⟨bracePos, ← pos⟩
  let stop ← pos
  let _ ← bumpAndBumpSpace
  if digits.isEmpty then fault .escapeHexEmpty ⟨bracePos, ← pos⟩
  let value := digits.foldl (fun acc c => acc * 16 + hexValue c) 0
  match (if value ≤ 0xFFFFFFFF then scalar? value else none) with
  | some c => return { span := ⟨start, ← pos⟩, c := c, byte := false }
  | none => fault .escapeHexInvalid ⟨start, stop⟩
where
  go : Nat → List Char → ReadM (List Char)
    | 0, acc => pure acc
    | fuel + 1, acc => do
      if !(← bumpAndBumpSpace) then return acc
      let c ← char
      if c == '}' then return acc
      if !isHexChar c then fault .escapeHexInvalidDigit (← spanChar)
      go fuel (acc ++ [c])

/-- Reads `\x`, `\u` or `\U` and what follows, from the letter on. -/
def readHex : ReadM Literal := do
  let kind ← char
  if !(← bumpAndBumpSpace) then fault .escapeUnexpectedEof (← span)
  if (← char) == '{' then readHexBrace
  else readHexDigits (if kind == 'x' then 2 else if kind == 'u' then 4 else 8) (kind == 'x')

/-- The position of the first occurrence of `sub` in `s`. -/
def findSub (s sub : List Char) : Option Nat :=
  go s 0 (s.length + 1)
where
  go (rest : List Char) (i : Nat) : Nat → Option Nat
    | 0 => none
    | fuel + 1 =>
      if sub.isPrefixOf rest then some i
      else match rest with
        | [] => none
        | _ :: more => go more (i + 1) fuel

/-- Reads `\p` or `\P` and the name that follows, from the letter on. -/
def readUnicodeClass : ReadM (Span × Query × Bool) := do
  let negated := (← char) == 'P'
  if !(← bumpAndBumpSpace) then fault .escapeUnexpectedEof (← span)
  if (← char) == '{' then
    let start := (← pos) + 1
    let name ← go (← rounds) []
    if ← isEof then fault .escapeUnexpectedEof (← span)
    let _ ← bump
    let query : Query :=
      match findSub name "!=".toList with
      | some i => .value (String.ofList (name.take i)) (String.ofList (name.drop (i + 2))) true
      | none =>
        match findSub name [':'] with
        | some i => .value (String.ofList (name.take i)) (String.ofList (name.drop (i + 1))) false
        | none =>
          match findSub name ['='] with
          | some i =>
            .value (String.ofList (name.take i)) (String.ofList (name.drop (i + 1))) false
          | none => .name (String.ofList name)
    return (⟨start, ← pos⟩, query, negated)
  else
    let start ← pos
    let c ← char
    if c == '\\' then fault .unicodeClassInvalid (← spanChar)
    let _ ← bumpAndBumpSpace
    return (⟨start, ← pos⟩, .letter c, negated)
where
  go : Nat → List Char → ReadM (List Char)
    | 0, acc => pure acc
    | fuel + 1, acc => do
      if !(← bumpAndBumpSpace) then return acc
      let c ← char
      if c == '}' then return acc
      go fuel (acc ++ [c])

/-- After `\b`, reads `{start}`, `{end}`, `{start-half}` or `{end-half}`; gives nothing and
steps back when the brace opens something else, a counted repetition. -/
def readSpecialWordBoundary (wbStart : Nat) : ReadM (Option Assertion) := do
  let start ← pos
  if !(← bumpAndBumpSpace) then fault .specialWordOrRepetitionUnexpectedEof ⟨wbStart, ← pos⟩
  let startContents ← pos
  if !isValid (← char) then
    setPos start
    return none
  let name ← go (← rounds) []
  if (← isEof) then fault .specialWordBoundaryUnclosed ⟨start, ← pos⟩
  if (← char) != '}' then fault .specialWordBoundaryUnclosed ⟨start, ← pos⟩
  let stop ← pos
  let _ ← bump
  match String.ofList name with
  | "start" => return some .wordStart
  | "end" => return some .wordEnd
  | "start-half" => return some .wordStartHalf
  | "end-half" => return some .wordEndHalf
  | _ => fault .specialWordBoundaryUnrecognized ⟨startContents, stop⟩
where
  isValid (c : Char) : Bool := c.isAlpha || c == '-'
  go : Nat → List Char → ReadM (List Char)
    | 0, acc => pure acc
    | fuel + 1, acc => do
      if ← isEof then return acc
      let c ← char
      if !isValid c then return acc
      let _ ← bumpAndBumpSpace
      go fuel (acc ++ [c])

/-- Reads an escape, from the backslash on. -/
def readEscape : ReadM Primitive := do
  let start ← pos
  if !(← bump) then fault .escapeUnexpectedEof ⟨start, ← pos⟩
  let c ← char
  if c.isDigit then fault .unsupportedBackreference ⟨start, (← pos) + 1⟩
  if c == 'x' || c == 'u' || c == 'U' then
    let lit ← readHex
    return .literal { lit with span := ⟨start, lit.span.stop⟩ }
  if c == 'p' || c == 'P' then
    let (s, q, n) ← readUnicodeClass
    return .unicode ⟨start, s.stop⟩ q n
  let perl : Option (PerlClass × Bool) :=
    match c with
    | 'd' => some (.digit, false)
    | 'D' => some (.digit, true)
    | 's' => some (.space, false)
    | 'S' => some (.space, true)
    | 'w' => some (.word, false)
    | 'W' => some (.word, true)
    | _ => none
  if let some (cls, negated) := perl then
    let _ ← bump
    return .perl ⟨start, ← pos⟩ cls negated
  let _ ← bump
  let sp : Span := ⟨start, ← pos⟩
  if isEscapeable c then return .literal { span := sp, c := c, byte := false }
  match c with
  | 'a' => return .literal { span := sp, c := '\x07', byte := false }
  | 'f' => return .literal { span := sp, c := '\x0c', byte := false }
  | 't' => return .literal { span := sp, c := '\t', byte := false }
  | 'n' => return .literal { span := sp, c := '\n', byte := false }
  | 'r' => return .literal { span := sp, c := '\r', byte := false }
  | 'v' => return .literal { span := sp, c := '\x0b', byte := false }
  | 'A' => return .assertion sp .startText
  | 'z' => return .assertion sp .endText
  | 'b' =>
    if !(← isEof) then
      if (← char) == '{' then
        if let some kind ← readSpecialWordBoundary start then
          return .assertion ⟨start, ← pos⟩ kind
    return .assertion sp .wordBoundary
  | 'B' => return .assertion sp .notWordBoundary
  | '<' => return .assertion sp .wordStart
  | '>' => return .assertion sp .wordEnd
  | _ => fault .escapeUnrecognized sp

/-- Reads one item outside a class: an escape, the dot, an anchor or a plain character. -/
def readPrimitive : ReadM Primitive := do
  let c ← char
  if c == '\\' then return ← readEscape
  let sp ← spanChar
  let _ ← bump
  match c with
  | '.' => return .dot sp
  | '^' => return .assertion sp .startLine
  | '$' => return .assertion sp .endLine
  | _ => return .literal { span := sp, c := c, byte := false }

/-- Reads a decimal number, blanks around it skipped; the fault is given back, not raised, so
that the caller can choose which to report. -/
def readDecimal : ReadM (Except Error Nat) := do
  skipBlanks (← rounds)
  let start ← pos
  let digits ← go (← rounds) []
  let sp : Span := ⟨start, ← pos⟩
  skipBlanksAfter (← rounds)
  if digits.isEmpty then return .error { kind := .decimalEmpty, span := sp, aux := none }
  let n := digits.foldl (fun acc c => acc * 10 + (c.toNat - '0'.toNat)) 0
  if n ≤ 0xFFFFFFFF then return .ok n
  return .error { kind := .decimalInvalid, span := sp, aux := none }
where
  skipBlanks : Nat → ReadM Unit
    | 0 => pure ()
    | fuel + 1 => do
      if ← isEof then return
      if Text.isBlank (← char) then
        let _ ← bump
        skipBlanks fuel
  skipBlanksAfter : Nat → ReadM Unit
    | 0 => pure ()
    | fuel + 1 => do
      if ← isEof then return
      if Text.isBlank (← char) then
        let _ ← bumpAndBumpSpace
        skipBlanksAfter fuel
  go : Nat → List Char → ReadM (List Char)
    | 0, acc => pure acc
    | fuel + 1, acc => do
      if ← isEof then return acc
      let c ← char
      if !c.isDigit then return acc
      let _ ← bumpAndBumpSpace
      go fuel (acc ++ [c])

/-- A decimal read for a repetition count: an empty one is reported as such. -/
def countOf (r : Except Error Nat) : ReadM Nat :=
  match r with
  | .ok n => pure n
  | .error e =>
    throw (if e.kind == .decimalEmpty then { e with kind := .repetitionCountDecimalEmpty } else e)

/-- Whether a node can take a repetition operator: anything but nothing and a flag setting. -/
def repeatable : Node → Bool
  | .empty _ => false
  | .flags _ _ => false
  | _ => true

/-- After `?`, `*` or `+`, reads an optional `?` that makes the repetition lazy; gives whether
the repetition is greedy. -/
def readGreed (afterOperator : Bool) : ReadM Bool := do
  if !afterOperator then return true
  if (← char) == '?' then
    let _ ← bump
    return false
  return true

/-- Applies `?`, `*` or `+` to the last node read. -/
def readUncountedRepetition (concat : Array Node) (min : Nat) (max : Option Nat) :
    ReadM (Array Node) := do
  match concat.back? with
  | some node =>
    if !repeatable node then fault .repetitionMissing (← span)
    let greedy ← readGreed (← bump)
    return concat.pop.push (.repetition ⟨node.span.start, ← pos⟩ min max greedy node)
  | none => fault .repetitionMissing (← span)

/-- Applies `{n}`, `{n,}` or `{n,m}` to the last node read. -/
def readCountedRepetition (concat : Array Node) : ReadM (Array Node) := do
  let start ← pos
  let node ← match concat.back? with
    | some node => if repeatable node then pure node else fault .repetitionMissing (← span)
    | none => fault .repetitionMissing (← span)
  if !(← bumpAndBumpSpace) then fault .repetitionCountUnclosed ⟨start, ← pos⟩
  let first ← readDecimal
  if ← isEof then fault .repetitionCountUnclosed ⟨start, ← pos⟩
  let (lo, hi) ← if (← char) == ',' then do
      if !(← bumpAndBumpSpace) then fault .repetitionCountUnclosed ⟨start, ← pos⟩
      if (← char) != '}' then
        let lo ← countOf first
        let hi ← countOf (← readDecimal)
        pure (lo, some hi)
      else
        let lo ← countOf first
        pure (lo, none)
    else
      let lo ← countOf first
      pure (lo, some lo)
  if ← isEof then fault .repetitionCountUnclosed ⟨start, ← pos⟩
  if (← char) != '}' then fault .repetitionCountUnclosed ⟨start, ← pos⟩
  let more ← bumpAndBumpSpace
  let greedy ← readGreed more
  let opSpan : Span := ⟨start, ← pos⟩
  if let some h := hi then
    if h < lo then fault .repetitionCountInvalid opSpan
  return concat.pop.push (.repetition ⟨node.span.start, ← pos⟩ lo hi greedy node)

/-- Whether a character may start a group name (`first`) or continue one. -/
def isNameChar (c : Char) (first : Bool) : Bool :=
  if first then c == '_' || alphabetic.mem c
  else c == '_' || c == '.' || c == '[' || c == ']' || alphabetic.mem c || numeric.mem c

/-- Reads a group name up to and past its `>`, and records it. -/
def readCaptureName : ReadM String := do
  if ← isEof then fault .groupNameUnexpectedEof (← span)
  let start ← pos
  go start (← rounds)
  let stop ← pos
  if ← isEof then fault .groupNameUnexpectedEof (← span)
  let _ ← bump
  let name := String.ofList (← slice start stop)
  if name.isEmpty then fault .groupNameEmpty ⟨start, start⟩
  let sp : Span := ⟨start, stop⟩
  match (← get).names.find? (fun e => e.1 == name) with
  | some (_, original) => faultWith .groupNameDuplicate sp original
  | none => modify fun r => { r with names := (name, sp) :: r.names }
  return name
where
  go (start : Nat) : Nat → ReadM Unit
    | 0 => pure ()
    | fuel + 1 => do
      let c ← char
      if c == '>' then return
      if !isNameChar c ((← pos) == start) then fault .groupNameInvalid (← spanChar)
      if !(← bump) then return
      go start fuel

/-- Reads the flags of `(?flags)` or `(?flags:`, up to the `)` or `:`. -/
def readFlags : ReadM (List FlagItem) := do
  let (items, lastNegation) ← go (← rounds) [] none
  if let some sp := lastNegation then fault .flagDanglingNegation sp
  return items.map Prod.fst
where
  go : Nat → List (FlagItem × Span) → Option Span → ReadM (List (FlagItem × Span) × Option Span)
    | 0, items, neg => pure (items, neg)
    | fuel + 1, items, neg => do
      let c ← char
      if c == ':' || c == ')' then return (items, neg)
      let sc ← spanChar
      let (item, neg) ← if c == '-' then pure (FlagItem.negation, some sc) else
        match Flag.ofChar? c with
        | some f => pure (FlagItem.flag f, none)
        | none => fault .flagUnrecognized sc
      match items.find? (fun e => e.1 == item) with
      | some (_, original) =>
        if item == .negation then faultWith .flagRepeatedNegation sc original
        else faultWith .flagDuplicate sc original
      | none => pure ()
      if !(← bump) then fault .flagUnexpectedEof (← span)
      go fuel (items ++ [(item, sc)]) neg

/-- Reads the opening of a group, from its `(`: either a flag setting that stands alone, with
its stretch, or a group to be filled, with the stretch of its `(`. -/
def readGroup : ReadM ((Span × List FlagItem) ⊕ (Span × GroupKind)) := do
  let openSpan ← spanChar
  let _ ← bump
  bumpSpace
  let mut look := false
  for p in ["?=", "?!", "?<=", "?<!"] do
    if !look then
      if ← bumpIf p then look := true
  if look then fault .unsupportedLookAround ⟨openSpan.start, ← pos⟩
  let innerSpan ← span
  let named ← do
    if ← bumpIf "?P<" then pure true
    else bumpIf "?<"
  if named then
    let index := (← get).captures + 1
    modify fun r => { r with captures := index }
    let name ← readCaptureName
    return .inr (openSpan, .capture index (some name))
  if ← bumpIf "?" then
    if ← isEof then fault .groupUnclosed openSpan
    let items ← readFlags
    let charEnd ← char
    let _ ← bump
    if charEnd == ')' then
      if items.isEmpty then fault .repetitionMissing innerSpan
      return .inl (⟨openSpan.start, ← pos⟩, items)
    return .inr (openSpan, .plain items)
  let index := (← get).captures + 1
  modify fun r => { r with captures := index }
  return .inr (openSpan, .capture index none)

/-- Items read in a row, and where the row began. -/
structure Row where
  start : Nat
  items : Array Node := #[]

/-- What is still open outside the items being read: a group, with the row before it and the
stretch of its `(`, or the branches of an alternation read so far and where it began. -/
inductive Frame where
  | group (prior : Row) (kind : GroupKind) (span : Span) (ignoreSpace : Bool)
  | alternation (start : Nat) (branches : Array Node)

/-- A row ended at `stop`, as one node: nothing, its only item, or a concatenation. -/
def Row.node (row : Row) (stop : Nat) : Node :=
  match row.items.toList with
  | [] => .empty ⟨row.start, stop⟩
  | [n] => n
  | ns => .concat ⟨row.start, stop⟩ ns

/-- Opens a group, or applies a flag setting in place. -/
def pushGroup (stack : List Frame) (row : Row) : ReadM (List Frame × Row) := do
  match ← readGroup with
  | .inl (sp, items) =>
    if let some v := flagState items .ignoreSpace then setIgnoreSpace v
    return (stack, { row with items := row.items.push (.flags sp items) })
  | .inr (sp, kind) =>
    let old ← ignoreSpace
    let inside := match kind with
      | .plain items => (flagState items .ignoreSpace).getD old
      | .capture _ _ => old
    setIgnoreSpace inside
    return (.group row kind sp old :: stack, { start := ← pos })

/-- Closes the innermost group at its `)`. -/
def popGroup (stack : List Frame) (row : Row) : ReadM (List Frame × Row) := do
  let sc ← spanChar
  let (prior, kind, openSpan, old, branches, rest) ← match stack with
    | .group prior kind sp old :: rest => pure (prior, kind, sp, old, none, rest)
    | .alternation start bs :: .group prior kind sp old :: rest =>
      pure (prior, kind, sp, old, some (start, bs), rest)
    | _ => fault .groupUnopened sc
  setIgnoreSpace old
  let stop ← pos
  let _ ← bump
  let body := match branches with
    | none => row.node stop
    | some (start, bs) => .alternation ⟨start, stop⟩ (bs.push (row.node stop)).toList
  return (rest, { prior with items := prior.items.push (.group ⟨openSpan.start, ← pos⟩ kind body) })

/-- Ends a branch at `|`. -/
def pushAlternate (stack : List Frame) (row : Row) : ReadM (List Frame × Row) := do
  let branch := row.node (← pos)
  let stack := match stack with
    | .alternation start bs :: rest => .alternation start (bs.push branch) :: rest
    | _ => .alternation row.start #[branch] :: stack
  let _ ← bump
  return (stack, { start := ← pos })

/-- Ends the pattern: no group may be left open. -/
def popGroupEnd (stack : List Frame) (row : Row) : ReadM Node := do
  let stop ← pos
  match stack with
  | [] => pure (row.node stop)
  | [.alternation start bs] => pure (.alternation ⟨start, stop⟩ (bs.push (row.node stop)).toList)
  | .alternation _ _ :: .group _ _ sp _ :: _ => fault .groupUnclosed sp
  | .group _ _ sp _ :: _ => fault .groupUnclosed sp
  | .alternation _ _ :: .alternation _ _ :: _ => pure (row.node stop)

/-- What is still open inside brackets: a class, with the items before it and the stretch of its
opening, or a set operator with its left side. -/
inductive ClassFrame where
  | bracket (prior : Array ClassSet) (start headStop : Nat) (negated : Bool)
  | op (kind : SetOp) (lhs : ClassSet)

/-- The members of a class in a row, as one class; `start` is where the row began, the place of
an empty one. -/
def unionItem (start : Nat) (items : Array ClassSet) : ClassSet :=
  match items.toList with
  | [i] => i
  | is =>
    .union ⟨(is.head?.map (·.span.start)).getD start, (is.getLast?.map (·.span.stop)).getD start⟩
      is

/-- The fault of a class left open: it points at the opening of the innermost one. -/
def unclosedClass {α : Type} (frames : List ClassFrame) : ReadM α :=
  match frames.find? (fun f => match f with | .bracket .. => true | .op .. => false) with
  | some (.bracket _ start stop _) => fault .classUnclosed ⟨start, stop⟩
  | _ => fault .classUnclosed ⟨0, 0⟩

/-- Reads the opening of a class: `[`, an optional `^`, then any `-` and a first `]`, which
stand for themselves. Gives the stretch of the opening, whether it is negated, where its
members begin and the members read. -/
def readClassOpen : ReadM ((Nat × Nat × Bool) × Nat × Array ClassSet) := do
  let start ← pos
  if !(← bumpAndBumpSpace) then fault .classUnclosed ⟨start, ← pos⟩
  let negated ← if (← char) != '^' then pure false else do
    if !(← bumpAndBumpSpace) then fault .classUnclosed ⟨start, ← pos⟩
    pure true
  let membersStart ← pos
  let items ← dashes start (← rounds) #[]
  let items ← if items.isEmpty && (← char) == ']' then do
      let sc ← spanChar
      if !(← bumpAndBumpSpace) then fault .classUnclosed ⟨start, ← pos⟩
      pure #[ClassSet.literal { span := sc, c := ']', byte := false }]
    else pure items
  return ((start, ← pos, negated), membersStart, items)
where
  dashes (start : Nat) : Nat → Array ClassSet → ReadM (Array ClassSet)
    | 0, items => pure items
    | fuel + 1, items => do
      if (← char) != '-' then return items
      let sc ← spanChar
      let items := items.push (.literal { span := sc, c := '-', byte := false })
      if !(← bumpAndBumpSpace) then fault .classUnclosed ⟨start, start⟩
      dashes start fuel items

/-- Tries to read `[:name:]` or `[:^name:]`; steps back and gives nothing when it is not one. -/
def readAsciiClass : ReadM (Option ClassSet) := do
  let start ← pos
  let back : ReadM (Option ClassSet) := do
    setPos start
    return none
  if !(← bump) then return ← back
  if (← char) != ':' then return ← back
  if !(← bump) then return ← back
  let negated ← if (← char) == '^' then do
      if !(← bump) then return ← back
      pure true
    else pure false
  let nameStart ← pos
  toColon (← rounds)
  if ← isEof then return ← back
  let name := String.ofList (← slice nameStart (← pos))
  if !(← bumpIf ":]") then return ← back
  match AsciiClass.ofName? name with
  | some cls => return some (.ascii ⟨start, ← pos⟩ cls negated)
  | none => back
where
  toColon : Nat → ReadM Unit
    | 0 => pure ()
    | fuel + 1 => do
      if (← char) == ':' then return
      if !(← bump) then return
      toColon fuel

/-- Reads one member of a class: an escape or a plain character. -/
def readClassItem : ReadM Primitive := do
  if (← char) == '\\' then return ← readEscape
  let sp ← spanChar
  let c ← char
  let _ ← bump
  return .literal { span := sp, c := c, byte := false }

/-- Reads a member of a class, or a range `a-z` of two of them. -/
def readClassRange (frames : List ClassFrame) : ReadM ClassSet := do
  let first ← readClassItem
  bumpSpace
  if ← isEof then unclosedClass frames
  let next ← peekSpace
  if (← char) != '-' || next == some ']' || next == some '-' then return ← first.toClassItem
  if !(← bumpAndBumpSpace) then unclosedClass frames
  let second ← readClassItem
  let sp : Span := ⟨first.span.start, second.span.stop⟩
  let lo ← first.toLiteral
  let hi ← second.toLiteral
  if hi.c < lo.c then fault .classRangeInvalid sp
  return .range sp lo hi

/-- Ends the operand before a set operator or a `]`: joins it to a pending operator. -/
def popClassOp (frames : List ClassFrame) (rhs : ClassSet) : ClassSet × List ClassFrame :=
  match frames with
  | .op kind lhs :: rest => (.op ⟨lhs.span.start, rhs.span.stop⟩ kind lhs rhs, rest)
  | _ => (rhs, frames)

/-- Reads a bracketed class from its `[`: its stretch, whether it is negated, and its inside. -/
def readClass : ReadM (Span × Bool × ClassSet) := do
  go (← rounds) [] (← pos) #[]
where
  go : Nat → List ClassFrame → Nat → Array ClassSet → ReadM (Span × Bool × ClassSet)
    | 0, frames, _, _ => unclosedClass frames
    | fuel + 1, frames, begin, items => do
      bumpSpace
      if ← isEof then unclosedClass frames
      let c ← char
      let next ← peek
      if c == '[' then
        if !frames.isEmpty then
          if let some cls ← readAsciiClass then
            return ← go fuel frames begin (items.push cls)
        let ((start, stop, negated), inner, members) ← readClassOpen
        go fuel (.bracket items start stop negated :: frames) inner members
      else if c == ']' then
        let (set, frames) := popClassOp frames (unionItem begin items)
        match frames with
        | .bracket prior start _ negated :: rest =>
          let _ ← bump
          let sp : Span := ⟨start, ← pos⟩
          if rest.isEmpty then return (sp, negated, set)
          go fuel rest start (prior.push (.bracketed sp negated set))
        | _ => unclosedClass frames
      else
        let op : Option SetOp :=
          if c == '&' && next == some '&' then some .intersection
          else if c == '-' && next == some '-' then some .difference
          else if c == '~' && next == some '~' then some .symmetricDifference
          else none
        match op with
        | some kind =>
          let _ ← bump
          let _ ← bump
          let (lhs, frames) := popClassOp frames (unionItem begin items)
          go fuel (.op kind lhs :: frames) (← pos) #[]
        | none => go fuel frames begin (items.push (← readClassRange frames))

/-- Reads the items of the pattern, keeping track of open groups. -/
def readItems : Nat → List Frame → Row → ReadM (List Frame × Row)
  | 0, stack, row => pure (stack, row)
  | fuel + 1, stack, row => do
    bumpSpace
    if ← isEof then return (stack, row)
    match ← char with
    | '(' =>
      let (stack, row) ← pushGroup stack row
      readItems fuel stack row
    | ')' =>
      let (stack, row) ← popGroup stack row
      readItems fuel stack row
    | '|' =>
      let (stack, row) ← pushAlternate stack row
      readItems fuel stack row
    | '[' =>
      let (sp, negated, inner) ← readClass
      readItems fuel stack { row with items := row.items.push (.bracketed sp negated inner) }
    | '?' =>
      readItems fuel stack { row with items := ← readUncountedRepetition row.items 0 (some 1) }
    | '*' => readItems fuel stack { row with items := ← readUncountedRepetition row.items 0 none }
    | '+' => readItems fuel stack { row with items := ← readUncountedRepetition row.items 1 none }
    | '{' => readItems fuel stack { row with items := ← readCountedRepetition row.items }
    | _ => readItems fuel stack { row with items := row.items.push (← readPrimitive).toNode }

/-- How many levels groups, classes and repetitions may nest. -/
def nestLimit : Nat := 250

mutual
/-- The stretch of the first piece of a class, in reading order, that lies more than
`nestLimit` levels deep, when `depth` levels lie around it. A nested class, a row of two or
more members and a set operator each add a level. -/
def ClassSet.tooDeep (depth : Nat) : ClassSet → Option Span
  | .bracketed s _ inner => if nestLimit ≤ depth then some s else inner.tooDeep (depth + 1)
  | .union _ [] => none
  | .union s items => if nestLimit ≤ depth then some s else ClassSet.anyTooDeep (depth + 1) items
  | .op s _ lhs rhs =>
    if nestLimit ≤ depth then some s
    else match lhs.tooDeep (depth + 1) with
      | some sp => some sp
      | none => rhs.tooDeep (depth + 1)
  | _ => none

/-- The first stretch that `ClassSet.tooDeep` finds in a row of class members. -/
def ClassSet.anyTooDeep (depth : Nat) : List ClassSet → Option Span
  | [] => none
  | s :: rest =>
    match s.tooDeep depth with
    | some sp => some sp
    | none => ClassSet.anyTooDeep depth rest
end

mutual
/-- The stretch of the first node, in reading order, that lies more than `nestLimit` levels
deep, when `depth` levels lie around it. A group, a repetition, a concatenation, an alternation
and a bracketed class each add a level, and so do the levels inside brackets. -/
def Node.tooDeep (depth : Nat) : Node → Option Span
  | .bracketed s _ set => if nestLimit ≤ depth then some s else set.tooDeep (depth + 1)
  | .repetition s _ _ _ sub => if nestLimit ≤ depth then some s else sub.tooDeep (depth + 1)
  | .group s _ sub => if nestLimit ≤ depth then some s else sub.tooDeep (depth + 1)
  | .concat s items => if nestLimit ≤ depth then some s else Node.anyTooDeep (depth + 1) items
  | .alternation s items =>
    if nestLimit ≤ depth then some s else Node.anyTooDeep (depth + 1) items
  | _ => none

/-- The first stretch that `Node.tooDeep` finds in a row of nodes. -/
def Node.anyTooDeep (depth : Nat) : List Node → Option Span
  | [] => none
  | n :: rest =>
    match n.tooDeep depth with
    | some sp => some sp
    | none => Node.anyTooDeep depth rest
end

/-- Reads a whole pattern; one that nests too deep is refused once it has been read. -/
def parse (pattern : String) : Except Error Node :=
  let reader : Reader :=
    { pattern := pattern.toList.toArray, pos := 0, ignoreSpace := false, captures := 0,
      names := [] }
  (do
    let (stack, row) ← readItems (← rounds) [] { start := 0 }
    let node ← popGroupEnd stack row
    if let some sp := node.tooDeep 0 then fault (.nestLimitExceeded nestLimit) sp
    return node).run' reader

end Pattern
end GotoTape
