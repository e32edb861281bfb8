import GotoTape.Text.Utf8
/-!
# Keys from a terminal

A terminal in raw mode sends every key as bytes: a character as its UTF-8 encoding, Ctrl with a
letter as a control byte, Alt as an escape byte before the key, and the other keys as escape
sequences (`ESC [ A` is the up arrow, `ESC [ 1 ; 5 A` the up arrow with Ctrl). The modifiers of
a sequence are a number less one, whose bits are Shift, Alt, Ctrl and then the rarer ones.

The decoder reads the bytes one at a time, holding an unfinished sequence until the bytes that
finish it arrive, also across separate arrivals. An escape byte that is the last of what arrived
at once is the Escape key. A sequence that cannot be read is dropped, and so are the reports a
terminal sends on its own (cursor positions, focus changes, mouse events, keyboard modes). A
bracketed paste arrives as one event carrying its text.
-/

namespace GotoTape
namespace Terminal

/-- The keys a terminal reports. -/
inductive KeyCode where
  | char (c : Char)
  | enter
  | tab
  | backTab
  | backspace
  | escape
  | left
  | right
  | up
  | down
  | home
  | «end»
  | pageUp
  | pageDown
  | insert
  | delete
  | function (n : Nat)
  /-- A key that no binding names: the keypad centre, the locks, media and modifier keys. -/
  | other
  deriving DecidableEq, Repr

/-- The modifiers held with a key. -/
structure Modifiers where
  shift : Bool := false
  alt : Bool := false
  control : Bool := false
  /-- Super, hyper or meta. -/
  extra : Bool := false
  deriving DecidableEq, Repr

/-- A key pressed with its modifiers. -/
structure KeyPress where
  code : KeyCode
  mods : Modifiers := {}
  deriving DecidableEq, Repr

/-- What a terminal sends an editor: a key, or the text of a bracketed paste. -/
inductive Event where
  | key (k : KeyPress)
  | paste (text : String)
  deriving DecidableEq, Repr

/-- Whether an event is Ctrl+C. -/
def Event.isInterrupt : Event → Bool
  | .key k => k.code == .char 'c' && k.mods == { control := true }
  | .paste _ => false

/-- What the bytes held so far make. -/
inductive Reading where
  /-- The start of a sequence that needs more bytes. -/
  | pending
  /-- Bytes that make no sequence; they are dropped. -/
  | invalid
  /-- A report or a key release, which is read and dropped. -/
  | report
  | event (e : Event)
  deriving DecidableEq, Repr

namespace Reading

/-- The reading of a key. -/
def key (code : KeyCode) (mods : Modifiers) : Reading := .event (.key { code := code, mods := mods })

/-- A reading with Alt added to its key. -/
def withAlt : Reading → Reading
  | .event (.key k) => .event (.key { k with mods := { k.mods with alt := true } })
  | r => r

end Reading

/-- The modifiers a sequence's number stands for: one more than a mask of Shift, Alt, Ctrl and
then super, hyper and meta. -/
def Modifiers.ofMask (m : Nat) : Modifiers :=
  let bits := m - 1
  { shift := bits % 2 == 1, alt := bits / 2 % 2 == 1, control := bits / 4 % 2 == 1,
    extra := bits / 8 % 8 != 0 }

/-- Reads an unsigned number of at most `bound`: decimal digits after an optional `+`. -/
def readNumber (bound : Nat) (s : List Char) : Option Nat :=
  let digits := match s with
    | '+' :: rest => rest
    | _ => s
  if digits.isEmpty || !digits.all Char.isDigit then none
  else
    let n := digits.foldl (fun acc d => acc * 10 + (d.toNat - 48)) 0
    if n ≤ bound then some n else none

/-- The modifier mask and the event kind of a parameter `mask:kind`; the kind is a press when it
is missing or unreadable. -/
def maskAndKind (field : Option (List Char)) : Option (Nat × Nat) := do
  let parts := (← field).splitOn ':'
  let mask ← readNumber 255 (parts.headD [])
  return (mask, ((parts.drop 1).head?.bind (readNumber 255)).getD 1)

/-- The text between the opening bytes of a sequence and its final byte, when it is UTF-8. -/
def paramText (inner : List UInt8) : Option (List Char) :=
  (Text.decodeUtf8? inner.toArray).map String.toList

/-- Whether a mouse button byte is one the terminal can send. -/
def mouseButtonValid (cb : Nat) : Bool :=
  let button := cb % 4 + (cb / 64 % 4) * 4
  let drag := cb / 32 % 2 == 1
  button ≤ 5 || (button ≤ 7 && !drag)

/-- A key from its code and the modifiers and kind of a parameter; a release is dropped. -/
def keyWithKind (code : KeyCode) (field : Option (List Char)) : Reading :=
  match maskAndKind field with
  | some (mask, kind) => if kind == 3 then .report else .key code (Modifiers.ofMask mask)
  | none => .key code {}

/-- A key with modifiers, `ESC [ 1 ; m X`: the arrows, Home, End and the first four function
keys. -/
def modifiedKey (buf : List UInt8) : Reading :=
  let final := buf.getLast?.getD 0
  match paramText (buf.drop 2).dropLast with
  | none => .invalid
  | some s =>
    let code : Option KeyCode := match final.toNat with
      | 0x41 => some .up
      | 0x42 => some .down
      | 0x43 => some .right
      | 0x44 => some .left
      | 0x46 => some .«end»
      | 0x48 => some .home
      | 0x50 => some (.function 1)
      | 0x51 => some (.function 2)
      | 0x52 => some (.function 3)
      | 0x53 => some (.function 4)
      | _ => none
    let kind : Option (Modifiers × Bool) :=
      match maskAndKind ((s.splitOn ';').drop 1).head? with
      | some (mask, k) => some (Modifiers.ofMask mask, k == 3)
      | none =>
        if buf.length > 3 then
          let d := (buf.getD (buf.length - 2) 0).toNat
          if 0x30 ≤ d && d ≤ 0x39 then some (Modifiers.ofMask (d - 0x30), false) else none
        else some ({}, false)
    match kind, code with
    | some (mods, false), some c => .key c mods
    | some (_, true), some _ => .report
    | _, _ => .invalid

/-- The key of a numbered sequence ending in `~`: Home, Insert, Delete, End, the page keys and
the function keys. -/
def tildeKey (buf : List UInt8) : Reading :=
  match paramText (buf.drop 2).dropLast with
  | none => .invalid
  | some s =>
    let fields := s.splitOn ';'
    match readNumber 255 (fields.headD []) with
    | none => .invalid
    | some n =>
      let code : Option KeyCode :=
        if n == 1 || n == 7 then some .home
        else if n == 2 then some .insert
        else if n == 3 then some .delete
        else if n == 4 || n == 8 then some .«end»
        else if n == 5 then some .pageUp
        else if n == 6 then some .pageDown
        else if 11 ≤ n && n ≤ 15 then some (.function (n - 10))
        else if 17 ≤ n && n ≤ 21 then some (.function (n - 11))
        else if 23 ≤ n && n ≤ 26 then some (.function (n - 12))
        else if 28 ≤ n && n ≤ 29 then some (.function (n - 15))
        else if 31 ≤ n && n ≤ 34 then some (.function (n - 17))
        else none
      match code with
      | some c => keyWithKind c (fields.drop 1).head?
      | none => .invalid

/-- The key of a private-use code of the extended keyboard protocol: keypad digits and signs,
keypad moves, and the keys no binding names. -/
def functionalKey (n : Nat) : Option KeyCode :=
  if 57399 ≤ n && n ≤ 57408 then some (.char (Char.ofNat (n - 57399 + 0x30)))
  else if n == 57409 then some (.char '.')
  else if n == 57410 then some (.char '/')
  else if n == 57411 then some (.char '*')
  else if n == 57412 then some (.char '-')
  else if n == 57413 then some (.char '+')
  else if n == 57414 then some .enter
  else if n == 57415 then some (.char '=')
  else if n == 57416 then some (.char ',')
  else if n == 57417 then some .left
  else if n == 57418 then some .right
  else if n == 57419 then some .up
  else if n == 57420 then some .down
  else if n == 57421 then some .pageUp
  else if n == 57422 then some .pageDown
  else if n == 57423 then some .home
  else if n == 57424 then some .«end»
  else if n == 57425 then some .insert
  else if n == 57426 then some .delete
  else if 57376 ≤ n && n ≤ 57398 then some (.function (n - 57376 + 13))
  else if n == 57427 || (57358 ≤ n && n ≤ 57363) || (57428 ≤ n && n ≤ 57452) then some .other
  else none

/-- A key of the extended keyboard protocol, `ESC [ code ; m u`: the code of the key, its
modifiers, and with Shift the shifted character when the terminal sends it. -/
def unicodeKey (buf : List UInt8) : Reading :=
  match paramText (buf.drop 2).dropLast with
  | none => .invalid
  | some s =>
    let fields := s.splitOn ';'
    let codes := (fields.headD []).splitOn ':'
    match readNumber 0xFFFFFFFF (codes.headD []) with
    | none => .invalid
    | some n =>
      let (mods, release) := match maskAndKind (fields.drop 1).head? with
        | some (mask, k) => (Modifiers.ofMask mask, k == 3)
        | none => (({} : Modifiers), false)
      let code : Option KeyCode := match functionalKey n with
        | some c => some c
        | none =>
          if n < 0xD800 || (0xE000 ≤ n && n ≤ 0x10FFFF) then
            if n == 0x1B then some .escape
            else if n == 0x0D then some .enter
            else if n == 0x09 then some (if mods.shift then .backTab else .tab)
            else if n == 0x7F then some .backspace
            else some (.char (Char.ofNat n))
          else none
      let shifted := if mods.shift then
          ((codes.drop 1).head?.bind (readNumber 0xFFFFFFFF)).bind fun m =>
            if m < 0xD800 || (0xE000 ≤ m && m ≤ 0x10FFFF) then some (Char.ofNat m) else none
        else none
      match code, shifted with
      | none, _ => .invalid
      | some _, some c => if release then .report else .key (.char c) { mods with shift := false }
      | some c, none => if release then .report else .key c mods

/-- A report of the cursor position, `ESC [ row ; column R`, read and dropped. -/
def cursorReport (buf : List UInt8) : Reading :=
  match paramText (buf.drop 2).dropLast with
  | none => .invalid
  | some s =>
    let fields := s.splitOn ';'
    match readNumber 65535 (fields.headD []), (fields.drop 1).head?.bind (readNumber 65535) with
    | some _, some _ => .report
    | _, _ => .invalid

/-- A mouse report in decimal, `ESC [ b ; x ; y M` or with `<` after the bracket and ending in
`M` or `m`, read and dropped; `offset` is what the button number carries above the button. -/
def decimalMouse (body : List UInt8) (offset : Nat) : Reading :=
  match paramText body with
  | none => .invalid
  | some s =>
    let fields := s.splitOn ';'
    match readNumber 255 (fields.headD []) with
    | none => .invalid
    | some b =>
      if b < offset || !mouseButtonValid (b - offset) then .invalid
      else
        match (fields.drop 1).head?.bind (readNumber 65535),
          (fields.drop 2).head?.bind (readNumber 65535) with
        | some _, some _ => .report
        | _, _ => .invalid

/-- The text of a bracketed paste, once its closing sequence `ESC [ 201 ~` has arrived. -/
def pasteText (buf : List UInt8) : Reading :=
  let closing : List UInt8 := [0x1B, 0x5B, 0x32, 0x30, 0x31, 0x7E]
  if buf.length ≥ 12 && buf.drop (buf.length - 6) == closing then
    .event (.paste (Text.decodeLossy ((buf.drop 6).take (buf.length - 12)).toArray))
  else .pending

/-- Reads a control sequence, `ESC [` and what follows. -/
def readSequence (buf : List UInt8) : Reading :=
  match buf.drop 2 with
  | [] => .pending
  | b :: rest =>
    match b.toNat with
    | 0x5B =>
      match rest with
      | [] => .pending
      | c :: _ =>
        if 0x41 ≤ c.toNat && c.toNat ≤ 0x45 then .key (.function (c.toNat - 0x40)) {}
        else .invalid
    | 0x44 => .key .left {}
    | 0x43 => .key .right {}
    | 0x41 => .key .up {}
    | 0x42 => .key .down {}
    | 0x48 => .key .home {}
    | 0x46 => .key .«end» {}
    | 0x5A => .key .backTab { shift := true }
    | 0x4D =>
      if buf.length < 6 then .pending
      else
        let cb := (buf.getD 3 0).toNat
        if cb < 32 || !mouseButtonValid (cb - 32) then .invalid else .report
    | 0x3C =>
      let last := (buf.getLast?.getD 0).toNat
      if last == 0x4D || last == 0x6D then decimalMouse ((buf.drop 3).dropLast) 0 else .pending
    | 0x49 | 0x4F => .report
    | 0x3B => modifiedKey buf
    | 0x50 => .key (.function 1) {}
    | 0x51 => .key (.function 2) {}
    | 0x53 => .key (.function 4) {}
    | 0x3F =>
      match (buf.getLast?.getD 0).toNat with
      | 0x75 => if buf.length < 5 then .pending else .report
      | 0x63 => .report
      | _ => .pending
    | d =>
      if 0x30 ≤ d && d ≤ 0x39 then
        if buf.length == 3 then .pending
        else
          let last := (buf.getLast?.getD 0).toNat
          if last < 64 || 126 < last then .pending
          else if buf.take 6 == [0x1B, 0x5B, 0x32, 0x30, 0x30, 0x7E] then pasteText buf
          else match last with
            | 0x4D => decimalMouse ((buf.drop 2).dropLast) 32
            | 0x7E => tildeKey buf
            | 0x75 => unicodeKey buf
            | 0x52 => cursorReport buf
            | _ => modifiedKey buf
      else .invalid

/-- Reads a character, from the UTF-8 bytes held so far; an uppercase letter comes with Shift. -/
def readChar (buf : List UInt8) : Reading :=
  match Text.decodeUtf8? buf.toArray with
  | some s =>
    match s.toList with
    | c :: _ => .key (.char c) { shift := c.isUpper }
    | [] => .invalid
  | none =>
    let lead := (buf.headD 0).toNat
    let need :=
      if lead < 0x80 then 1
      else if lead < 0xC0 then 0
      else if lead < 0xE0 then 2
      else if lead < 0xF0 then 3
      else if lead < 0xF8 then 4
      else 0
    if need == 0 then .invalid
    else if need > 1 && !(buf.drop 1).all (fun b => b.toNat / 64 == 2) then .invalid
    else if buf.length < need then .pending
    else .invalid

/-- Reads bytes that do not start with an escape: Enter, Tab, Backspace, Ctrl with a letter or
with one of `4` to `7` or the space, or a character. A line feed is Ctrl+J, as the terminal
sends it unchanged in raw mode. -/
def readPlain (buf : List UInt8) : Reading :=
  match buf with
  | [] => .pending
  | b :: _ =>
    let n := b.toNat
    if n == 0x0D then .key .enter {}
    else if n == 0x09 then .key .tab {}
    else if n == 0x7F then .key .backspace {}
    else if 0x01 ≤ n && n ≤ 0x1A then .key (.char (Char.ofNat (n - 1 + 0x61))) { control := true }
    else if 0x1C ≤ n && n ≤ 0x1F then
      .key (.char (Char.ofNat (n - 0x1C + 0x34))) { control := true }
    else if n == 0 then .key (.char ' ') { control := true }
    else readChar buf

/-- Reads the bytes held so far; `more` says whether more bytes arrived with the last one. -/
def readBytes (buf : List UInt8) (more : Bool) : Reading :=
  match buf with
  | [] => .pending
  | b :: rest =>
    if b.toNat != 0x1B then readPlain buf
    else
      match rest with
      | [] => if more then .pending else .key .escape {}
      | c :: tail =>
        match c.toNat with
        | 0x4F =>
          match tail with
          | [] => .pending
          | d :: _ =>
            match d.toNat with
            | 0x44 => .key .left {}
            | 0x43 => .key .right {}
            | 0x41 => .key .up {}
            | 0x42 => .key .down {}
            | 0x48 => .key .home {}
            | 0x46 => .key .«end» {}
            | 0x50 => .key (.function 1) {}
            | 0x51 => .key (.function 2) {}
            | 0x52 => .key (.function 3) {}
            | 0x53 => .key (.function 4) {}
            | _ => .invalid
        | 0x5B => readSequence buf
        | 0x1B => .key .escape {}
        | _ => (readPlain rest).withAlt

/-- Feeds the bytes that arrive at once to a decoder holding `held`: each byte is added and
what is held is read, giving the bytes still held and the events read. -/
def feed : List UInt8 → List UInt8 → List UInt8 × List Event
  | held, [] => (held, [])
  | held, b :: rest =>
    let buf := held ++ [b]
    let (kept, out) : List UInt8 × List Event :=
      match readBytes buf !rest.isEmpty with
      | .pending => (buf, [])
      | .event e => ([], [e])
      | .invalid | .report => ([], [])
    let (h, es) := feed kept rest
    (h, out ++ es)

/-- The largest number of bytes a typist sends at once. -/
def pieceSize : Nat := 8

/-- A typed string as the pieces it is sent in. -/
def pieces (bytes : List UInt8) : List (List UInt8) :=
  (List.range ((bytes.length + pieceSize - 1) / pieceSize)).map fun i =>
    (bytes.drop (pieceSize * i)).take pieceSize

/-- The events a terminal reads from typed strings, each sent in pieces. -/
def decodeTyped (typed : List (List UInt8)) : List Event :=
  ((typed.flatMap pieces).foldl (fun (acc : List UInt8 × List Event) piece =>
    let (held, es) := feed acc.1 piece
    (held, acc.2 ++ es)) ([], [])).2

end Terminal
end GotoTape
