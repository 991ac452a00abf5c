import SecretScan.Text.Utf8

/-!
# Removing terminal controls

What a terminal would show of a text: escape sequences are followed by a state machine and dropped,
and so are control characters, of which only the line feed is kept.
-/

namespace SecretScan.Terminal

/-- Where in an escape sequence a terminal is. -/
inductive Mode where
  /-- Outside of sequences. -/
  | ground
  | escape
  | escapeIntermediate
  /-- In a control sequence. -/
  | csiEntry
  | csiParam
  | csiIntermediate
  | csiIgnore
  /-- In a device control string. -/
  | dcsEntry
  | dcsParam
  | dcsIntermediate
  | dcsIgnore
  | dcsPassthrough
  /-- In an operating system command. -/
  | osc
  /-- In a string that only an escape or a cancellation ends. -/
  | privateString
  deriving DecidableEq, Repr

/-- Whether a byte cancels every sequence. -/
def cancels (b : UInt8) : Bool := b == 0x18 || b == 0x1a

/-- Whether a byte lies within bounds. -/
def between (lo hi b : UInt8) : Bool := lo ≤ b && b ≤ hi

/-- What bytes do in every mode that gives them no other meaning. -/
def Mode.anywhere (m : Mode) (b : UInt8) : Mode :=
  if cancels b then .ground else if b = 0x1b then .escape else m

/-- The mode after a byte within a sequence. -/
def Mode.next (m : Mode) (b : UInt8) : Mode :=
  match m with
  | .ground => .ground
  | .escape =>
    if cancels b then .ground
    else if between 0x20 0x2f b then .escapeIntermediate
    else if b = 0x50 then .dcsEntry
    else if b = 0x58 || b = 0x5e || b = 0x5f then .privateString
    else if b = 0x5b then .csiEntry
    else if b = 0x5d then .osc
    else if between 0x30 0x7e b then .ground
    else .escape
  | .escapeIntermediate =>
    if between 0x30 0x7e b then .ground else m.anywhere b
  | .csiEntry =>
    if between 0x20 0x2f b then .csiIntermediate
    else if between 0x30 0x3f b then .csiParam
    else if between 0x40 0x7e b then .ground
    else m.anywhere b
  | .csiParam =>
    if between 0x20 0x2f b then .csiIntermediate
    else if between 0x3c 0x3f b then .csiIgnore
    else if between 0x40 0x7e b then .ground
    else m.anywhere b
  | .csiIntermediate =>
    if between 0x30 0x3f b then .csiIgnore
    else if between 0x40 0x7e b then .ground
    else m.anywhere b
  | .csiIgnore =>
    if between 0x40 0x7e b then .ground else m.anywhere b
  | .dcsEntry =>
    if between 0x20 0x2f b then .dcsIntermediate
    else if between 0x30 0x3f b then .dcsParam
    else if between 0x40 0x7e b then .dcsPassthrough
    else m.anywhere b
  | .dcsParam =>
    if between 0x20 0x2f b then .dcsIntermediate
    else if between 0x3c 0x3f b then .dcsIgnore
    else if between 0x40 0x7e b then .dcsPassthrough
    else m.anywhere b
  | .dcsIntermediate =>
    if between 0x30 0x3f b then .dcsIgnore
    else if between 0x40 0x7e b then .dcsPassthrough
    else m.anywhere b
  | .dcsIgnore => m.anywhere b
  | .dcsPassthrough => if b = 0x9c then .ground else m.anywhere b
  | .osc => if b = 0x07 then .ground else m.anywhere b
  | .privateString => m.anywhere b

/-- Whether control characters take effect in the middle of a sequence of this mode. -/
def Mode.obeysControls : Mode → Bool
  | .escape | .escapeIntermediate | .csiEntry | .csiParam | .csiIntermediate | .csiIgnore => true
  | _ => false

/-- What one byte of a character shows when the character starts within a sequence. If the sequence
ends in the middle of the character, the bytes after that are shown as faults, unless they are
control characters. -/
def shownByte (m : Mode) (b : UInt8) : List Char :=
  if m = .ground then if b ≤ 0x9f then [] else ['\ufffd']
  else if b = 0x0a ∧ m.obeysControls then ['\n'] else []

/-- What the bytes of a character show when it starts within a sequence, and the mode after them. -/
def stripBytes (m : Mode) : Bytes → List Char × Mode
  | [] => ([], m)
  | b :: rest =>
    let (shown, last) := stripBytes (m.next b) rest
    (shownByte m b ++ shown, last)

/-- Whether a character outside of sequences is shown. -/
def isShown (c : Char) : Bool :=
  c == '\n' || !(c.toNat < 0x20 || (0x80 ≤ c.toNat && c.toNat ≤ 0x9f))

/-- What a text shows that starts in a mode. -/
def stripFrom (m : Mode) : List Char → List Char
  | [] => []
  | c :: rest =>
    if m = .ground then
      if c = '\x1b' then stripFrom .escape rest
      else if isShown c then c :: stripFrom .ground rest
      else stripFrom .ground rest
    else
      let (shown, next) := stripBytes m (String.utf8EncodeChar c)
      shown ++ stripFrom next rest

/-- What a text shows. -/
def strip (text : List Char) : List Char := stripFrom .ground text

end SecretScan.Terminal
