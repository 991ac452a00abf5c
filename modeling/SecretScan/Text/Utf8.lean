/-!
# UTF-8

Decoding of bytes. `Utf8.pieces` cuts any bytes into characters and faults; strict decoding fails at
the first fault, and lossy decoding shows each fault as the replacement character. A fault takes the
longest run of bytes that could begin a character, so its length is at most three.
-/

namespace SecretScan

/-- A sequence of bytes. -/
abbrev Bytes := List UInt8

namespace Utf8

/-- A part of decoded bytes. -/
inductive Piece where
  | char (c : Char)
  /-- Bytes that begin no character, or begin one that the next byte does not continue. -/
  | invalid (length : Nat)
  /-- A character that the end of the bytes cuts off. -/
  | incomplete
  deriving DecidableEq, Repr

/-- A character of which some bytes have been read. -/
structure Pending where
  /-- How many bytes have been read. -/
  taken : Nat
  /-- The value of the bits read so far. -/
  value : Nat
  /-- How many bytes are missing, at least one. -/
  missing : Nat
  /-- The bounds of the next byte. -/
  lo : UInt8
  hi : UInt8

/-- What a first byte announces: a whole character, the start of one, or nothing. -/
def lead (b : UInt8) : Piece ⊕ Pending :=
  if b < 0x80 then .inl (.char (Char.ofNat b.toNat))
  else if b < 0xc2 then .inl (.invalid 1)
  else if b < 0xe0 then .inr ⟨1, b.toNat - 0xc0, 1, 0x80, 0xbf⟩
  else if b < 0xf0 then
    .inr ⟨1, b.toNat - 0xe0, 2, if b = 0xe0 then 0xa0 else 0x80, if b = 0xed then 0x9f else 0xbf⟩
  else if b < 0xf5 then
    .inr ⟨1, b.toNat - 0xf0, 3, if b = 0xf0 then 0x90 else 0x80, if b = 0xf4 then 0x8f else 0xbf⟩
  else .inl (.invalid 1)

/-- Takes one more byte of a character: `none` if the byte does not continue it. -/
def Pending.push (p : Pending) (b : UInt8) : Option (Piece ⊕ Pending) :=
  if p.lo ≤ b && b ≤ p.hi then
    let value := p.value * 64 + b.toNat % 64
    if p.missing ≤ 1 then some (.inl (.char (Char.ofNat value)))
    else some (.inr ⟨p.taken + 1, value, p.missing - 1, 0x80, 0xbf⟩)
  else none

/-- The pieces of bytes that follow the bytes of `pending`. -/
def piecesFrom (pending : Option Pending) : Bytes → List Piece
  | [] => if pending.isSome then [.incomplete] else []
  | b :: rest =>
    match pending with
    | none => match lead b with
      | .inl piece => piece :: piecesFrom none rest
      | .inr next => piecesFrom (some next) rest
    | some p => match p.push b with
      | some (.inl piece) => piece :: piecesFrom none rest
      | some (.inr next) => piecesFrom (some next) rest
      | none => .invalid p.taken :: match lead b with
        | .inl piece => piece :: piecesFrom none rest
        | .inr next => piecesFrom (some next) rest

/-- The pieces of a byte sequence, in order. -/
def pieces (bytes : Bytes) : List Piece := piecesFrom none bytes

/-- The character that stands for a piece in lossy decoding. -/
def Piece.shown : Piece → Char
  | .char c => c
  | _ => '\ufffd'

/-- Decodes all bytes; each fault becomes one replacement character. -/
def decodeLossy (bytes : Bytes) : List Char := (pieces bytes).map Piece.shown

/-- Why bytes are not UTF-8. -/
inductive Fault where
  | invalid (length index : Nat)
  | incomplete (index : Nat)
  deriving DecidableEq, Repr

/-- The wording of a fault. -/
def Fault.message : Fault → String
  | .invalid length index => "invalid utf-8 sequence of " ++ toString length ++
      " bytes from index " ++ toString index
  | .incomplete index => "incomplete utf-8 byte sequence from index " ++ toString index

/-- The characters of pieces of which the first stands at `index`, or the first fault. -/
def charsFrom (index : Nat) : List Piece → Except Fault (List Char)
  | [] => .ok []
  | .char c :: rest => (charsFrom (index + c.utf8Size) rest).map (c :: ·)
  | .invalid length :: _ => .error (.invalid length index)
  | .incomplete :: _ => .error (.incomplete index)

/-- Decodes bytes that have to be UTF-8 throughout. -/
def decode (bytes : Bytes) : Except Fault (List Char) := charsFrom 0 (pieces bytes)

/-- The bytes of a text. -/
def encode (cs : List Char) : Bytes := cs.flatMap String.utf8EncodeChar

/-- The number of bytes of a text. -/
def size (cs : List Char) : Nat := (cs.map Char.utf8Size).foldr (· + ·) 0

end Utf8

end SecretScan
