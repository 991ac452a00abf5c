import SecretScan.Scan.Matchers

/-!
# The scan of a content

The bytes of a file are read once, line by line. Lines are decoded lossily; whether a line is short
depends on its bytes. All lines count in the numbering, also those that are short or not reported.
-/

namespace SecretScan

/-- A reported line. -/
structure Hit where
  /-- The number of the line; the first line has number one. -/
  number : Nat
  /-- The line without its end. -/
  line : List Char
  /-- The secret in the line. -/
  secret : List Char
  deriving DecidableEq, Repr

/-- The state of reading: how many lines are complete, the bytes of the line being read, the hits so
far, and how many they are; of both lists, the last element comes first. -/
structure LineReader where
  complete : Nat
  current : Bytes
  hits : List Hit
  count : Nat

namespace LineReader

/-- The start of a content. -/
def start : LineReader := ⟨0, [], [], 0⟩

/-- The bytes of a line, given with the last byte first, without a carriage return at their end. -/
def rawLine (current : Bytes) : Bytes :=
  match current with
  | b :: rest => if b = 0x0d then rest.reverse else current.reverse
  | [] => []

/-- Ends a line. -/
def endLine (m : Matchers) (r : LineReader) : LineReader :=
  let raw := rawLine r.current
  let number := r.complete + 1
  if raw.length ≤ Matchers.shortLine then ⟨number, [], r.hits, r.count⟩
  else
    let line := Utf8.decodeLossy raw
    match m.report line with
    | some secret => ⟨number, [], ⟨number, line, secret⟩ :: r.hits, r.count + 1⟩
    | none => ⟨number, [], r.hits, r.count⟩

/-- Reads one byte. -/
def push (m : Matchers) (r : LineReader) (b : UInt8) : LineReader :=
  if b = 0x0a then r.endLine m else { r with current := b :: r.current }

/-- Reads the end of the content, which also ends a line that has any bytes. -/
def finish (m : Matchers) (r : LineReader) : LineReader :=
  if r.current = [] then r else r.endLine m

end LineReader

namespace Matchers

/-- The state after reading a whole content. -/
def readLines (m : Matchers) (content : Bytes) : LineReader :=
  (content.foldl (LineReader.push m) LineReader.start).finish m

/-- The hits in a content, in order. -/
def scan (m : Matchers) (content : Bytes) : List Hit := (m.readLines content).hits.reverse

/-- The number of hits in a content, as counted while it is read. -/
def count (m : Matchers) (content : Bytes) : Nat := (m.readLines content).count

end Matchers

end SecretScan
