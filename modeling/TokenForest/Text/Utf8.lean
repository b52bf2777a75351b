import TokenForest.Text.Hex

/-!
# UTF-8

A byte list is cut from the left into pieces.  A piece is either the encoding of one character, or
the longest run of bytes that still agreed with some encoding before the next byte, or the end of
the input, ruled it out.  Strict decoding fails at the first broken piece and says where it stands
and why; lenient decoding puts one replacement character for each broken piece.  Both read the same
pieces, so they can only differ in what they make of a broken one.
-/

namespace TokenForest.Text.Utf8

/-- The bytes of a text, character after character. -/
def encode (text : List Char) : List UInt8 :=
  text.flatMap String.utf8EncodeChar

@[simp]
theorem encode_nil : encode [] = [] := rfl

@[simp]
theorem encode_cons
    (character : Char)
    (rest : List Char) :
    encode (character :: rest) =
      String.utf8EncodeChar character ++ encode rest := rfl

@[simp]
theorem encode_append
    (first second : List Char) :
    encode (first ++ second) = encode first ++ encode second := by
  simp [encode]

/-- Why a run of bytes encodes no character. -/
inductive Flaw where
  /-- The first byte begins no encoding. -/
  | badStart
  /-- The bytes end inside an encoding. -/
  | cutShort
  /-- The byte after the run cannot continue it. -/
  | badContinuation
  deriving DecidableEq, Repr

/-- One step of cutting bytes: how many bytes follow the first, and what the run stands for. -/
inductive Piece where
  | scalar (character : Char) (trailing : Nat)
  | broken (lead : UInt8) (flaw : Flaw) (trailing : Nat)
  deriving DecidableEq, Repr

/-- The number of bytes of a piece after its first. -/
def Piece.trailing : Piece → Nat
  | .scalar _ trailing => trailing
  | .broken _ _ trailing => trailing

/--
What a first byte announces: the bits that it carries, the number of bytes to follow, and the bounds
of the byte right after it.  The bounds shut out overlong forms, surrogates and numbers beyond the
last code point.
-/
structure Lead where
  bits : Nat
  trailing : Nat
  low : Nat := 0x80
  high : Nat := 0xBF
  deriving DecidableEq, Repr

/-- The announcement of a first byte, if it can begin an encoding. -/
def Lead.ofByte? (byte : UInt8) : Option Lead :=
  let number := byte.toNat
  if number < 0x80 then some { bits := number, trailing := 0 }
  else if number < 0xC2 then none
  else if number < 0xE0 then some { bits := number - 0xC0, trailing := 1 }
  else if number < 0xF0 then
    some {
      bits := number - 0xE0
      trailing := 2
      low := if number = 0xE0 then 0xA0 else 0x80
      high := if number = 0xED then 0x9F else 0xBF }
  else if number < 0xF5 then
    some {
      bits := number - 0xF0
      trailing := 3
      low := if number = 0xF0 then 0x90 else 0x80
      high := if number = 0xF4 then 0x8F else 0xBF }
  else none

/-- Reads the bytes after a first byte, keeping the bits so far and the count of bytes taken. -/
def readTrailing
    (lead : UInt8)
    (low high bits taken : Nat) :
    (missing : Nat) → List UInt8 → Piece
  | 0, _ => .scalar (Char.ofNat bits) taken
  | _ + 1, [] => .broken lead .cutShort taken
  | missing + 1, byte :: rest =>
    if low ≤ byte.toNat ∧ byte.toNat ≤ high then
      readTrailing lead 0x80 0xBF (bits * 64 + (byte.toNat - 0x80)) (taken + 1) missing rest
    else .broken lead .badContinuation taken

/-- The piece that starts with a given byte. -/
def firstPiece (byte : UInt8) (rest : List UInt8) : Piece :=
  match Lead.ofByte? byte with
  | none => .broken byte .badStart 0
  | some lead => readTrailing byte lead.low lead.high lead.bits 0 lead.trailing rest

/-- The pieces of a byte list after the given number of bytes, which belong to an earlier piece. -/
def piecesAfter : (skipped : Nat) → List UInt8 → List Piece
  | _, [] => []
  | skipped + 1, _ :: rest => piecesAfter skipped rest
  | 0, byte :: rest =>
    let piece := firstPiece byte rest
    piece :: piecesAfter piece.trailing rest

/-- The pieces of a byte list. -/
def pieces (bytes : List UInt8) : List Piece := piecesAfter 0 bytes

/-- Skipping bytes is dropping them. -/
theorem piecesAfter_eq_pieces_drop
    (skipped : Nat)
    (bytes : List UInt8) :
    piecesAfter skipped bytes = pieces (bytes.drop skipped) := by
  induction skipped generalizing bytes with
  | zero => rfl
  | succ skipped ih =>
    cases bytes with
    | nil => rfl
    | cons byte rest => simpa [piecesAfter] using ih rest

/-- Where a byte list stops being UTF-8, and why. -/
structure DecodeError where
  /-- The first byte that is ruled out. -/
  lead : UInt8
  flaw : Flaw
  /-- The offset of that byte in the decoded bytes. -/
  start : Nat
  /-- How many bytes are ruled out together. -/
  count : Nat
  deriving DecidableEq, Repr

/-- The wording of a flaw. -/
def Flaw.reason : Flaw → String
  | .badStart => "invalid start byte"
  | .cutShort => "unexpected end of data"
  | .badContinuation => "invalid continuation byte"

/-- The one-line report of a decoding failure. -/
def DecodeError.message (error : DecodeError) : String :=
  let place :=
    if error.count ≤ 1 then
      "byte 0x" ++ String.ofList (Hex.digits 2 error.lead.toNat) ++
        s!" in position {error.start}"
    else s!"bytes in position {error.start}-{error.start + error.count - 1}"
  "'utf-8' codec can't decode " ++ place ++ ": " ++ error.flaw.reason

/-- Decodes pieces that start at a given offset. -/
def decodePieces (offset : Nat) : List Piece → Except DecodeError (List Char)
  | [] => .ok []
  | .scalar character trailing :: rest =>
    match decodePieces (offset + trailing + 1) rest with
    | .ok decoded => .ok (character :: decoded)
    | .error error => .error error
  | .broken lead flaw trailing :: _ =>
    .error { lead, flaw, start := offset, count := trailing + 1 }

/-- Strict decoding: every piece has to be a character. -/
def decode (bytes : List UInt8) : Except DecodeError (List Char) :=
  decodePieces 0 (pieces bytes)

/-- The character that replaces a broken piece. -/
def replacement : Char := Char.ofNat 0xFFFD

/-- What lenient decoding makes of a piece. -/
def Piece.shown : Piece → Char
  | .scalar character _ => character
  | .broken .. => replacement

/-- Lenient decoding: one replacement character for each broken piece. -/
def decodeLenient (bytes : List UInt8) : List Char :=
  (pieces bytes).map Piece.shown

/-- The number of set bits at the top of a byte before the first clear one. -/
def leadingOnes (byte : UInt8) : Nat :=
  let number := byte.toNat
  if number < 0x80 then 0
  else if number < 0xC0 then 1
  else if number < 0xE0 then 2
  else if number < 0xF0 then 3
  else if number < 0xF8 then 4
  else if number < 0xFC then 5
  else if number < 0xFE then 6
  else if number < 0xFF then 7
  else 8

end TokenForest.Text.Utf8
