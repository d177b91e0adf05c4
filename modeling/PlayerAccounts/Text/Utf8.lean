/-!
# Characters and their bytes

The UTF-8 form of a text, and what an arbitrary sequence of bytes says: characters, and longest
broken beginnings of characters. A strict reader wants characters only, a lenient one puts the
replacement character for each broken piece.
-/
namespace PlayerAccounts.Text
set_option autoImplicit false

/-! ## Writing -/

def utf8Bytes (s : List Char) : List UInt8 := s.flatMap String.utf8EncodeChar

def utf8Length : List Char → Nat
  | [] => 0
  | c :: s => c.utf8Size + utf8Length s

/-! ## Reading -/

/-- One piece of a byte sequence: a character, or bytes that begin none that could be finished. -/
inductive Glyph where
  | char (c : Char)
  | broken (bytes : List UInt8)
deriving DecidableEq, Repr

namespace Glyph

def size : Glyph → Nat
  | .char c => c.utf8Size
  | .broken bytes => bytes.length

/-- The character, if the piece is one. -/
def char? : Glyph → Option Char
  | .char c => some c
  | .broken _ => none

/-- The character that stands for the piece where nothing is refused. -/
def shown : Glyph → Char
  | .char c => c
  | .broken _ => '\uFFFD'

end Glyph

def glyphBytes : List Glyph → Nat
  | [] => 0
  | g :: rest => g.size + glyphBytes rest

/-- A byte that carries on a character begun before. -/
def isContinuation (b : UInt8) : Bool := 0x80 ≤ b && b ≤ 0xBF

/-- The bytes that may come second: after some leads fewer than all continuations, so that no
character has two forms, none is a surrogate and none lies beyond the last plane. -/
def isSecond (lead b : UInt8) : Bool :=
  if lead == 0xE0 then 0xA0 ≤ b && b ≤ 0xBF
  else if lead == 0xED then 0x80 ≤ b && b ≤ 0x9F
  else if lead == 0xF0 then 0x90 ≤ b && b ≤ 0xBF
  else if lead == 0xF4 then 0x80 ≤ b && b ≤ 0x8F
  else isContinuation b

/-- The six low bits of a continuation. -/
def lowBits (b : UInt8) : Nat := b.toNat % 64

/-- What one more byte makes of the bytes of an unfinished character. -/
inductive Extension where
  | finished (c : Char)
  | unfinished (bytes : List UInt8)
  | refused
deriving DecidableEq, Repr

def startGlyph (b : UInt8) : Extension :=
  if b < 0x80 then .finished (Char.ofNat b.toNat)
  else if 0xC2 ≤ b && b ≤ 0xF4 then .unfinished [b]
  else .refused

/-- A byte after the bytes of an unfinished character. -/
def extendGlyph (pending : List UInt8) (b : UInt8) : Extension :=
  match pending with
  | [] => startGlyph b
  | [lead] =>
    if lead ≤ 0xDF then
      if isContinuation b then .finished (Char.ofNat (lead.toNat % 32 * 64 + lowBits b)) else .refused
    else if isSecond lead b then .unfinished [lead, b] else .refused
  | [lead, second] =>
    if !isContinuation b then .refused
    else if lead ≤ 0xEF then
      .finished (Char.ofNat ((lead.toNat % 16 * 64 + lowBits second) * 64 + lowBits b))
    else .unfinished [lead, second, b]
  | [lead, second, third] =>
    if isContinuation b then
      .finished (Char.ofNat
        (((lead.toNat % 8 * 64 + lowBits second) * 64 + lowBits third) * 64 + lowBits b))
    else .refused
  | _ => .refused

/-- The pieces read so far, last one first, when the text ends within a character. -/
def closeGlyphs (pending : List UInt8) (read : List Glyph) : List Glyph :=
  if pending.isEmpty then read else .broken pending :: read

/-- Reads on from an unfinished character; the pieces are collected last one first. -/
def readGlyphsFrom : List UInt8 → List Glyph → List UInt8 → List Glyph
  | pending, read, [] => (closeGlyphs pending read).reverse
  | pending, read, b :: rest =>
    match extendGlyph pending b with
    | .finished c => readGlyphsFrom [] (.char c :: read) rest
    | .unfinished bytes => readGlyphsFrom bytes read rest
    | .refused =>
      let read := closeGlyphs pending read
      match startGlyph b with
      | .finished c => readGlyphsFrom [] (.char c :: read) rest
      | .unfinished bytes => readGlyphsFrom bytes read rest
      | .refused => readGlyphsFrom [] (.broken [b] :: read) rest

/-- The pieces of a byte sequence, in order. -/
def readGlyphs (bytes : List UInt8) : List Glyph := readGlyphsFrom [] [] bytes

def glyphs (s : List Char) : List Glyph := s.map .char

/-- The text that the bytes spell, if they spell one. -/
def ofUtf8? (bytes : List UInt8) : Option (List Char) := (readGlyphs bytes).mapM Glyph.char?

/-- The text that the bytes spell, with the replacement character for each broken piece. -/
def ofUtf8Lossy (bytes : List UInt8) : List Char := (readGlyphs bytes).map Glyph.shown

end PlayerAccounts.Text
