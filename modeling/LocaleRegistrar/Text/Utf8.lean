import LocaleRegistrar.Text.Quoted

/-!
UTF-8. Decoding is strict: overlong forms, surrogates and code points past U+10FFFF are refused, and
a refusal names the bytes that it is about.
-/

namespace LocaleRegistrar.Text

/-- Why bytes are no UTF-8. -/
inductive Utf8Fault
  | badStart
  | badContinuation
  | truncated
deriving DecidableEq, Repr

namespace Utf8Fault

def message : Utf8Fault → String
  | badStart => "invalid start byte"
  | badContinuation => "invalid continuation byte"
  | truncated => "unexpected end of data"

end Utf8Fault

/-- A refusal: the fault, the position of the first byte in question, that byte, and the number of
bytes in question. -/
structure Utf8Error where
  fault : Utf8Fault
  position : Nat
  byte : UInt8
  count : Nat
deriving DecidableEq, Repr

namespace Utf8Error

def message (e : Utf8Error) : String :=
  let place :=
    if e.count = 1 then
      "byte 0x" ++ String.ofList (hexDigits 2 e.byte.toNat) ++ " in position " ++
        toString e.position
    else "bytes in position " ++ toString e.position ++ "-" ++ toString (e.position + e.count - 1)
  "'utf-8' codec can't decode " ++ place ++ ": " ++ e.fault.message

end Utf8Error

/-- What the first byte of a character asks for: how many bytes follow, the bits that it gives to the
code point, and the bounds of the byte after it. -/
structure Utf8Lead where
  following : Nat
  bits : Nat
  low : Nat := 0x80
  high : Nat := 0xBF

/-- The lead that a byte is, if it may start a character. -/
def utf8Lead? (b : Nat) : Option Utf8Lead :=
  if b < 0x80 then some ⟨0, b, 0x80, 0xBF⟩
  else if b < 0xC2 then none
  else if b < 0xE0 then some ⟨1, b - 0xC0, 0x80, 0xBF⟩
  else if b < 0xF0 then
    some ⟨2, b - 0xE0, if b = 0xE0 then 0xA0 else 0x80, if b = 0xED then 0x9F else 0xBF⟩
  else if b < 0xF5 then
    some ⟨3, b - 0xF0, if b = 0xF0 then 0x90 else 0x80, if b = 0xF4 then 0x8F else 0xBF⟩
  else none

/-- A character that has been begun. -/
structure Utf8Partial where
  lead : UInt8
  /-- How many bytes have been read. -/
  seen : Nat
  /-- How many bytes are still to come. -/
  missing : Nat
  /-- The bits of the code point so far. -/
  bits : Nat
  /-- The bounds of the next byte. -/
  low : Nat
  high : Nat

/-- Decodes from `position` on, where a character may have been begun before it. -/
def decodeUtf8From (position : Nat) :
    Option Utf8Partial → List UInt8 → Except Utf8Error (List Char)
  | none, [] => .ok []
  | some p, [] => .error ⟨.truncated, position - p.seen, p.lead, p.seen⟩
  | none, b :: rest =>
    match utf8Lead? b.toNat with
    | none => .error ⟨.badStart, position, b, 1⟩
    | some lead =>
      if lead.following = 0 then do
        return Char.ofNat lead.bits :: (← decodeUtf8From (position + 1) none rest)
      else
        decodeUtf8From (position + 1)
          (some ⟨b, 1, lead.following, lead.bits, lead.low, lead.high⟩) rest
  | some p, b :: rest =>
    if b.toNat < p.low ∨ p.high < b.toNat then
      .error ⟨.badContinuation, position - p.seen, p.lead, p.seen⟩
    else
      let bits := p.bits * 64 + (b.toNat - 0x80)
      if p.missing = 1 then do
        return Char.ofNat bits :: (← decodeUtf8From (position + 1) none rest)
      else
        decodeUtf8From (position + 1)
          (some { p with seen := p.seen + 1, missing := p.missing - 1, bits, low := 0x80, high := 0xBF })
          rest

/-- The text that bytes encode. -/
def decodeUtf8 (bytes : List UInt8) : Except Utf8Error String :=
  (decodeUtf8From 0 none bytes).map String.ofList

/-- The bytes that encode a text. -/
def encodeUtf8 (s : String) : List UInt8 :=
  s.toUTF8.toList

/-- The text with one line feed for every line end, whether it is a line feed, a carriage return or
both. -/
def unifyLineEndsList : List Char → List Char
  | [] => []
  | '\r' :: '\n' :: rest => '\n' :: unifyLineEndsList rest
  | c :: rest => (if c = '\r' then '\n' else c) :: unifyLineEndsList rest

def unifyLineEnds (s : String) : String :=
  String.ofList (unifyLineEndsList s.toList)

end LocaleRegistrar.Text
