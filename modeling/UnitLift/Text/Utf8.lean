import UnitLift.Text.Lines

namespace UnitLift.Text

/-- What is still needed to complete a character whose first bytes have been read. -/
private structure Unfinished where
  /-- The code point as far as it is known. -/
  code : Nat
  /-- How many bytes are missing. -/
  missing : Nat
  /-- The least and the greatest byte that may come next. -/
  low : Nat
  high : Nat

/-- What the first byte of a character says about the rest of it. -/
private def Unfinished.ofLead? (lead : Nat) : Option Unfinished :=
  if 0xC2 ≤ lead && lead ≤ 0xDF then some ⟨lead - 0xC0, 1, 0x80, 0xBF⟩
  else if lead == 0xE0 then some ⟨0, 2, 0xA0, 0xBF⟩
  else if lead == 0xED then some ⟨0xD, 2, 0x80, 0x9F⟩
  else if 0xE1 ≤ lead && lead ≤ 0xEF then some ⟨lead - 0xE0, 2, 0x80, 0xBF⟩
  else if lead == 0xF0 then some ⟨0, 3, 0x90, 0xBF⟩
  else if 0xF1 ≤ lead && lead ≤ 0xF3 then some ⟨lead - 0xF0, 3, 0x80, 0xBF⟩
  else if lead == 0xF4 then some ⟨4, 3, 0x80, 0x8F⟩
  else none

/-- The character that stands for bytes that are no UTF-8. -/
def replacementCharacter : Char := Char.ofNat 0xFFFD

/-- Reads a byte where a character may start. -/
private def decodeLead (byte : UInt8) : List Char × Option Unfinished :=
  if byte.toNat < 0x80 then ([Char.ofNat byte.toNat], none)
  else
    match Unfinished.ofLead? byte.toNat with
    | none => ([replacementCharacter], none)
    | some unfinished => ([], some unfinished)

/-- Reads the bytes that follow `pending`, an unfinished character if there is one. -/
private def decodeFrom (pending : Option Unfinished) : List UInt8 → List Char
  | [] => if pending.isSome then [replacementCharacter] else []
  | byte :: rest =>
    match pending with
    | none =>
      let (chars, next) := decodeLead byte
      chars ++ decodeFrom next rest
    | some unfinished =>
      if unfinished.low ≤ byte.toNat && byte.toNat ≤ unfinished.high then
        let code := unfinished.code * 64 + (byte.toNat - 0x80)
        if unfinished.missing ≤ 1 then Char.ofNat code :: decodeFrom none rest
        else decodeFrom (some ⟨code, unfinished.missing - 1, 0x80, 0xBF⟩) rest
      else
        let (chars, next) := decodeLead byte
        replacementCharacter :: chars ++ decodeFrom next rest

/-- The text that bytes stand for. -/
def decodeUtf8 (bytes : List UInt8) : List Char := decodeFrom none bytes

end UnitLift.Text
