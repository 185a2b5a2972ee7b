namespace UnitLift.Text

/-- The six bits that a character stands for. -/
def sixBits? (c : Char) : Option Nat :=
  let code := c.toNat
  if 65 ≤ code && code ≤ 90 then some (code - 65)
  else if 97 ≤ code && code ≤ 122 then some (code - 71)
  else if 48 ≤ code && code ≤ 57 then some (code + 4)
  else if code == 43 then some 62
  else if code == 47 then some 63
  else none

/-- The bytes of a run of groups of six bits; bits that make up no byte are dropped. -/
def bytesOfSixBits : List Nat → List UInt8
  | a :: b :: c :: d :: rest =>
    let bits := ((a * 64 + b) * 64 + c) * 64 + d
    (bits / 65536).toUInt8 :: (bits / 256).toUInt8 :: bits.toUInt8 :: bytesOfSixBits rest
  | [a, b, c] =>
    let bits := (a * 64 + b) * 64 + c
    [(bits / 1024).toUInt8, (bits / 4).toUInt8]
  | [a, b] => [((a * 64 + b) / 16).toUInt8]
  | _ => []

def decodeBase64 (text : String) : List UInt8 := bytesOfSixBits (text.toList.filterMap sixBits?)

/-- Whether a text in base 64 is complete: its characters make up groups of four, the last of which may
be filled up with equals signs. `inGroup` characters of the current group and `pads` equals signs have
come already. -/
def isCompleteBase64 (inGroup pads : Nat) : List Char → Bool
  | [] => inGroup == 0
  | c :: rest =>
    if c == '=' then
      if inGroup < 2 then isCompleteBase64 inGroup pads rest
      else 4 ≤ inGroup + pads + 1 || isCompleteBase64 inGroup (pads + 1) rest
    else if (sixBits? c).isSome then isCompleteBase64 ((inGroup + 1) % 4) 0 rest
    else isCompleteBase64 inGroup pads rest

end UnitLift.Text
