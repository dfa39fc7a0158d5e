import NumberedBasic.Text.Glyph

/-! Reading bytes as UTF-8. Only the shortest encoding of a scalar value is well formed, and every
byte of an ill-formed stretch stands for itself. -/
namespace NumberedBasic.Text.Utf8

/-- The bytes that may follow a leading byte directly. The ends exclude overlong forms, surrogates
and values above the last code point. -/
def secondRange (lead : Nat) : Nat × Nat :=
  if lead = 0xe0 then (0xa0, 0xbf)
  else if lead = 0xed then (0x80, 0x9f)
  else if lead = 0xf0 then (0x90, 0xbf)
  else if lead = 0xf4 then (0x80, 0x8f)
  else (0x80, 0xbf)

def isSecond (lead b : UInt8) : Bool :=
  (secondRange lead.toNat).1 ≤ b.toNat && b.toNat ≤ (secondRange lead.toNat).2

def isTail (b : UInt8) : Bool := 0x80 ≤ b.toNat && b.toNat ≤ 0xbf

/-- The character that a byte begins, and how many further bytes it takes. -/
def sequence? (a : UInt8) (rest : List UInt8) : Option (Char × Nat) :=
  let n := a.toNat
  if n < 0x80 then some (Char.ofNat n, 0)
  else if 0xc2 ≤ n && n ≤ 0xdf then
    match rest with
    | b :: _ =>
        if isSecond a b then some (Char.ofNat ((n - 0xc0) * 0x40 + (b.toNat - 0x80)), 1) else none
    | _ => none
  else if 0xe0 ≤ n && n ≤ 0xef then
    match rest with
    | b :: c :: _ =>
        if isSecond a b && isTail c then
          some (Char.ofNat ((n - 0xe0) * 0x1000 + (b.toNat - 0x80) * 0x40 + (c.toNat - 0x80)), 2)
        else none
    | _ => none
  else if 0xf0 ≤ n && n ≤ 0xf4 then
    match rest with
    | b :: c :: d :: _ =>
        if isSecond a b && isTail c && isTail d then
          some (Char.ofNat ((n - 0xf0) * 0x40000 + (b.toNat - 0x80) * 0x1000
            + (c.toNat - 0x80) * 0x40 + (d.toNat - 0x80)), 3)
        else none
    | _ => none
  else none

/-- Reads on after passing over the given number of bytes. -/
def decodeAfter : Nat → List UInt8 → List Glyph
  | _, [] => []
  | skip + 1, _ :: rest => decodeAfter skip rest
  | 0, a :: rest =>
      match sequence? a rest with
      | some (c, skip) => .char c :: decodeAfter skip rest
      | none => .stray a :: decodeAfter 0 rest

def decode (bytes : List UInt8) : List Glyph := decodeAfter 0 bytes

/-- The characters that bytes are read as. -/
def toText (bytes : List UInt8) : String := Glyph.toText (decode bytes)

def encode (text : String) : List UInt8 := text.toList.flatMap String.utf8EncodeChar

end NumberedBasic.Text.Utf8
