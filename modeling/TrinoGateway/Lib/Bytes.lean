import Mathlib.Data.List.Basic

/-!
# Bytes

Texts from bytes: UTF-8, where a byte that begins no character reads as U+FFFD, and the
standard padded base64.
-/

namespace Interact.Bytes

def within (lo hi b : ℕ) : Bool := lo ≤ b && b ≤ hi

/-- The first character and its width. A byte that is missing counts as `0`, which continues
no character. -/
def decodeRune (bs : List UInt8) : Char × ℕ :=
  let a := (bs.getD 0 0).toNat
  let b := (bs.getD 1 0).toNat
  let c := (bs.getD 2 0).toNat
  let d := (bs.getD 3 0).toNat
  let next := within 0x80 0xBF
  if a < 0x80 then (Char.ofNat a, 1)
  else if within 0xC2 0xDF a && next b then (Char.ofNat ((a - 0xC0) * 64 + (b - 0x80)), 2)
  else if within 0xE0 0xEF a && next b && next c &&
      -- no overlong forms and no surrogates
      (a ≠ 0xE0 || 0xA0 ≤ b) && (a ≠ 0xED || b < 0xA0) then
    (Char.ofNat (((a - 0xE0) * 64 + (b - 0x80)) * 64 + (c - 0x80)), 3)
  else if within 0xF0 0xF4 a && next b && next c && next d &&
      -- no overlong forms and nothing beyond U+10FFFF
      (a ≠ 0xF0 || 0x90 ≤ b) && (a ≠ 0xF4 || b < 0x90) then
    (Char.ofNat ((((a - 0xF0) * 64 + (b - 0x80)) * 64 + (c - 0x80)) * 64 + (d - 0x80)), 4)
  else (Char.ofNat 0xFFFD, 1)

def decodeRunes : ℕ → List UInt8 → List Char
  | 0, _ => []
  | _ + 1, [] => []
  | n + 1, bs => (decodeRune bs).1 :: decodeRunes n (bs.drop (decodeRune bs).2)

/-- The text that the bytes spell. -/
def text (bs : List UInt8) : String := String.ofList (decodeRunes bs.length bs)

/-- Whether each byte belongs to a character. -/
def isText : ℕ → List UInt8 → Bool
  | _, [] => true
  | 0, _ :: _ => false
  | n + 1, b :: bs =>
    let width := (decodeRune (b :: bs)).2
    (b.toNat < 0x80 || width ≠ 1) && isText n ((b :: bs).drop width)

def isUtf8 (bs : List UInt8) : Bool := isText bs.length bs

example : isUtf8 [0xC3, 0xA9, 0x61] = true ∧ isUtf8 [0xE9, 0x61] = false := by decide

/-- The value of a base64 digit. -/
def sextet (c : Char) : Option ℕ :=
  if c.isUpper then some (c.toNat - 65)
  else if c.isLower then some (c.toNat - 71)
  else if c.isDigit then some (c.toNat + 4)
  else if c = '+' then some 62
  else if c = '/' then some 63
  else none

/-- Groups of four digits; only the last may be padded. -/
def decodeQuads : List Char → Option (List UInt8)
  | [] => some []
  | [a, b, '=', '='] => do
    let n := (← sextet a) * 64 + (← sextet b)
    return [UInt8.ofNat (n / 16)]
  | [a, b, c, '='] => do
    let n := ((← sextet a) * 64 + (← sextet b)) * 64 + (← sextet c)
    return [UInt8.ofNat (n / 1024), UInt8.ofNat (n / 4)]
  | a :: b :: c :: d :: rest => do
    let n := (((← sextet a) * 64 + (← sextet b)) * 64 + (← sextet c)) * 64 + (← sextet d)
    return UInt8.ofNat (n / 65536) :: UInt8.ofNat (n / 256) :: UInt8.ofNat n ::
      (← decodeQuads rest)
  | _ => none

/-- Standard base64; line breaks are skipped. -/
def decodeBase64 (s : String) : Option (List UInt8) :=
  decodeQuads (s.toList.filter fun c => c ≠ '\r' ∧ c ≠ '\n')

example : (decodeBase64 "w6k6YQ==").map text = some "é:a" := by decide

end Interact.Bytes
