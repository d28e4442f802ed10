/-!
Texts from bytes that need not be well-formed UTF-8.
-/

namespace TagTemplate.Text

def isContinuation (byte : UInt8) : Bool :=
  0x80 ≤ byte && byte ≤ 0xBF

/-- The number of bytes a leading byte announces, and the range of the byte behind it. Leading
bytes of overlong forms, of surrogates and of values out of range are narrowed or missing. -/
def leading? (byte : UInt8) : Option (Nat × UInt8 × UInt8) :=
  if 0xC2 ≤ byte && byte ≤ 0xDF then some (2, 0x80, 0xBF)
  else if byte = 0xE0 then some (3, 0xA0, 0xBF)
  else if byte = 0xED then some (3, 0x80, 0x9F)
  else if 0xE1 ≤ byte && byte ≤ 0xEF then some (3, 0x80, 0xBF)
  else if byte = 0xF0 then some (4, 0x90, 0xBF)
  else if byte = 0xF4 then some (4, 0x80, 0x8F)
  else if 0xF1 ≤ byte && byte ≤ 0xF3 then some (4, 0x80, 0xBF)
  else none

def continued (count : Nat) (low high : UInt8) : List UInt8 → List UInt8
  | [] => []
  | byte :: others =>
      if low ≤ byte && byte ≤ high then
        byte :: (others.take (count - 2)).takeWhile isContinuation
      else []

def replacement : Char :=
  '\uFFFD'

def assemble (first : UInt8) (tail : List UInt8) : Nat :=
  let bits := if tail.length = 1 then 0x20 else if tail.length = 2 then 0x10 else 0x08
  tail.foldl (fun point byte => point * 64 + byte.toNat % 64) (first.toNat % bits)

/-- The bytes as text, with a replacement character for each longest run of bytes that starts a
character without completing it. -/
def decodeLossy : List UInt8 → List Char
  | [] => []
  | first :: others =>
      if first < 0x80 then Char.ofNat first.toNat :: decodeLossy others
      else
        match leading? first with
        | none => replacement :: decodeLossy others
        | some (count, low, high) =>
            let tail := continued count low high others
            let character :=
              if tail.length + 1 = count then Char.ofNat (assemble first tail) else replacement
            character :: decodeLossy (others.drop tail.length)
termination_by bytes => bytes.length

end TagTemplate.Text
