import Clipbook.Table
import Clipbook.Text.Case

/-!
# Clipbook — comparing letters without case

Two letters are taken as one if they have the same small letter, or small letters that share a
capital.
-/

namespace Clipbook.Pattern

/-- Small letters that share a capital. -/
def sharedCapitals : List (List Nat) :=
  [[0x69, 0x131], [0x73, 0x17f], [0xb5, 0x3bc], [0x345, 0x3b9, 0x1fbe], [0x390, 0x1fd3],
   [0x3b0, 0x1fe3], [0x3b2, 0x3d0], [0x3b5, 0x3f5], [0x3b8, 0x3d1], [0x3ba, 0x3f0],
   [0x3c0, 0x3d6], [0x3c1, 0x3f1], [0x3c2, 0x3c3], [0x3c6, 0x3d5], [0x432, 0x1c80],
   [0x434, 0x1c81], [0x43e, 0x1c82], [0x441, 0x1c83], [0x442, 0x1c84, 0x1c85], [0x44a, 0x1c86],
   [0x463, 0x1c87], [0x1c88, 0xa64b], [0x1e61, 0x1e9b], [0xfb05, 0xfb06]]

/-- The small letters taken as one with a small letter, itself first. -/
def siblings (n : Nat) : List Nat :=
  match sharedCapitals.find? (n ∈ ·) with
  | some letters => n :: letters.filter (· ≠ n)
  | none => [n]

/-- The code points whose small letter is the given one. -/
def raised (n : Nat) : List Nat :=
  let capital := if 0x61 ≤ n ∧ n ≤ 0x7a then [n - 0x20] else []
  let dotted := if n = 0x69 then [0x130] else []
  let itself := if (Text.lowerChar (Char.ofNat n)).toNat = n then [n] else []
  itself ++ capital ++ dotted ++ Text.lowerRows.filterMap (·.preimage? n)

/-- The code points taken as one with a small letter. -/
def preimages (c : Char) : List Nat :=
  (siblings c.toNat).flatMap raised

/-- The capital of an ASCII small letter. -/
def asciiPreimages (c : Char) : List Nat :=
  if c.isLower then [c.toUpper.toNat] else []

end Clipbook.Pattern
