/-
Letters and numbers of all scripts.
-/
import Typescribe.Text.AlphabeticRanges
import Typescribe.Text.Basic
import Typescribe.Text.NumericRanges

namespace Typescribe.Text

/-- A letter, or what counts as one. -/
def isAlphabetic (c : Char) : Bool :=
  if c.toNat < 0x80 then c.isAlpha
  else AlphabeticRanges.all.any fun (low, high) => low ≤ c.toNat && c.toNat ≤ high

/-- A letter or a number. -/
def isAlphanumeric (c : Char) : Bool :=
  isAlphabetic c ||
    if c.toNat < 0x80 then c.isDigit
    else NumericRanges.all.any fun (low, high) => low ≤ c.toNat && c.toNat ≤ high

end Typescribe.Text
