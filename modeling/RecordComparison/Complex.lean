import RecordComparison.Decimal.Style

/-!
Complex numbers with double components. Two are equal if both components are.
-/
namespace RecordComparison

structure Complex where
  re : Double
  im : Double
deriving DecidableEq

namespace Complex

instance : BEq Complex := ⟨fun z w => z.re == w.re && z.im == w.im⟩

def zero : Complex := ⟨.ofInt 0, .ofInt 0⟩

def ofReal (re : Double) : Complex := ⟨re, .ofInt 0⟩

def isNaN (z : Complex) : Bool := z.re.isNaN || z.im.isNaN

def plainText (z : Complex) : String :=
  "(" ++ z.re.text .plain ++ "," ++ z.im.text .plain ++ ")"

def reportText (z : Complex) : String :=
  "Complex \x7b re: " ++ z.re.text .report ++ ", im: " ++ z.im.text .report ++ " \x7d"

theorem equal_self (z : Complex) : (z == z) = !z.isNaN := by
  show (z.re == z.re && z.im == z.im) = _
  rw [Binary.equal_self, Binary.equal_self, isNaN, Bool.not_or]

end Complex

end RecordComparison
