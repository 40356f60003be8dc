import RecordComparison.Complex
import RecordComparison.Json.Typed

/-!
Complex numbers in JSON: an object with the members `re` and `im`. A component that is not
finite is written as null, which cannot be read back.
-/
namespace RecordComparison.Complex

def json (z : Complex) : Json := .object [("re", .ofDouble z.re), ("im", .ofDouble z.im)]

def form : RecordForm Read Complex where
  title := "struct Complex"
  strict := false
  blank := zero
  members := [
    { name := "re", optional := false, optionalInList := false,
      read := Json.mapRead (fun x z => { z with re := x }) (Json.readDouble "f64") },
    { name := "im", optional := false, optionalInList := false,
      read := Json.mapRead (fun x z => { z with im := x }) (Json.readDouble "f64") }]

def read : Read Complex := Json.readRecord form

end RecordComparison.Complex
