import RecordComparison.Reference

/-!
The descriptions of the two fixed records as they are written.
-/
namespace RecordComparison

def textOfLines (lines : List String) : String :=
  String.ofList (lines.flatMap fun line => line.toList ++ ['\n'])

def IntegerRecord.source : String :=
  textOfLines ["name: my", "fields:", "  - \x7b name: a, kind: int \x7d"]

def TruthRecord.source : String :=
  textOfLines [
    "# Every field shape of the boolean kind: plain, pointer and allocatable",
    "# components at ranks 0 through 3.",
    "name: ttt",
    "fields:",
    "  - \x7b name: i0,  kind: bool \x7d",
    "  - \x7b name: ip0, kind: bool, storage: pointer \x7d",
    "  - \x7b name: ia0, kind: bool, storage: allocatable \x7d",
    "  - \x7b name: i1,  kind: bool, rank: 1 \x7d",
    "  - \x7b name: ip1, kind: bool, rank: 1, storage: pointer \x7d",
    "  - \x7b name: ia1, kind: bool, rank: 1, storage: allocatable \x7d",
    "  - \x7b name: i2,  kind: bool, rank: 2 \x7d",
    "  - \x7b name: ip2, kind: bool, rank: 2, storage: pointer \x7d",
    "  - \x7b name: ia2, kind: bool, rank: 2, storage: allocatable \x7d",
    "  - \x7b name: i3,  kind: bool, rank: 3 \x7d",
    "  - \x7b name: ip3, kind: bool, rank: 3, storage: pointer \x7d",
    "  - \x7b name: ia3, kind: bool, rank: 3, storage: allocatable \x7d"]

end RecordComparison
