import RecordComparison.Proofs.LeafChange
import RecordComparison.Proofs.Order

/-!
The report as a whole. It lists the clashes that can be reached in the compared pair. No path is
reported twice as long as names are distinct, and changing one leaf of a value without NaN is
reported as that one difference. Main statement: `Layout.report_is_exact`.
-/
namespace RecordComparison
open Comparable (collect differences)

def DistinctPaths (ds : List Difference) : Prop := (ds.map (·.path)).Nodup

namespace Layout
open Node

theorem report_is_exact {α : Type} {_ : Comparable α} (layout : Layout α) (a b : α) :
    (∀ p m, ⟨p, m⟩ ∈ collect none a b ↔
      ∃ n, Reaches (values layout a b) p n ∧ Clashes n m) ∧
    (layout.DistinctNames a → DistinctPaths (collect none a b)) ∧
    (∀ p m, layout.NaNFree a → LeafChange layout a b p m → collect none a b = [⟨p, m⟩]) := by
  rw [layout.collect_everything]
  refine ⟨layout.mem_differences_iff a b, layout.distinct_paths a b, ?_⟩
  exact fun p m free change => leaf_change_single change free

end Layout

theorem report_of_changed_entry :
    let before : Record :=
      ⟨"beam", [⟨"n", none⟩, ⟨"orbit", some (.matrix [[.int 1, .int 2], [.int 3]])⟩]⟩
    let after : Record :=
      ⟨"beam", [⟨"n", none⟩, ⟨"orbit", some (.matrix [[.int 1, .int 2], [.int 4]])⟩]⟩
    Layout.slots.DistinctNames before ∧ Layout.slots.NaNFree before ∧
      DistinctPaths (collect none before after) ∧
      collect none before after =
        [⟨[.field "orbit", .index 1, .index 0], .value "3" "4"⟩] := by
  intro before after
  have names : ["n", "orbit"].Nodup := by decide
  have free : Layout.slots.NaNFree before :=
    (Layout.slots.equal_self_iff before).mp (by decide +kernel)
  have entry : LeafChange .scalar (.int 3) (.int 4) [] (.value "3" "4") :=
    .scalar rfl (by decide)
  have change : LeafChange .slots before after [.field "orbit", .index 1, .index 0]
      (.value "3" "4") :=
    .slot (i := 1) rfl (.matrix (.item (i := 1) rfl (.item (i := 0) rfl entry)))
  have exact := Layout.slots.report_is_exact before after
  exact ⟨names, free, exact.2.1 names, exact.2.2 _ _ free change⟩

end RecordComparison
