/-!
What values are read from. A medium, such as a text or a JSON value, says how truth values,
lists and values that may be absent are read from it; whatever is made of these can then be
described once for all media.
-/
namespace RecordComparison

structure Medium (F : Type → Type) where
  map : {α β : Type} → (α → β) → F α → F β
  truth : F Bool
  list : {α : Type} → F α → F (List α)
  option : {α : Type} → F α → F (Option α)

end RecordComparison
