/-!
# Lists with a state that goes along

Every item of a list changes a state for those behind it. What is done with an item may then depend
on the state that it finds.
-/

namespace EndpointUpgrade

/-- The items of a list, each with the state that it finds. -/
def threaded {σ α : Type} (next : σ → α → σ) (s : σ) : List α → List (σ × α)
  | [] => []
  | a :: rest => (s, a) :: threaded next (next s a) rest

end EndpointUpgrade
