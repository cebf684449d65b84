import BoxDiagram.Number.Scalar

namespace BoxDiagram.Scalar

/-!
# Lists in the order of a key
-/

variable {α β : Type} [Scalar α]

/-- A value put into a list in the order of a key, behind the values with the same key. -/
def insertBy (key : β → α) (value : β) : List β → List β
  | [] => [value]
  | head :: rest =>
      if rank (key value) (key head) = .lt then value :: head :: rest
      else head :: insertBy key value rest

/-- A list in the order of a key; values with one key keep their order. -/
def sortBy (key : β → α) (values : List β) : List β :=
  values.foldl (fun sorted value => insertBy key value sorted) []

end BoxDiagram.Scalar
