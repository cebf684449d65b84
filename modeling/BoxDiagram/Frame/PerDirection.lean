import BoxDiagram.Frame.Direction

namespace BoxDiagram

/-!
# One value for each direction
-/

/-- A value for each of the four directions. -/
structure PerDirection (β : Type) where
  main : β
  cross : β
  mainReverse : β
  crossReverse : β
  deriving Repr, DecidableEq

namespace PerDirection

variable {β : Type}

/-- The value of a direction. -/
def toward (values : PerDirection β) : Direction → β
  | .main => values.main
  | .cross => values.cross
  | .mainReverse => values.mainReverse
  | .crossReverse => values.crossReverse

/-- The values of a function, direction by direction. -/
def ofFunction (value : Direction → β) : PerDirection β where
  main := value .main
  cross := value .cross
  mainReverse := value .mainReverse
  crossReverse := value .crossReverse

/-- The same value for all directions. -/
def replicate (value : β) : PerDirection β := ofFunction fun _ => value

/-- The values with the one of a direction replaced. -/
def set (values : PerDirection β) (direction : Direction) (value : β) : PerDirection β :=
  ofFunction fun other => if other = direction then value else values.toward other

/-- The values in the order of their directions. -/
def toList (values : PerDirection β) : List β :=
  Direction.all.map values.toward

/-- The value of a direction is that of the function. -/
@[simp] theorem toward_ofFunction (value : Direction → β) (direction : Direction) :
    (ofFunction value).toward direction = value direction := by
  cases direction <;> rfl

/-- All directions have the value that was given. -/
@[simp] theorem toward_replicate (value : β) (direction : Direction) :
    (replicate value).toward direction = value :=
  toward_ofFunction _ direction

/-- Setting the value of one direction leaves those of the others. -/
theorem toward_set (values : PerDirection β) (direction other : Direction) (value : β) :
    (values.set direction value).toward other =
      if other = direction then value else values.toward other :=
  toward_ofFunction _ other

end PerDirection

end BoxDiagram
