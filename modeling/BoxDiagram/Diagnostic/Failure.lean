import BoxDiagram.Diagnostic.Basic
import BoxDiagram.Diagram.Graph

namespace BoxDiagram

/-!
# Why a diagram was not drawn

A text may be wrong, a file may be out of reach, or a stage after reading fails:
finding routes, laying out boxes, or relying on what an earlier stage promised.
A graph that contradicts itself can stop any of them with a fault.
-/

/-- The stages that come after reading, as failures name them. -/
inductive Stage where
  | route
  | geometry
  | invariant
  deriving Repr, DecidableEq

/-- The word for a stage in messages. -/
def Stage.name : Stage → String
  | .route => "route"
  | .geometry => "geometry"
  | .invariant => "internal"

/-- What can go wrong in the stages after reading. -/
inductive StageCode where
  | relatedEnds
  | climbLimit
  | noRoute
  | detachedRoute
  | depthLimit
  | noCommonContainer
  | unknownReference
  | unknownRoad
  | incompleteReference
  deriving Repr, DecidableEq

namespace StageCode

/-- All codes, in the order of their stages. -/
def all : List StageCode := [
  .relatedEnds, .climbLimit, .noRoute, .detachedRoute, .depthLimit,
  .noCommonContainer, .unknownReference, .unknownRoad, .incompleteReference]

/-- The name under which a code is documented. -/
def name : StageCode → String
  | .relatedEnds => "R101"
  | .climbLimit => "R102"
  | .noRoute => "R103"
  | .detachedRoute => "R104"
  | .depthLimit => "G101"
  | .noCommonContainer => "I001"
  | .unknownReference => "I002"
  | .unknownRoad => "I003"
  | .incompleteReference => "I004"

/-- The code of a name. -/
def ofName? (name : String) : Option StageCode :=
  all.find? (·.name == name)

/-- What goes wrong where the code is given. -/
def description : StageCode → String
  | .relatedEnds => "link between a node and its ancestor"
  | .climbLimit => "route climb depth limit exceeded"
  | .noRoute => "no route candidate"
  | .detachedRoute => "route does not reach its endpoint"
  | .depthLimit => "layout depth limit exceeded"
  | .noCommonContainer => "nodes without common ancestor"
  | .unknownReference => "reference outside the diagram"
  | .unknownRoad => "road missing from the lane table"
  | .incompleteReference => "reference geometry incomplete"

/-- The stage in which a code arises. -/
def stage : StageCode → Stage
  | .relatedEnds | .climbLimit | .noRoute | .detachedRoute => .route
  | .depthLimit => .geometry
  | .noCommonContainer | .unknownReference | .unknownRoad | .incompleteReference => .invariant

/-- The code tells of inconsistent data, not of a bad diagram. -/
def isInternal (code : StageCode) : Bool :=
  match code with
  | .climbLimit | .detachedRoute => true
  | _ => code.stage == .invariant

/-- No code is missing in the list of all codes. -/
theorem mem_all (code : StageCode) : code ∈ all := by
  cases code <;> simp [all]

end StageCode

/-- Why a diagram was not drawn. -/
inductive Failure where
  /-- A file could not be read or written. -/
  | io (message : String)
  /-- The text is no diagram; the text to which the messages refer is kept. -/
  | parse (error : ParseError) (source : String)
  /-- A stage after reading failed. -/
  | stage (code : StageCode) (message : String)
  /-- A relation of the graph leads nowhere. -/
  | fault (fault : GraphFault)
  deriving Repr, DecidableEq

namespace Failure

/-- The failure on one line. -/
def display : Failure → String
  | .io message => s!"I/O error: {message}"
  | .parse error _ => error.display
  | .stage code message => s!"{code.stage.name} error[{code.name}]: {message}"
  | .fault (.unknownNode id) => s!"there is no node {NodeId.display id}"
  | .fault (.aboveRoot id) => s!"a climb from node {NodeId.display id} passes the root"

/-- The name of the code of a failure, or of its first message. -/
def codeName? : Failure → Option String
  | .parse error _ => error.diagnostics.head?.bind fun first => first.code.map (·.name)
  | .stage code _ => some code.name
  | _ => none

/-- The failure tells of inconsistent data, not of a bad diagram. -/
def isInternal : Failure → Bool
  | .stage code _ => code.isInternal
  | .fault _ => true
  | _ => false

/-- A question about the graph as a step of a stage. -/
def ofGraph {α : Type} (answer : Except GraphFault α) : Except Failure α :=
  answer.mapError .fault

end Failure

instance : MonadLift (Except GraphFault) (Except Failure) := ⟨Failure.ofGraph⟩

end BoxDiagram
