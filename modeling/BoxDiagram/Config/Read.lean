import BoxDiagram.Config.Basic

namespace BoxDiagram

/-!
# Reading a configuration

A configuration is written in one of two formats, which agree on the form of
values: sections hold fields by name. A field that is missing has its default, one
that is unknown is passed over, and one of another form makes the whole
configuration wrong. A section may also be a list of its fields in order.
-/

/-- A value of a written configuration. -/
inductive ConfigValue where
  | null
  | truth (value : Bool)
  | integer (value : Int)
  /-- A number with a fraction or an exponent. -/
  | fraction
  /-- A number without a value: too large for every kind of number, or without its digits. -/
  | unreadable
  | text (value : String)
  | list (items : List ConfigValue)
  | table (entries : List (String × ConfigValue))
  deriving Repr

namespace ConfigValue

mutual

/-- Every number in a value has a value. -/
def isReadable : ConfigValue → Bool
  | .unreadable => false
  | .list items => areReadable items
  | .table entries => hasReadable entries
  | _ => true

/-- Every number in some values has a value. -/
def areReadable : List ConfigValue → Bool
  | [] => true
  | item :: rest => isReadable item && areReadable rest

/-- Every number in the values of some entries has a value. -/
def hasReadable : List (String × ConfigValue) → Bool
  | [] => true
  | (_, value) :: rest => isReadable value && hasReadable rest

end

end ConfigValue

/-- Where the formats of a configuration differ. -/
inductive ConfigFormat where
  | json
  | toml
  deriving Repr, DecidableEq

namespace ConfigFormat

/-- A value says nothing beyond the name that it stands with. -/
def isNothing : ConfigFormat → ConfigValue → Bool
  | .json, .null => true
  | .toml, .list [] => true
  | .toml, .table [] => true
  | _, _ => false

/--
The values of the named fields of a section. The other fields of a table need only
be readable. A list may have further items in TOML only, where their values are
not asked for.
-/
def fields (format : ConfigFormat) (names : List String) : ConfigValue →
    Option (List (Option ConfigValue))
  | .table entries =>
      let others := entries.filter fun entry => !names.contains entry.1
      if ConfigValue.hasReadable others then
        some (names.map fun name => entries.lookup name)
      else none
  | .list items =>
      if format = .json ∧ names.length < items.length then none
      else some (names.zipIdx.map fun (_, index) => items[index]?)
  | _ => none

end ConfigFormat

namespace ConfigValue

/-- A count that fits into 64 bits. -/
def toCount? : ConfigValue → Option Nat
  | .integer value =>
      if 0 ≤ value ∧ value < (Nat.pow 2 64 : Int) then some value.toNat else none
  | _ => none

/-- The truth value, if the value is one. -/
def toTruth? : ConfigValue → Option Bool
  | .truth value => some value
  | _ => none

/-- A planner, by its word or by a table with its word as the only name. -/
def toPlanner? (format : ConfigFormat) : ConfigValue → Option PlannerKind
  | .text word => PlannerKind.ofName? word
  | .table [(word, value)] => if format.isNothing value then PlannerKind.ofName? word else none
  | _ => none

/-- What a value says, or a default where there is no value. -/
def orDefault {β : Type} (read : ConfigValue → Option β) (default : β) :
    Option ConfigValue → Option β
  | some value => read value
  | none => some default

end ConfigValue

open ConfigValue (orDefault)

/-- The choice of a planner and its limits. -/
def RouteConfig.read? (format : ConfigFormat) (value : ConfigValue) : Option RouteConfig := do
  let default : RouteConfig := {}
  match ← format.fields ["planner", "inner_limit", "outer_limit", "depth_limit"] value with
  | [planner, inner, outer, depth] =>
      return {
        planner := ← orDefault (·.toPlanner? format) default.planner planner
        innerLimit := ← orDefault (·.toCount?) default.innerLimit inner
        outerLimit := ← orDefault (·.toCount?) default.outerLimit outer
        depthLimit := ← orDefault (·.toCount?) default.depthLimit depth }
  | _ => none

/-- How the layout is made in which routes are searched. -/
def ReferenceConfig.read? (format : ConfigFormat) (value : ConfigValue) :
    Option ReferenceConfig := do
  let default : ReferenceConfig := {}
  match ← format.fields ["dummy_lane_min"] value with
  | [laneMin] => return { laneMin := ← orDefault (·.toCount?) default.laneMin laneMin }
  | _ => none

/-- The settings of the output. -/
def OutputConfig.read? (format : ConfigFormat) (value : ConfigValue) : Option OutputConfig := do
  let default : OutputConfig := {}
  match ← format.fields ["pretty"] value with
  | [pretty] => return { pretty := ← orDefault (·.toTruth?) default.pretty pretty }
  | _ => none

/-- All settings of a configuration file. -/
def Config.read? (format : ConfigFormat) (value : ConfigValue) : Option Config := do
  match ← format.fields ["route", "layout", "output"] value with
  | [route, reference, output] =>
      return {
        route := ← orDefault (RouteConfig.read? format) {} route
        reference := ← orDefault (ReferenceConfig.read? format) {} reference
        output := ← orDefault (OutputConfig.read? format) {} output }
  | _ => none

end BoxDiagram
