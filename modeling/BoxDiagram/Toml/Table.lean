import BoxDiagram.Config.Read

namespace BoxDiagram.Toml

/-!
# Tables under construction

A key is a path of names. Values are given to keys, and the names before the last
one stand for tables that are made on the way.
-/

/-- A key is the names of the tables on the way to a value, and its own name. -/
abbrev Key := List String

/-- A place in a table under construction. -/
inductive Slot where
  /-- A value that nothing is added to. -/
  | closed (value : ConfigValue)
  /-- A table that a key with several names made. -/
  | dotted (entries : List (String × Slot))
  /-- A table that only stands around others so far. -/
  | implied (entries : List (String × Slot))
  /-- A table that a statement opened. -/
  | opened (entries : List (String × Slot))
  /-- A list of tables that statements opened, the latest first. -/
  | items (tables : List (List (String × Slot)))

/-- The entries of a table under construction. -/
abbrev Entries := List (String × Slot)

mutual

/-- The value that a slot stands for. -/
def Slot.value : Slot → ConfigValue
  | .closed value => value
  | .dotted entries | .implied entries | .opened entries => .table (entriesValue entries)
  | .items tables => .list (tablesValue tables).reverse

/-- The values of the entries of a table. -/
def entriesValue : List (String × Slot) → List (String × ConfigValue)
  | [] => []
  | (name, slot) :: rest => (name, slot.value) :: entriesValue rest

/-- The values of the tables of a list, the latest first. -/
def tablesValue : List (List (String × Slot)) → List ConfigValue
  | [] => []
  | table :: rest => .table (entriesValue table) :: tablesValue rest

end

/-- The entries with the one of a name replaced. -/
def replaceEntry (entries : Entries) (name : String) (slot : Slot) : Entries :=
  entries.map fun entry => if entry.1 = name then (name, slot) else entry

/--
The entries with a value given to a key; none if the key is taken. The names before
the last one may lead through tables that no statement opened, and through the latest
of a list of tables; the table that holds the value is one that such a key made or
one that only stood around others.
-/
def assign (value : ConfigValue) : Key → Entries → Option Entries
  | [], _ => none
  | [name], entries =>
      match entries.lookup name with
      | some _ => none
      | none => some (entries ++ [(name, .closed value)])
  | name :: next :: rest, entries =>
      match entries.lookup name with
      | some (.dotted inner) => do
          return replaceEntry entries name (.dotted (← assign value (next :: rest) inner))
      | some (.implied inner) => do
          let changed ← assign value (next :: rest) inner
          let slot := if rest.isEmpty then .dotted changed else .implied changed
          return replaceEntry entries name slot
      | some (.items (latest :: earlier)) => do
          if rest.isEmpty then none
          else
            let changed ← assign value (next :: rest) latest
            return replaceEntry entries name (.items (changed :: earlier))
      | some _ => none
      | none => do return entries ++ [(name, .dotted (← assign value (next :: rest) []))]

end BoxDiagram.Toml
