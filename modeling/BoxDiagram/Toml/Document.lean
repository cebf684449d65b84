import BoxDiagram.Toml.Syntax

namespace BoxDiagram.Toml

/-!
# Documents of TOML

The statements of a document build one table. A table may be opened once, and
after tables that lie in it; a value is given to a key once.
-/

/-- The entries with those of the table at a key changed; the key must lead to a table. -/
def update (change : Entries → Option Entries) : Key → Entries → Option Entries
  | [], entries => change entries
  | name :: rest, entries =>
      match entries.lookup name with
      | some (.opened inner) => do
          return replaceEntry entries name (.opened (← update change rest inner))
      | some (.implied inner) => do
          return replaceEntry entries name (.implied (← update change rest inner))
      | some (.dotted inner) => do
          return replaceEntry entries name (.dotted (← update change rest inner))
      | some (.items (latest :: earlier)) => do
          return replaceEntry entries name (.items ((← update change rest latest) :: earlier))
      | some (.items []) | some (.closed _) => none
      | none => do
          return entries ++ [(name, .implied (← update change rest []))]

/-- The entries with the table of a name opened. -/
def openTable (name : String) (entries : Entries) : Option Entries :=
  match entries.lookup name with
  | none => some (entries ++ [(name, .opened [])])
  | some (.implied inner) => some (replaceEntry entries name (.opened inner))
  | some _ => none

/-- The entries with one more table in the list of a name. -/
def openItem (name : String) (entries : Entries) : Option Entries :=
  match entries.lookup name with
  | none => some (entries ++ [(name, .items [[]])])
  | some (.items tables) => some (replaceEntry entries name (.items ([] :: tables)))
  | some _ => none

/-- What is known of a document: its entries, and the key of the table opened last. -/
structure Building where
  entries : Entries
  current : Key

/-- Takes one statement into the document, if it does not contradict an earlier one. -/
def step (building : Building) : Statement → Option Building
  | .assign path found => do
      return { building with
        entries := ← update (assign found path) building.current building.entries }
  | .openTable path => do
      let entries ← update (openTable (path.getLast?.getD "")) path.dropLast building.entries
      return ⟨entries, path⟩
  | .openItem path => do
      let entries ← update (openItem (path.getLast?.getD "")) path.dropLast building.entries
      return ⟨entries, path⟩

/-- The value of a document; none for a text that is none. -/
def document? (text : String) : Option ConfigValue := do
  let text := match text.toList with
    | '\ufeff' :: rest => rest
    | chars => chars
  let building ← (← statements (text.length + 1) text).foldlM step ⟨[], []⟩
  return .table (entriesValue building.entries)

end BoxDiagram.Toml
