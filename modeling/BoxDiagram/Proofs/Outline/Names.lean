import BoxDiagram.Diagram.Resolve
import BoxDiagram.Proofs.Outline.Boxes

namespace BoxDiagram.Outline.Box

/-!
# Names on the way to a box

The names of the boxes on the way to an address are what a path must say to lead there.
A tree that grows keeps them, and where siblings have different names a path is followed
to the one address along which its names stand.
-/

/-- The names of the boxes on the way to an address below a box, if each of them has one. -/
def names? (box : Box) : Address → Option (List String)
  | [] => some []
  | index :: rest =>
      box.children[index]?.bind fun child =>
        child.name.bind fun name => (child.names? rest).map (name :: ·)

theorem at?_singleton
    (box : Box)
    (index : Nat) :
    box.at? [index] = box.children[index]? := by
  rw [at?_cons]
  cases box.children[index]? <;> simp

@[simp] theorem names?_nil
    (box : Box) :
    box.names? [] = some [] := by
  rw [names?]

/-- The names along an address are those of the child and along the rest. -/
theorem names?_cons_eq_some_iff
    {box : Box}
    {index : Nat}
    {rest : Address}
    {names : List String} :
    box.names? (index :: rest) = some names ↔
      ∃ child name others, box.children[index]? = some child ∧ child.name = some name ∧
        child.names? rest = some others ∧ names = name :: others := by
  rw [names?]
  simp only [Option.bind_eq_some_iff, Option.map_eq_some_iff]
  constructor
  · rintro ⟨child, listed, name, named, others, along, rfl⟩
    exact ⟨child, name, others, listed, named, along, rfl⟩
  · rintro ⟨child, name, others, listed, named, along, rfl⟩
    exact ⟨child, listed, name, named, others, along, rfl⟩

/-- A box on the way has no name exactly if the way has no names. -/
theorem names?_eq_none_iff
    {root last : Box}
    {address : Address}
    (found : root.at? address = some last) :
    root.names? address = none ↔
      ∃ around rest box, around ≠ [] ∧ address = around ++ rest ∧
        root.at? around = some box ∧ box.name = none := by
  induction address generalizing root with
  | nil =>
      simp
  | cons index tail inductionHypothesis =>
      rw [at?_cons] at found
      obtain ⟨child, listed, found⟩ := Option.bind_eq_some_iff.mp found
      have below := inductionHypothesis found
      rw [names?, listed, Option.bind_some]
      constructor
      · intro missing
        cases named : child.name with
        | none =>
            exact ⟨[index], tail, child, List.cons_ne_nil _ _, rfl, by simp [at?_cons, listed],
              named⟩
        | some name =>
            rw [named, Option.bind_some, Option.map_eq_none_iff] at missing
            obtain ⟨around, rest, box, _, rfl, isBox, nameless⟩ := below.mp missing
            refine ⟨index :: around, rest, box, List.cons_ne_nil _ _, rfl, ?_, nameless⟩
            rw [at?_cons, listed]
            exact isBox
      · rintro ⟨around, rest, box, nonempty, same, isBox, nameless⟩
        obtain ⟨first, further, rfl⟩ := List.exists_cons_of_ne_nil nonempty
        rw [List.cons_append] at same
        obtain ⟨rfl, rfl⟩ := List.cons.inj same
        rw [at?_cons, listed, Option.bind_some] at isBox
        cases further with
        | nil =>
            obtain rfl : child = box := by simpa using isBox
            rw [nameless, Option.bind_none]
        | cons next more =>
            have missing : child.names? (next :: more ++ rest) = none :=
              below.mpr ⟨next :: more, rest, box, List.cons_ne_nil _ _, rfl, isBox, nameless⟩
            rw [missing]
            exact Option.bind_fun_none _

/-- A box of a tree that grows is found in the later tree and has grown there. -/
theorem Grows.exists_at?
    {root later box : Box}
    {address : Address}
    (grows : root.Grows later)
    (found : root.at? address = some box) :
    ∃ after, later.at? address = some after ∧ box.Keeps after ∧ box.Grows after := by
  obtain ⟨after, foundAfter, keeps⟩ := grows address box found
  refine ⟨after, foundAfter, keeps, ?_⟩
  intro rest inner innerFound
  obtain ⟨last, foundLast, keepsLast⟩ :=
    grows (address ++ rest) inner (by rw [at?_append, found]; exact innerFound)
  rw [at?_append, foundAfter] at foundLast
  exact ⟨last, foundLast, keepsLast⟩

/-- Names go on leading to an address while the tree grows. -/
theorem Grows.names?_eq
    {root later : Box}
    {address : Address}
    {names : List String}
    (grows : root.Grows later)
    (along : root.names? address = some names) :
    later.names? address = some names := by
  induction address generalizing root later names with
  | nil =>
      rw [names?_nil] at along ⊢
      exact along
  | cons index rest inductionHypothesis =>
      obtain ⟨child, name, others, listed, named, alongRest, rfl⟩ :=
        names?_cons_eq_some_iff.mp along
      rw [← at?_singleton] at listed
      obtain ⟨after, foundAfter, keeps, childGrows⟩ := grows.exists_at? listed
      rw [at?_singleton] at foundAfter
      exact names?_cons_eq_some_iff.mpr ⟨after, name, others, foundAfter,
        keeps.name_eq.trans named, inductionHypothesis childGrows alongRest, rfl⟩

section Follow

variable {box child : Box} {name : String} {index : Nat}

/-- Where names differ, a child is found by its name. -/
theorem childIndex?_eq_some
    (distinct : (box.children.filterMap (·.name)).Nodup)
    (listed : box.children[index]? = some child)
    (named : child.name = some name) :
    box.childIndex? name = some index := by
  rw [List.Nodup, List.pairwise_filterMap, List.pairwise_iff_getElem] at distinct
  obtain ⟨inside, rfl⟩ := List.getElem?_eq_some_iff.mp listed
  rw [childIndex?, List.findIdx?_eq_some_iff_getElem]
  refine ⟨inside, by simp [named], ?_⟩
  intro earlier before sameName
  have isName : box.children[earlier].name = some name := by simpa using sameName
  exact distinct earlier index _ inside before name isName name named rfl

/-- A name leads to a child of this name. -/
theorem exists_named_child
    (isIndex : box.childIndex? name = some index) :
    ∃ child, box.children[index]? = some child ∧ child.name = some name := by
  obtain ⟨inside, isName, _⟩ := List.findIdx?_eq_some_iff_getElem.mp isIndex
  exact ⟨_, List.getElem?_eq_getElem inside, by simpa using isName⟩

/-- Where following names ends, the names lead. -/
theorem names?_of_follow?
    {address target : Address}
    {names : List String}
    (followed : box.follow? address names = some target) :
    ∃ rest, target = address ++ rest ∧ box.names? rest = some names := by
  induction names generalizing box address with
  | nil =>
      rw [follow?, Option.some_inj] at followed
      exact ⟨[], by simp [followed], names?_nil box⟩
  | cons name names inductionHypothesis =>
      rw [follow?] at followed
      split at followed
      · rename_i index isIndex
        obtain ⟨child, listed, named⟩ := exists_named_child isIndex
        rw [listed] at followed
        obtain ⟨rest, rfl, along⟩ := inductionHypothesis followed
        exact ⟨index :: rest, by simp,
          names?_cons_eq_some_iff.mpr ⟨child, name, names, listed, named, along, rfl⟩⟩
      · cases followed

end Follow

end BoxDiagram.Outline.Box
