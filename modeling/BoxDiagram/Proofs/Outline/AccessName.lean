import BoxDiagram.Proofs.Outline.Grammar

namespace BoxDiagram.AccessName

/-!
# Canonical access names are read back

The canonical form of a path is one of the ways in which it can be written, so what is read
there is the path, and every accepted name has one canonical form.
-/

/-- A segment that can be bare is written as a word, and any other one between quotes. -/
theorem isSegment_writeSegment
    (name : String) :
    IsSegment (writeSegment name) name := by
  rw [writeSegment]
  split
  · rename_i bare
    obtain ⟨nonempty, areWordChars⟩ :
        name.toList ≠ [] ∧ ∀ char ∈ name.toList, Text.isWordChar char = true := by
      simpa [isBare] using bare
    simpa using IsSegment.bare nonempty areWordChars
  · exact .quoted name

/-- What is written for a list of names is a path of exactly these names. -/
theorem isPath_write
    (name : String)
    (rest : List String) :
    IsPath (write (name :: rest)) (name :: rest) := by
  induction rest generalizing name with
  | nil =>
      exact .last (isSegment_writeSegment name)
  | cons next rest inductionHypothesis =>
      exact .cons (isSegment_writeSegment name) (inductionHypothesis next)

/-- The canonical name of a path is read back to the path. -/
theorem toPath_ofPath
    (path : List String) :
    toPath (ofPath path) = .ok path := by
  cases path with
  | nil =>
      rfl
  | cons name rest =>
      have isPath := isPath_write name rest
      obtain ⟨before, last, isWritten, _⟩ := isPath.exists_last
      have nonempty : ofPath (name :: rest) ≠ "" := by
        simp [ofPath, isWritten]
      rw [toPath_eq_ok_iff nonempty, ofPath, String.toList_ofList]
      exact isPath.segments_eq

/--
A canonical name is read back to the path from which it was written, so different paths have
different canonical names.  The canonical name of what an accepted name says is accepted with
the same path, is its own canonical name, and is the accepted name itself exactly if that
was canonical.
-/
theorem canonical_names_round_trip :
    (∀ path : List String, toPath (ofPath path) = .ok path) ∧
    Function.Injective ofPath ∧
    ∀ (name : String) (path : List String), toPath name = .ok path →
      toPath (ofPath path) = .ok path ∧
      (toPath (ofPath path)).map ofPath = .ok (ofPath path) ∧
      (ofPath path = name ↔ ∃ canonical, ofPath canonical = name) := by
  refine ⟨toPath_ofPath, ?injective, ?accepted⟩
  case injective =>
    intro first second same
    have readBack := toPath_ofPath first
    rw [same, toPath_ofPath] at readBack
    exact (Except.ok.inj readBack).symm
  case accepted =>
    intro name path accepts
    refine ⟨toPath_ofPath path, by rw [toPath_ofPath]; rfl, fun same => ⟨path, same⟩, ?_⟩
    rintro ⟨other, rfl⟩
    rw [toPath_ofPath] at accepts
    rw [Except.ok.inj accepts]

/-- A name that quotes more than it must: only the segments that are no words stay quoted. -/
theorem exists_canonical_name_round_trip :
    ∃ path : List String,
      toPath "\"né\".\"a.\\\"b\\\\\n\".\"\".c_1" = .ok path ∧
        path = ["né", "a.\"b\\\n", "", "c_1"] ∧
          ofPath path = "né.\"a.\\\"b\\\\\n\".\"\".c_1" ∧
            toPath (ofPath path) = .ok path ∧
              (toPath (ofPath path)).map ofPath = .ok (ofPath path) := by
  have accepts :
      toPath "\"né\".\"a.\\\"b\\\\\n\".\"\".c_1" = .ok ["né", "a.\"b\\\n", "", "c_1"] := by
    decide +kernel
  obtain ⟨readBack, again, _⟩ := canonical_names_round_trip.2.2 _ _ accepts
  exact ⟨_, accepts, rfl, by decide +kernel, readBack, again⟩

end BoxDiagram.AccessName
