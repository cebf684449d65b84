namespace BoxDiagram.Text

/-!
# Line ends

A line ends with a line feed. A carriage return, alone or before a line feed,
counts as one.
-/

/-- The text with every line end written as a line feed. -/
def normalizeNewlines : List Char → List Char
  | '\r' :: '\n' :: rest => '\n' :: normalizeNewlines rest
  | '\r' :: rest => '\n' :: normalizeNewlines rest
  | char :: rest => char :: normalizeNewlines rest
  | [] => []

/-- The number of bytes of a text in UTF-8. -/
def byteLength : List Char → Nat
  | [] => 0
  | char :: rest => char.utf8Size + byteLength rest

/-- No carriage return is left. -/
theorem return_notMem_normalizeNewlines (text : List Char) :
    '\r' ∉ normalizeNewlines text := by
  fun_induction normalizeNewlines text with
  | case1 rest inductionHypothesis => simpa using inductionHypothesis
  | case2 rest _ inductionHypothesis => simpa using inductionHypothesis
  | case3 char rest _ notReturn inductionHypothesis =>
      simp only [List.mem_cons, not_or]
      exact ⟨fun equal => notReturn equal.symm, inductionHypothesis⟩
  | case4 => simp

/-- A text without carriage returns stays as it is. -/
theorem normalizeNewlines_of_notMem {text : List Char} (absent : '\r' ∉ text) :
    normalizeNewlines text = text := by
  fun_induction normalizeNewlines text with
  | case1 => simp at absent
  | case2 => simp at absent
  | case3 char rest _ _ inductionHypothesis =>
      simp only [List.mem_cons, not_or] at absent
      rw [inductionHypothesis absent.2]
  | case4 => rfl

end BoxDiagram.Text
