import BoxDiagram.Diagnostic.Failure
import Mathlib.Data.List.Forall2

namespace BoxDiagram.Attempt

/-!
# Steps that may fail

Every stage is built from steps that give a result or a reason. A sequence of
steps succeeds exactly when each of its steps does, and the lemmas below take a
success apart into the successes of its steps, or build it from them.
-/

variable {ε β γ : Type}

/-- Two steps in a row succeed exactly when both of them do. -/
theorem bind_eq_ok_iff
    {first : Except ε β}
    {next : β → Except ε γ}
    {result : γ} :
    first >>= next = .ok result ↔
      ∃ value, first = .ok value ∧ next value = .ok result := by
  cases first with
  | error reason =>
      constructor
      · intro succeeded
        cases succeeded
      · rintro ⟨value, failed, _⟩
        cases failed
  | ok value =>
      constructor
      · intro succeeded
        exact ⟨value, rfl, succeeded⟩
      · rintro ⟨other, same, succeeded⟩
        cases same
        exact succeeded

/-- After a success, the next step runs with its result. -/
theorem ok_bind
    (value : β)
    (next : β → Except ε γ) :
    Except.ok value >>= next = next value :=
  rfl

/-- After a failure, the next step does not run. -/
theorem error_bind
    (reason : ε)
    (next : β → Except ε γ) :
    Except.error reason >>= next = .error reason :=
  rfl

theorem pure_eq_ok_iff
    {value result : β} :
    (pure value : Except ε β) = .ok result ↔ value = result := by
  constructor
  · intro same
    cases same
    rfl
  · rintro rfl
    rfl

/-- A question about a graph is answered as a step of a stage as it is answered alone. -/
@[simp] theorem ofGraph_eq_ok_iff
    {answer : Except GraphFault β}
    {result : β} :
    Failure.ofGraph answer = .ok result ↔ answer = .ok result := by
  cases answer <;> simp [Failure.ofGraph, Except.mapError]

@[simp] theorem liftM_eq_ok_iff
    {answer : Except GraphFault β}
    {result : β} :
    (liftM answer : Except Failure β) = .ok result ↔ answer = .ok result :=
  ofGraph_eq_ok_iff

@[simp] theorem ofGraph_ok
    (value : β) :
    Failure.ofGraph (.ok value) = .ok value :=
  rfl

@[simp] theorem mapError_eq_ok_iff
    {δ : Type}
    {reword : ε → δ}
    {step : Except ε β}
    {result : β} :
    step.mapError reword = .ok result ↔ step = .ok result := by
  cases step <;> simp [Except.mapError]

/-- A failure that was reworded comes from one that means the same. -/
theorem mapError_eq_error_iff
    {δ : Type}
    {reword : ε → δ}
    {step : Except ε β}
    {reworded : δ} :
    step.mapError reword = .error reworded ↔
      ∃ reason, step = .error reason ∧ reword reason = reworded := by
  cases step <;> simp [Except.mapError]

theorem toOption_eq_some_iff
    {step : Except ε β}
    {result : β} :
    step.toOption = some result ↔ step = .ok result := by
  cases step <;> simp [Except.toOption]

/-- A list of steps succeeds exactly when each step gives the result at its place. -/
theorem mapM_eq_ok_iff
    {step : β → Except ε γ}
    {items : List β}
    {results : List γ} :
    items.mapM step = .ok results ↔
      List.Forall₂ (fun item result => step item = .ok result) items results := by
  induction items generalizing results with
  | nil =>
      rw [List.mapM_nil, pure_eq_ok_iff, List.forall₂_nil_left_iff]
      exact eq_comm
  | cons item rest inductionHypothesis =>
      rw [List.mapM_cons, List.forall₂_cons_left_iff, bind_eq_ok_iff]
      constructor
      · rintro ⟨result, itemSucceeds, restSucceeds⟩
        obtain ⟨later, laterSucceeds, same⟩ := bind_eq_ok_iff.mp restSucceeds
        exact ⟨result, later, itemSucceeds,
          inductionHypothesis.mp laterSucceeds, (pure_eq_ok_iff.mp same).symm⟩
      · rintro ⟨result, later, itemSucceeds, laterSucceeds, rfl⟩
        exact ⟨result, itemSucceeds,
          bind_eq_ok_iff.mpr ⟨later, inductionHypothesis.mpr laterSucceeds, rfl⟩⟩

/-- A list of steps gives exactly the results of its steps. -/
theorem mapM_eq_ok_iff_map
    {step : β → Except ε γ}
    {items : List β}
    {results : List γ} :
    items.mapM step = .ok results ↔
      results.map some = items.map fun item => (step item).toOption := by
  rw [mapM_eq_ok_iff, eq_comm, ← List.forall₂_eq_eq_eq, List.forall₂_map_left_iff,
    List.forall₂_map_right_iff]
  simp only [toOption_eq_some_iff]

/-- Steps that succeed for each item succeed for all of them. -/
theorem exists_mapM_eq_ok
    {step : β → Except ε γ}
    {items : List β}
    (succeeds : ∀ item ∈ items, ∃ result, step item = .ok result) :
    ∃ results, items.mapM step = .ok results := by
  induction items with
  | nil =>
      exact ⟨[], rfl⟩
  | cons item rest inductionHypothesis =>
      obtain ⟨result, itemSucceeds⟩ := succeeds item (by simp)
      obtain ⟨later, laterSucceeds⟩ :=
        inductionHypothesis fun other member => succeeds other (by simp [member])
      refine ⟨result :: later, mapM_eq_ok_iff.mpr ?_⟩
      exact .cons itemSucceeds (mapM_eq_ok_iff.mp laterSucceeds)

/-- Every result of a list of steps is the result of one of them. -/
theorem exists_of_mem_mapM
    {step : β → Except ε γ}
    {items : List β}
    {results : List γ}
    (succeeded : items.mapM step = .ok results)
    {result : γ}
    (member : result ∈ results) :
    ∃ item ∈ items, step item = .ok result := by
  have paired := mapM_eq_ok_iff.mp succeeded
  clear succeeded
  induction paired with
  | nil =>
      simp at member
  | cons itemSucceeds _ inductionHypothesis =>
      rcases List.mem_cons.mp member with isFirst | isLater
      · subst result
        exact ⟨_, by simp, itemSucceeds⟩
      · obtain ⟨item, itemMember, succeeds⟩ := inductionHypothesis isLater
        exact ⟨item, by simp [itemMember], succeeds⟩

/-- Each item of a list has its result among the results. -/
theorem exists_result_of_mem
    {step : β → Except ε γ}
    {items : List β}
    {results : List γ}
    (succeeded : items.mapM step = .ok results)
    {item : β}
    (member : item ∈ items) :
    ∃ result ∈ results, step item = .ok result := by
  have paired := mapM_eq_ok_iff.mp succeeded
  clear succeeded
  induction paired with
  | nil =>
      simp at member
  | cons itemSucceeds _ inductionHypothesis =>
      rcases List.mem_cons.mp member with isFirst | isLater
      · subst item
        exact ⟨_, by simp, itemSucceeds⟩
      · obtain ⟨result, resultMember, succeeds⟩ := inductionHypothesis isLater
        exact ⟨result, by simp [resultMember], succeeds⟩

/-- Steps that only refuse items succeed together exactly when no item is refused. -/
theorem mapM_checked_eq_ok_iff
    {refuses : β → Bool}
    {reason : β → ε}
    {result : β → γ}
    {items : List β}
    {results : List γ} :
    (items.mapM fun item =>
        if refuses item then Except.error (reason item) else .ok (result item)) = .ok results ↔
      (∀ item ∈ items, refuses item = false) ∧ results = items.map result := by
  induction items generalizing results with
  | nil =>
      rw [List.mapM_nil, pure_eq_ok_iff]
      exact ⟨fun same => ⟨by simp, same.symm⟩, fun same => same.2.symm⟩
  | cons item rest inductionHypothesis =>
      rw [List.mapM_cons, bind_eq_ok_iff]
      cases refused : refuses item with
      | true =>
          simp [refused]
      | false =>
          simp only [Bool.false_eq_true, if_false, bind_eq_ok_iff, inductionHypothesis,
            pure_eq_ok_iff, List.forall_mem_cons, List.map_cons]
          constructor
          · rintro ⟨_, first, _, ⟨accepted, rfl⟩, rfl⟩
            cases first
            exact ⟨⟨refused, accepted⟩, rfl⟩
          · rintro ⟨⟨_, accepted⟩, rfl⟩
            exact ⟨_, rfl, _, ⟨accepted, rfl⟩, rfl⟩

/-- There are as many results as items. -/
theorem length_of_mapM
    {step : β → Except ε γ}
    {items : List β}
    {results : List γ}
    (succeeded : items.mapM step = .ok results) :
    results.length = items.length :=
  (mapM_eq_ok_iff.mp succeeded).length_eq.symm

/-- What each step keeps of its item is kept of all items. -/
theorem map_eq_of_mapM
    {δ : Type}
    {step : β → Except ε γ}
    {items : List β}
    {results : List γ}
    {ofResult : γ → δ}
    {ofItem : β → δ}
    (succeeded : items.mapM step = .ok results)
    (kept : ∀ item result, step item = .ok result → ofResult result = ofItem item) :
    results.map ofResult = items.map ofItem := by
  have paired := mapM_eq_ok_iff.mp succeeded
  clear succeeded
  induction paired with
  | nil =>
      rfl
  | cons first later inductionHypothesis =>
      rw [List.map_cons, List.map_cons, kept _ _ first, inductionHypothesis]

/-- The step at a place of a list gives the result at this place. -/
theorem step_of_mapM
    {step : β → Except ε γ}
    {items : List β}
    {results : List γ}
    (succeeded : items.mapM step = .ok results)
    {position : Nat}
    {item : β}
    {result : γ}
    (isItem : items[position]? = some item)
    (isResult : results[position]? = some result) :
    step item = .ok result := by
  obtain ⟨itemInside, rfl⟩ := List.getElem?_eq_some_iff.mp isItem
  obtain ⟨resultInside, rfl⟩ := List.getElem?_eq_some_iff.mp isResult
  exact (List.forall₂_iff_get.mp (mapM_eq_ok_iff.mp succeeded)).2 position itemInside
    resultInside

/-- Whether a question is answered by yes for some item is told if it is answered for each. -/
theorem exists_anyM_eq_ok
    {question : β → Except ε Bool}
    {items : List β}
    (answered : ∀ item ∈ items, ∃ answer, question item = .ok answer) :
    ∃ answer, items.anyM question = .ok answer := by
  induction items with
  | nil =>
      exact ⟨false, rfl⟩
  | cons head rest inductionHypothesis =>
      obtain ⟨answer, headAnswered⟩ := answered head List.mem_cons_self
      rw [List.anyM_cons, headAnswered, ok_bind]
      cases answer with
      | true =>
          exact ⟨true, rfl⟩
      | false =>
          exact inductionHypothesis fun other member =>
            answered other (List.mem_cons_of_mem _ member)

/-- A question is answered by yes for some item if all answers are given and one is yes. -/
theorem anyM_eq_ok_true
    {question : β → Except ε Bool}
    {items : List β}
    (answered : ∀ item ∈ items, ∃ answer, question item = .ok answer)
    {item : β}
    (member : item ∈ items)
    (holds : question item = .ok true) :
    items.anyM question = .ok true := by
  induction items with
  | nil =>
      simp at member
  | cons head rest inductionHypothesis =>
      obtain ⟨answer, headAnswered⟩ := answered head (by simp)
      rw [List.anyM_cons, headAnswered, ok_bind]
      cases answer with
      | true =>
          rfl
      | false =>
          rcases List.mem_cons.mp member with isHead | isLater
          · subst item
            cases headAnswered.symm.trans holds
          · exact inductionHypothesis
              (fun other otherMember => answered other (by simp [otherMember])) isLater

/-- Items are picked by answered questions, each for the answer yes. -/
theorem exists_filterM_eq_ok
    {question : β → Except ε Bool}
    {items : List β}
    (answered : ∀ item ∈ items, ∃ answer, question item = .ok answer) :
    ∃ kept, items.filterM question = .ok kept ∧
      ∀ item, item ∈ kept ↔ item ∈ items ∧ question item = .ok true := by
  have collected :
      ∀ (earlier : List β), ∃ kept, items.filterAuxM question earlier = .ok kept ∧
        ∀ item, item ∈ kept ↔ item ∈ earlier ∨ item ∈ items ∧ question item = .ok true := by
    induction items with
    | nil =>
        intro earlier
        exact ⟨earlier, rfl, fun item => by simp⟩
    | cons head rest inductionHypothesis =>
        intro earlier
        obtain ⟨answer, headAnswered⟩ := answered head (by simp)
        obtain ⟨kept, succeeded, mem_kept_iff⟩ :=
          inductionHypothesis (fun item member => answered item (by simp [member]))
            (cond answer (head :: earlier) earlier)
        refine ⟨kept, ?_, fun item => ?_⟩
        · rw [List.filterAuxM, headAnswered, ok_bind]
          exact succeeded
        · rw [mem_kept_iff, List.mem_cons]
          by_cases isHead : item = head
          · subst isHead
            cases answer <;> simp [headAnswered]
          · cases answer <;> simp [isHead]
  obtain ⟨kept, succeeded, mem_kept_iff⟩ := collected []
  refine ⟨kept.reverse, bind_eq_ok_iff.mpr ⟨kept, succeeded, rfl⟩, fun item => ?_⟩
  simpa using mem_kept_iff item

/-- What steps from state to state keep holds after all of them. -/
theorem foldlM_keeps
    {keeps : γ → Prop}
    {step : γ → β → Except ε γ}
    {items : List β}
    {start final : γ}
    (succeeded : items.foldlM step start = .ok final)
    (atStart : keeps start)
    (kept :
      ∀ item ∈ items, ∀ before after,
        keeps before → step before item = .ok after → keeps after) :
    keeps final := by
  induction items generalizing start with
  | nil =>
      cases succeeded
      exact atStart
  | cons item rest inductionHypothesis =>
      rw [List.foldlM_cons] at succeeded
      obtain ⟨middle, itemSucceeds, restSucceeds⟩ := bind_eq_ok_iff.mp succeeded
      exact inductionHypothesis restSucceeds
        (kept item (by simp) start middle atStart itemSucceeds)
        fun other member => kept other (by simp [member])

/-- Steps from state to state that succeed as long as something holds, and keep it. -/
theorem exists_foldlM_eq_ok
    {keeps : γ → Prop}
    {step : γ → β → Except ε γ}
    {items : List β}
    {start : γ}
    (atStart : keeps start)
    (advances :
      ∀ item ∈ items, ∀ before, keeps before →
        ∃ after, step before item = .ok after ∧ keeps after) :
    ∃ final, items.foldlM step start = .ok final ∧ keeps final := by
  induction items generalizing start with
  | nil =>
      exact ⟨start, rfl, atStart⟩
  | cons item rest inductionHypothesis =>
      obtain ⟨middle, itemSucceeds, atMiddle⟩ := advances item (by simp) start atStart
      obtain ⟨final, restSucceeds, atFinal⟩ :=
        inductionHypothesis atMiddle fun other member => advances other (by simp [member])
      refine ⟨final, ?_, atFinal⟩
      rw [List.foldlM_cons]
      exact bind_eq_ok_iff.mpr ⟨middle, itemSucceeds, restSucceeds⟩

/-- Steps from state to state that succeed together succeed one by one. -/
theorem exists_step_of_foldlM
    {keeps : γ → Prop}
    {step : γ → β → Except ε γ}
    {items : List β}
    {start final : γ}
    (succeeded : items.foldlM step start = .ok final)
    (atStart : keeps start)
    (kept :
      ∀ item ∈ items, ∀ before after,
        keeps before → step before item = .ok after → keeps after)
    {item : β}
    (member : item ∈ items) :
    ∃ before after, keeps before ∧ step before item = .ok after := by
  induction items generalizing start with
  | nil =>
      cases member
  | cons head rest inductionHypothesis =>
      rw [List.foldlM_cons] at succeeded
      obtain ⟨middle, headSucceeds, restSucceeds⟩ := bind_eq_ok_iff.mp succeeded
      rcases List.mem_cons.mp member with rfl | isLater
      · exact ⟨start, middle, atStart, headSucceeds⟩
      · exact inductionHypothesis restSucceeds
          (kept head List.mem_cons_self start middle atStart headSucceeds)
          (fun other otherMember => kept other (List.mem_cons_of_mem _ otherMember)) isLater

/-- The reason for which a step fails, if it does. -/
def reason? : Except ε β → Option ε
  | .ok _ => none
  | .error reason => some reason

theorem reason?_eq_some_iff
    {step : Except ε β}
    {reason : ε} :
    reason? step = some reason ↔ step = .error reason := by
  cases step <;> simp [reason?]

/-- Every reason for which a step fails has a property. -/
structure FailsOnly (holds : ε → Prop) (step : Except ε β) : Prop where
  of_eq : ∀ {reason : ε}, step = .error reason → holds reason

namespace FailsOnly

variable {holds : ε → Prop}

/-- What succeeds does not fail in another way. -/
theorem ok
    (value : β) :
    FailsOnly holds (.ok value : Except ε β) := by
  constructor
  intro reason failed
  cases failed

/-- A failure of the right kind is one of that kind. -/
theorem error
    {reason : ε}
    (isSo : holds reason) :
    FailsOnly holds (.error reason : Except ε β) := by
  constructor
  intro other failed
  cases failed
  exact isSo

/-- What fails only in one way fails only in ways that follow from it. -/
theorem imp
    {weaker : ε → Prop}
    {step : Except ε β}
    (stepFails : FailsOnly holds step)
    (follows : ∀ reason, holds reason → weaker reason) :
    FailsOnly weaker step :=
  ⟨fun failed => follows _ (stepFails.of_eq failed)⟩

/-- Two steps that fail only in one way do so together. -/
theorem bind
    {first : Except ε β}
    {next : β → Except ε γ}
    (firstFails : FailsOnly holds first)
    (nextFails : ∀ value, first = .ok value → FailsOnly holds (next value)) :
    FailsOnly holds (first >>= next) := by
  constructor
  intro reason failed
  cases isFirst : first with
  | error firstReason =>
      rw [isFirst] at failed
      cases failed
      exact firstFails.of_eq isFirst
  | ok value =>
      rw [isFirst] at failed
      exact (nextFails value isFirst).of_eq failed

/-- Steps over a list that fail only in one way do so together. -/
theorem mapM
    {step : β → Except ε γ}
    {items : List β}
    (stepFails : ∀ item ∈ items, FailsOnly holds (step item)) :
    FailsOnly holds (items.mapM step) := by
  induction items with
  | nil =>
      exact ok []
  | cons item rest inductionHypothesis =>
      rw [List.mapM_cons]
      refine bind (stepFails item (by simp)) fun _ _ => ?_
      exact bind (inductionHypothesis fun other member => stepFails other (by simp [member]))
        fun _ _ => ok _

/-- Steps one after another that fail only in one way do so together. -/
theorem foldlM
    {step : γ → β → Except ε γ}
    {items : List β}
    {start : γ}
    (stepFails : ∀ before, ∀ item ∈ items, FailsOnly holds (step before item)) :
    FailsOnly holds (items.foldlM step start) := by
  induction items generalizing start with
  | nil =>
      exact ok start
  | cons item rest inductionHypothesis =>
      rw [List.foldlM_cons]
      exact bind (stepFails start item (by simp)) fun _ _ =>
        inductionHypothesis fun before other member => stepFails before other (by simp [member])

end FailsOnly

/-- A step gives only results of one kind and fails only for reasons of another. -/
inductive Ends (well : β → Prop) (ill : ε → Prop) : Except ε β → Prop where
  | ok {result : β} (isSo : well result) : Ends well ill (.ok result)
  | error {reason : ε} (isSo : ill reason) : Ends well ill (.error reason)

namespace Ends

variable {well : β → Prop} {final : γ → Prop} {ill : ε → Prop} {step : Except ε β}

/-- What succeeded ended well. -/
theorem of_ok
    {result : β}
    (ends : Ends well ill step)
    (succeeded : step = .ok result) :
    well result := by
  subst succeeded
  cases ends with
  | ok isSo =>
      exact isSo

/-- What ends well or ill fails only ill. -/
theorem failsOnly
    (ends : Ends well ill step) :
    FailsOnly ill step := by
  cases ends with
  | ok _ =>
      exact .ok _
  | error isSo =>
      exact .error isSo

/-- A step ends well if it does so after all that the first step may end with. -/
theorem bind
    {next : β → Except ε γ}
    (stepEnds : Ends well ill step)
    (nextEnds : ∀ result, well result → Ends final ill (next result)) :
    Ends final ill (step >>= next) := by
  cases stepEnds with
  | ok isSo =>
      exact nextEnds _ isSo
  | error isSo =>
      exact .error isSo

theorem map
    {change : β → γ}
    (stepEnds : Ends well ill step)
    (follows : ∀ result, well result → final (change result)) :
    Ends final ill (step.map change) := by
  cases stepEnds with
  | ok isSo =>
      exact .ok (follows _ isSo)
  | error isSo =>
      exact .error isSo

/-- What ends well ends in each way that follows from it. -/
theorem imp
    {weaker : β → Prop}
    (ends : Ends well ill step)
    (follows : ∀ result, well result → weaker result) :
    Ends weaker ill step := by
  cases ends with
  | ok isSo =>
      exact .ok (follows _ isSo)
  | error isSo =>
      exact .error isSo

/-- Steps that keep something end with it, if they end well. -/
theorem foldlM
    {ι : Type}
    {keeps : γ → Prop}
    {step : γ → ι → Except ε γ}
    {items : List ι}
    {start : γ}
    (atStart : keeps start)
    (stepEnds : ∀ item ∈ items, ∀ before, keeps before → Ends keeps ill (step before item)) :
    Ends keeps ill (items.foldlM step start) := by
  induction items generalizing start with
  | nil =>
      exact .ok atStart
  | cons item rest inductionHypothesis =>
      rw [List.foldlM_cons]
      exact bind (stepEnds item List.mem_cons_self start atStart) fun middle atMiddle =>
        inductionHypothesis atMiddle fun other member =>
          stepEnds other (List.mem_cons_of_mem _ member)

end Ends

/-- Two steps agree: both of them fail, or both succeed with related results. -/
inductive Agree {δ : Type} (related : β → δ → Prop) : Except ε β → Except ε δ → Prop where
  | ok {first : β} {second : δ} (isRelated : related first second) :
      Agree related (.ok first) (.ok second)
  | error (first second : ε) :
      Agree related (.error first) (.error second)

namespace Agree

variable {δ κ : Type} {related : β → δ → Prop} {first : Except ε β} {second : Except ε δ}

/-- Steps that agree on related values agree one after another. -/
theorem bind
    {final : γ → κ → Prop}
    {next : β → Except ε γ}
    {other : δ → Except ε κ}
    (agree : Agree related first second)
    (nextAgree :
      ∀ value another, related value another → Agree final (next value) (other another)) :
    Agree final (first >>= next) (second >>= other) := by
  cases agree with
  | ok isRelated =>
      exact nextAgree _ _ isRelated
  | error _ _ =>
      exact .error _ _

/-- A step agrees with itself. -/
theorem refl
    (step : Except ε β) :
    Agree Eq step step := by
  cases step with
  | ok value =>
      exact .ok rfl
  | error reason =>
      exact .error _ _

/-- After a common step, two sequences agree if what follows does. -/
theorem bindSame
    {final : γ → κ → Prop}
    {next : β → Except ε γ}
    {other : β → Except ε κ}
    (nextAgree : ∀ value, Agree final (next value) (other value)) :
    Agree final (first >>= next) (first >>= other) := by
  cases first with
  | ok value =>
      exact nextAgree value
  | error _ =>
      exact .error _ _

/-- Steps that agree item by item agree on the whole list. -/
theorem mapM
    {ι : Type}
    {step : ι → Except ε β}
    {other : ι → Except ε δ}
    {items : List ι}
    (stepsAgree : ∀ item ∈ items, Agree related (step item) (other item)) :
    Agree (List.Forall₂ related) (items.mapM step) (items.mapM other) := by
  induction items with
  | nil =>
      exact .ok .nil
  | cons item rest inductionHypothesis =>
      rw [List.mapM_cons, List.mapM_cons]
      refine .bind (stepsAgree item (by simp)) fun _ _ isRelated => ?_
      refine .bind (inductionHypothesis fun one member => stepsAgree one (by simp [member])) ?_
      exact fun _ _ areRelated => .ok (.cons isRelated areRelated)

/-- Where one of two steps that agree succeeds, the other one does. -/
theorem exists_ok
    {result : β}
    (agree : Agree related first second)
    (succeeded : first = .ok result) :
    ∃ other, second = .ok other ∧ related result other := by
  subst succeeded
  cases agree with
  | ok isRelated =>
      exact ⟨_, rfl, isRelated⟩

theorem toOption_eq
    {change : β → δ}
    (agree : Agree (fun value another => another = change value) first second) :
    second.toOption = first.toOption.map change := by
  cases agree with
  | ok isRelated =>
      simp [Except.toOption, isRelated]
  | error _ _ =>
      rfl

end Agree

end BoxDiagram.Attempt
