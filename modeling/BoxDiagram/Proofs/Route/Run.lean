import BoxDiagram.Proofs.Route.Search

namespace BoxDiagram

/-!
# Runs of a search, turn by turn

A run goes from what is known at the start to what is known after each turn, until
it arrives or gives up.  What every turn keeps therefore holds of all that a run
reaches, and a run that gives up has continued all walks or has used up its turns.
-/

namespace Search

variable {α : Type} [Scalar α] {task : Task α} {progress : Progress α} {turns : Nat}

/-- A run knows something when it has a number of turns left. -/
inductive Task.Reaches (task : Task α) : Nat → Progress α → Prop where
  | start
      {progress : Progress α}
      (started : task.start = .ok progress) :
      Reaches task (maxExpansions + 1) progress
  | proceed
      {turns index : Nat}
      {before after : Progress α}
      {walk : Walk α}
      {rest : List (Entry α)}
      (earlier : Reaches task (turns + 1) before)
      (turned : task.turn? before before.queue = some (.proceed index walk rest))
      (left : turns ≠ 0)
      (expanded : task.expand { before with queue := rest } index walk = .ok after) :
      Reaches task turns after

/-- How a run ends: it arrives, or no walk waits any more, or no turn is left. -/
inductive Task.EndsWith (task : Task α) : Option Route → Prop where
  | arrived
      {turns index : Nat}
      {progress : Progress α}
      {walk : Walk α}
      {exit : Direction}
      (reached : task.Reaches (turns + 1) progress)
      (turned : task.turn? progress progress.queue = some (.arrived index walk exit)) :
      EndsWith task (some (task.route progress index walk exit))
  | exhausted
      {turns : Nat}
      {progress : Progress α}
      (reached : task.Reaches (turns + 1) progress)
      (turned : task.turn? progress progress.queue = none) :
      EndsWith task none
  | stopped
      {index : Nat}
      {progress : Progress α}
      {walk : Walk α}
      {rest : List (Entry α)}
      (reached : task.Reaches 1 progress)
      (turned : task.turn? progress progress.queue = some (.proceed index walk rest)) :
      EndsWith task none

/-- What a search answers behind a state is what the run ends with. -/
theorem Task.Reaches.endsWith
    {answer : Option Route}
    (reached : task.Reaches turns progress)
    (left : turns ≠ 0)
    (answered : task.search turns progress = .ok answer) :
    task.EndsWith answer := by
  induction turns generalizing progress with
  | zero =>
      exact absurd rfl left
  | succ turns inductionHypothesis =>
      rw [Task.search] at answered
      cases turned : task.turn? progress progress.queue with
      | none =>
          simp only [turned] at answered
          cases answered
          exact .exhausted reached turned
      | some turn =>
          cases turn with
          | arrived index walk exit =>
              simp only [turned] at answered
              cases answered
              exact .arrived reached turned
          | proceed index walk rest =>
              simp only [turned] at answered
              split at answered
              · subst turns
                cases answered
                exact .stopped reached turned
              · obtain ⟨next, expanded, answered⟩ := Attempt.bind_eq_ok_iff.mp answered
                exact inductionHypothesis (.proceed reached turned ‹_› expanded) ‹_› answered

/-- What a run answers is what it ends with. -/
theorem Task.endsWith_of_run
    {answer : Option Route}
    (answered : task.run = .ok answer) :
    task.EndsWith answer := by
  obtain ⟨progress, started, answered⟩ := Attempt.bind_eq_ok_iff.mp answered
  exact Task.Reaches.endsWith (.start started) (Nat.succ_ne_zero _) answered

variable {source target common : Node α} {climb descent : Nat}

/-- All walks that a run reaches lead from the source by turns. -/
theorem Task.Reaches.areWalks
    (sound : task.IsSound source target common climb descent)
    (reached : task.Reaches turns progress) :
    AreWalks task progress.walks := by
  induction reached with
  | start started =>
      exact areWalks_start sound started
  | proceed earlier turned left expanded inductionHypothesis =>
      exact areWalks_expand sound expanded inductionHypothesis (isTurn_of_turn? turned)

/-- A route that a search finds is a walk between the ends of the link. -/
theorem isWalk_of_run
    (sound : task.IsSound source target common climb descent)
    {route : Route}
    (succeeded : task.run = .ok (some route)) :
    ∃ sourceExit targetExit roads,
      route = task.ends.route sourceExit targetExit roads ∧
        task.graph.IsWalk task.ends.common task.ends.source task.ends.target sourceExit
          targetExit roads := by
  cases Task.endsWith_of_run succeeded with
  | arrived reached turned =>
      obtain ⟨isReached, isGoal⟩ := isTurn_of_turn? turned
      obtain ⟨roads, isRoute, isWalk⟩ :=
        isWalk_of_arrived sound (reached.areWalks sound) isReached isGoal
      exact ⟨_, _, roads, isRoute, isWalk⟩

end Search

end BoxDiagram
