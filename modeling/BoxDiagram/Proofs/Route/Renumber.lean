import BoxDiagram.Compiler.Basic
import BoxDiagram.Proofs.Attempt

namespace BoxDiagram

open Attempt (Agree)

/-!
# Links are planned one by one

The number of a link stands in its route and in the errors about it, and nowhere
else does planning depend on it.  A planner therefore gives every link the way
that the link alone has, whatever other links there are.
-/

variable {α : Type}

/-- The same way for a link with another number. -/
def Route.renumber (route : Route) (id : LinkId) : Route :=
  { route with link := id }

/-- The same ends for a link with another number. -/
def LinkEnds.renumber (ends : LinkEnds) (id : LinkId) : LinkEnds :=
  { ends with id := id }

namespace LinkEnds

variable {graph : Graph α} {ends : LinkEnds}

/-- Whether an end is accepted does not depend on the number of the link. -/
theorem checkEndpoint_agree
    (first second : LinkId)
    (endpoint : Endpoint) :
    Agree Eq (checkEndpoint graph first endpoint) (checkEndpoint graph second endpoint) := by
  rw [checkEndpoint, checkEndpoint]
  split
  · exact .ok rfl
  · exact .error _ _

/-- The ends of a link depend on its number in name only. -/
theorem ofLink_agree
    (first id : LinkId)
    (link : Link) :
    Agree (fun ends other => other = ends.renumber id)
      (ofLink graph first link) (ofLink graph id link) := by
  refine .bind (checkEndpoint_agree first id _) fun _ _ _ => ?_
  refine .bind (checkEndpoint_agree first id _) fun _ _ _ => ?_
  refine .bindSame fun isRelated => ?_
  cases isRelated with
  | true =>
      exact .bindSame fun _ => .bindSame fun _ => .error _ _
  | false =>
      refine .bindSame fun common => ?_
      cases common with
      | some common =>
          exact .ok rfl
      | none =>
          exact .error _ _

/-- Whether a road reaches an end does not depend on the number of the link. -/
theorem requireReach_agree
    (id : LinkId)
    (endpoint : Endpoint)
    (road : Road)
    (which : String) :
    Agree Eq (ends.requireReach graph endpoint road which)
      ((ends.renumber id).requireReach graph endpoint road which) := by
  refine .bindSame fun reached => ?_
  cases reached with
  | true =>
      exact .ok rfl
  | false =>
      exact .bindSame fun _ => .error _ _

/-- Whether a route is verified does not depend on the number of the link. -/
theorem verify_agree
    (id : LinkId)
    (route : Route) :
    Agree Eq (ends.verify graph route) ((ends.renumber id).verify graph (route.renumber id)) := by
  have sameRoads : (route.renumber id).roads = route.roads := rfl
  rw [verify, verify, sameRoads]
  cases route.roads.head? with
  | none =>
      exact .error _ _
  | some first =>
      cases route.roads.getLast? with
      | none =>
          exact .error _ _
      | some last =>
          refine .bind (requireReach_agree id _ _ _) fun _ _ _ => ?_
          exact requireReach_agree id _ _ _

end LinkEnds

namespace Topological

variable {graph : Graph α} {ends : LinkEnds}

theorem branch_agree
    (id : LinkId)
    (box : NodeId) :
    Agree Eq (branch graph ends box) (branch graph (ends.renumber id) box) := by
  refine .bindSame fun levels => .bindSame fun found => ?_
  cases found with
  | some found =>
      exact .ok rfl
  | none =>
      exact .error _ _

/-- The joins of a link do not depend on its number. -/
theorem candidates_agree
    (id : LinkId)
    (limit : Nat) :
    Agree Eq (candidates graph ends limit) (candidates graph (ends.renumber id) limit) := by
  refine .bindSame fun common => .bindSame fun sources => .bindSame fun targets => ?_
  refine .bind (branch_agree id _) fun source other sameSource => ?_
  refine .bind (branch_agree id _) fun target another sameTarget => ?_
  rw [← sameSource, ← sameTarget]
  exact .refl _

/-- The best join does not depend on the number of the link. -/
theorem bestJoin_agree
    (id : LinkId)
    (limit : Nat) :
    Agree Eq (bestJoin graph ends limit) (bestJoin graph (ends.renumber id) limit) :=
  .bind (candidates_agree id limit) fun _ _ same => .ok (congrArg cheapest same)

/-- A route depends on the number of its link in name only. -/
theorem routeLink_agree
    (id : LinkId)
    (limit : Nat) :
    Agree (fun route other => other = route.renumber id)
      (routeLink graph ends limit) (routeLink graph (ends.renumber id) limit) := by
  refine .bind (bestJoin_agree id limit) fun join other same => ?_
  rw [← same]
  cases join with
  | some join =>
      exact .ok rfl
  | none =>
      exact .bindSame fun _ => .bindSame fun _ => .error _ _

/-- A planned route depends on the number of its link in name only. -/
theorem planLink_agree
    (limit : Nat)
    (first id : LinkId)
    (link : Link) :
    Agree (fun route other => other = route.renumber id)
      (planLink graph limit first link) (planLink graph limit id link) := by
  refine .bind (LinkEnds.ofLink_agree first id link) fun ends other same => ?_
  rw [same]
  refine .bind (routeLink_agree id limit) fun route other same => ?_
  rw [same]
  exact .bind (LinkEnds.verify_agree id route) fun _ _ _ => .ok rfl

end Topological

namespace Search.Task

variable [Scalar α] {task : Task α}

/-- The same search for a link with another number. -/
def renumber (task : Task α) (id : LinkId) : Task α :=
  { task with ends := task.ends.renumber id }

theorem turn?_renumber
    (id : LinkId)
    (progress : Progress α)
    (entries : List (Entry α)) :
    (task.renumber id).turn? progress entries = task.turn? progress entries := by
  induction entries with
  | nil =>
      rfl
  | cons entry rest inductionHypothesis =>
      rw [turn?, turn?, inductionHypothesis]
      rfl

/-- A search depends on the number of its link in name only. -/
theorem search_renumber
    (id : LinkId)
    (turns : Nat)
    (progress : Progress α) :
    Agree (fun found other => other = found.map (·.renumber id))
      (task.search turns progress) ((task.renumber id).search turns progress) := by
  induction turns generalizing progress with
  | zero =>
      exact .ok rfl
  | succ turns inductionHypothesis =>
      rw [search, search, turn?_renumber]
      split
      · exact .ok rfl
      · exact .ok rfl
      · split
        · exact .ok rfl
        · exact .bindSame fun next => inductionHypothesis next

/-- A run depends on the number of its link in name only. -/
theorem run_agree
    (id : LinkId) :
    Agree (fun found other => other = found.map (·.renumber id))
      task.run (task.renumber id).run :=
  .bindSame fun progress => search_renumber id _ progress

/-- A task depends on the number of its link in name only. -/
theorem ofEnds_agree
    {graph : Graph α}
    {ends : LinkEnds}
    (reference : Reference α)
    (config : RouteConfig)
    (id : LinkId) :
    Agree (fun task other => other = task.renumber id)
      (ofEnds graph reference config ends) (ofEnds graph reference config (ends.renumber id)) := by
  refine .bindSame fun _ => .bindSame fun _ => .bindSame fun _ => .bindSame fun _ => ?_
  refine .bindSame fun _ => .bindSame fun _ => .bindSame fun _ => .bindSame fun _ => ?_
  exact .ok rfl

end Search.Task

namespace RoutePlanner

variable [Scalar α]

/-- A route that is searched depends on the number of its link in name only. -/
theorem searchLink_agree
    {input : PlannerInput α}
    (reference : Reference α)
    (first id : LinkId)
    (link : Link) :
    Agree (fun route other => other = route.renumber id)
      (searchLink input reference first link) (searchLink input reference id link) := by
  refine .bind (LinkEnds.ofLink_agree first id link) fun ends other same => ?_
  rw [same]
  refine .bind (Search.Task.ofEnds_agree reference input.config id) fun task other same => ?_
  rw [same]
  refine .bind (task.run_agree id) fun found other same => ?_
  rw [same]
  cases found with
  | some route =>
      simp only [Option.map_some, pure_bind]
      exact .bind (LinkEnds.verify_agree id route) fun _ _ _ => .ok rfl
  | none =>
      refine .bind (Topological.routeLink_agree id _) fun route other same => ?_
      rw [same]
      exact .bind (LinkEnds.verify_agree id route) fun _ _ _ => .ok rfl

omit [Scalar α] in
/-- Planning a list of links link by link gives each link its own way with its number. -/
theorem mapM_plan_eq_ok_iff
    {plan : LinkId → Link → Except Failure Route}
    (agree :
      ∀ first id link,
        Agree (fun route other => other = route.renumber id) (plan first link) (plan id link))
    {links : List Link}
    {routes : List Route} :
    (links.zipIdx.mapM fun (link, id) => plan id link) = .ok routes ↔
      routes.map some =
        links.zipIdx.map fun (link, id) => (plan 0 link).toOption.map (·.renumber id) := by
  rw [Attempt.mapM_eq_ok_iff_map]
  have ways (entry : Link × LinkId) :
      (plan entry.2 entry.1).toOption =
        (plan 0 entry.1).toOption.map (·.renumber entry.2) :=
    (agree 0 entry.2 entry.1).toOption_eq
  simp only [ways]

/-- A planner gives each link a way of its own, and its number. -/
theorem exists_way
    (kind : PlannerKind)
    (graph : Graph α)
    (config : RouteConfig)
    (reference : Unit → Except Failure (Layout α)) :
    ∃ way : Link → Option Route, ∀ links routes,
      ofKind kind { graph, links, config, reference } = .ok routes ↔
        routes.map some =
          links.zipIdx.map fun (link, id) => (way link).map (·.renumber id) := by
  cases kind with
  | topological =>
      refine ⟨fun link => (Topological.planLink graph config.depthLimit 0 link).toOption, ?_⟩
      intro links routes
      exact mapM_plan_eq_ok_iff (Topological.planLink_agree config.depthLimit)
  | geometric =>
      -- Without a layout to search in, only the empty list of links is planned.
      let plan (layout : Layout α) (id : LinkId) (link : Link) : Except Failure Route :=
        searchLink { graph, links := [], config, reference } (.ofLayout graph layout) id link
      refine ⟨fun link => (reference () >>= fun layout => plan layout 0 link).toOption, ?_⟩
      intro links routes
      cases links with
      | nil =>
          change Except.ok [] = Except.ok routes ↔ _
          rw [Except.ok.injEq, List.zipIdx_nil, List.map_nil, List.map_eq_nil_iff]
          exact eq_comm
      | cons link rest =>
          change
            (reference () >>= fun layout =>
              (link :: rest).zipIdx.mapM fun (link, id) => plan layout id link) = _ ↔ _
          cases reference () with
          | error _ =>
              constructor
              · intro failed
                cases failed
              · intro ways
                cases routes <;> cases ways
          | ok layout =>
              have agree (first id : LinkId) (link : Link) :
                  Agree (fun route other => other = route.renumber id)
                    (plan layout first link) (plan layout id link) :=
                searchLink_agree _ first id link
              exact mapM_plan_eq_ok_iff agree

end RoutePlanner

end BoxDiagram
