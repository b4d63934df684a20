import AgentFleet.Database.Fencing
import AgentFleet.Graph.Schedule

/-! # Graphs run by their schedule

The schedule of `Graph.Schedule` in every reachable database, and what later databases keep of
the nodes.

* `database_scheduled` carries `GraphTables.Scheduled` to every reachable database.
* `nodes_follow` says that a node which has ended is frozen in every later database.
* `dispatch_checked` says what `transition_node` found when it let a node run. -/

namespace AgentFleet

open Relational Transaction Transition

variable {svc : DatabaseServices} {d d' : Database}

theorem scheduled_move (h : DatabaseMove svc d d') (hs : d.graphs.Sound svc.toGraphServices)
    (hscheduled : d.graphs.Scheduled) : d'.graphs.Scheduled := by
  cases h with
  | store _ _ hgraphs | ledger _ _ hgraphs =>
      rw [hgraphs]
      exact hscheduled
  | graph _ heffect => exact scheduled_step hs hscheduled heffect

/-- The graphs of every reachable database are scheduled. -/
theorem database_scheduled (svc : DatabaseServices) (store : Store)
    (inputs : List DatabaseInput) :
    ((databaseMachine svc).run (Database.fresh store) inputs).graphs.Scheduled := by
  have hinvariant := (databaseMoves svc).invariant
    (I := fun d => d.graphs.Sound svc.toGraphServices ∧ d.graphs.Scheduled)
    fun d d' hmove hI => ⟨sound_move hmove hI.1, scheduled_move hmove hI.1 hI.2⟩
  exact (hinvariant.run ⟨GraphTables.sound_empty _, GraphTables.scheduled_empty⟩ inputs).2

/-- Every node is still there in a later database, and as it was once it has ended. -/
theorem nodes_follow (svc : DatabaseServices) (d : Database) (inputs : List DatabaseInput) :
    Table.Carries NodeFollows d.graphs.nodes
      ((databaseMachine svc).run d inputs).graphs.nodes := by
  refine (databaseMoves svc).rel (I := fun _ => True)
    (Q := fun d d' => Table.Carries NodeFollows d.graphs.nodes d'.graphs.nodes)
    (fun _ _ _ _ => trivial) (fun _ => .refl NodeFollows.refl _)
    (fun _ _ _ h h' => h.trans NodeFollows.trans h') (fun d d' hmove _ => ?_) trivial inputs
  cases hmove with
  | store _ _ hgraphs | ledger _ _ hgraphs =>
      rw [hgraphs]
      exact .refl NodeFollows.refl _
  | graph _ heffect => exact nodesFollow_step heffect

/-- `transition_node` lets a node run when it may be dispatched with these inputs. -/
theorem dispatch_checked {input : DatabaseInput} {claim : GraphDriverClaim}
    {args : NodeTransition} {result : DatabaseResult}
    (hop : input.op = .graph (.transitionNode claim args)) (htarget : args.target = .running)
    (h : databaseBody svc input.reads input.amb input.op d = .ok (result, d')) :
    ∃ graph record, GraphOwned svc.toGraphServices d.graphs claim graph ∧ record ∈ graph.nodes
      ∧ record.binding.nodeId = args.nodeId ∧ Dispatchable graph record args.inputArtifacts := by
  rw [hop] at h
  obtain ⟨_, h, -⟩ := map_ok.mp h
  obtain ⟨s, hs, -⟩ := onGraphs_ok.mp h
  obtain ⟨-, graph, record, hmoved⟩ := transitionNode_ok hs
  exact ⟨graph, record, hmoved.owned, hmoved.found, hmoved.named, hmoved.dispatched htarget⟩

/-- In every reachable database each running node has all its dependencies succeeded and holds
exactly their outputs in the order of their identifiers, and no graph runs more nodes than its
plan allows; `transition_node` checks this of the graph as it finds it; and every later database
has the same rows of the nodes that have ended, their outputs included. -/
theorem graph_scheduling (svc : DatabaseServices) (store : Store)
    (before after : List DatabaseInput) :
    let m := databaseMachine svc
    let d := m.run (Database.fresh store) before
    d.graphs.Scheduled
      ∧ (∀ record ∈ d.graphs.nodes, record.status = .running → Fed d.graphs record)
      ∧ (∀ input claim args result, input.op = .graph (.transitionNode claim args) →
        args.target = .running → m.out d input = .ok result →
          ∃ graph record, GraphOwned svc.toGraphServices d.graphs claim graph
            ∧ record ∈ graph.nodes ∧ record.binding.nodeId = args.nodeId
            ∧ Dispatchable graph record args.inputArtifacts)
      ∧ Table.Carries NodeFollows d.graphs.nodes (m.run d after).graphs.nodes := by
  intro m d
  have hs : d.graphs.Sound svc.toGraphServices := database_sound svc store before
  have hscheduled : d.graphs.Scheduled := database_scheduled svc store before
  refine ⟨hscheduled, fun record hrecord hrunning => ?_,
    fun input claim args result hop htarget hout =>
      dispatch_checked hop htarget (committed_of_out hout),
    nodes_follow svc d after⟩
  obtain ⟨row, hrow, hid⟩ := hs.nodes record hrecord
  exact (hscheduled row hrow).fed record (GraphTables.mem_nodesOf.mpr ⟨hrecord, hid.symm⟩)
    hrunning

end AgentFleet
