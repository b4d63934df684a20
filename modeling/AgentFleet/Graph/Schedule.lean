import AgentFleet.Graph.Invariants
import Mathlib.Data.String.Basic

/-! # The schedule of a graph

A node starts to run when the nodes it depends on have succeeded, on what they delivered, and
while the plan leaves room for it.

* `nodesOf_congr` and `nodesOf_withNode` say how the sorted nodes of a graph change.
* `GraphTables.Scheduled` says that every running node was started so and that the plan still
  has room for all of them; `scheduled_step` carries it through the operations.
* `NodeFollows` relates a node's row to a later one: a node that has ended is frozen. -/

namespace AgentFleet

open Relational

variable {svc : GraphServices} {T T' : GraphTables}

/-! ### The nodes of a graph in order -/

theorem GraphTables.sorted_nodesOf (T : GraphTables) (parentRunId : String) :
    (T.nodesOf parentRunId).Pairwise fun a b => a.binding.nodeId ≤ b.binding.nodeId := by
  have hsorted := @List.pairwise_mergeSort GraphNodeRecord
    (fun a b => decide (a.binding.nodeId ≤ b.binding.nodeId)) (fun a b c hab hbc => ?_)
    (fun a b => ?_)
    (T.nodes.rows.filter fun record => record.binding.parentRunId = parentRunId)
  · exact hsorted.imp of_decide_eq_true
  · rw [decide_eq_true_eq] at hab hbc ⊢
    exact le_trans hab hbc
  · rw [Bool.or_eq_true, decide_eq_true_eq, decide_eq_true_eq]
    exact le_total _ _

theorem GraphTables.nodup_nodesOf (T : GraphTables) (parentRunId : String) :
    (T.nodesOf parentRunId).Nodup := by
  refine (T.pairwise_nodesOf parentRunId).imp fun h heq => h ?_
  rw [heq]
  exact .inl ⟨rfl, rfl⟩

/-- The sorted nodes of a graph depend on its rows alone. -/
theorem nodesOf_congr {parentRunId : String} (h : ∀ record : GraphNodeRecord,
    record.binding.parentRunId = parentRunId → (record ∈ T'.nodes ↔ record ∈ T.nodes)) :
    T'.nodesOf parentRunId = T.nodesOf parentRunId := by
  have hmem : ∀ m, m ∈ T'.nodesOf parentRunId ↔ m ∈ T.nodesOf parentRunId := by
    intro m
    rw [GraphTables.mem_nodesOf, GraphTables.mem_nodesOf]
    exact and_congr_left fun hid => h m hid
  have hperm : (T'.nodesOf parentRunId).Perm (T.nodesOf parentRunId) :=
    (List.perm_ext_iff_of_nodup (T'.nodup_nodesOf _) (T.nodup_nodesOf _)).mpr hmem
  refine hperm.eq_of_pairwise (fun a b ha hb hab hba => ?_) (T'.sorted_nodesOf _)
    (T.sorted_nodesOf _)
  obtain ⟨hrow, hid⟩ := GraphTables.mem_nodesOf.mp ((hmem a).mp ha)
  obtain ⟨hrow', hid'⟩ := GraphTables.mem_nodesOf.mp hb
  exact Table.eq_of_clash hrow hrow' (.inl ⟨hid.trans hid'.symm, le_antisymm hab hba⟩)

variable {record : GraphNodeRecord} {parentRunId : String} {r r' : Records}

/-- A node is written in its place. -/
theorem nodesOf_withNode {updated : GraphNodeRecord} (hmem : record ∈ T.nodes)
    (hbinding : updated.binding = record.binding) :
    ∃ l₁ l₂, T.nodesOf record.binding.parentRunId = l₁ ++ record :: l₂
      ∧ (T.withNode updated).nodesOf record.binding.parentRunId = l₁ ++ updated :: l₂ := by
  have hwritten : ∀ a : GraphNodeRecord, (updated.written a).binding = a.binding := fun _ => rfl
  obtain ⟨f, hf⟩ : ∃ f : GraphNodeRecord → GraphNodeRecord, f = fun a =>
      if (decide (a.binding.parentRunId = updated.binding.parentRunId)
        && decide (a.binding.nodeId = updated.binding.nodeId)) = true then updated.written a
      else a := ⟨_, rfl⟩
  have hkeeps : ∀ a, (f a).binding = a.binding := by
    intro a
    rw [hf]
    dsimp only
    split_ifs
    · exact hwritten a
    · rfl
  have hnodes : (T.withNode updated).nodesOf record.binding.parentRunId
      = (T.nodesOf record.binding.parentRunId).map f := by
    have hrows : (T.withNode updated).nodes.rows = T.nodes.rows.map f := by
      rw [hf]
      rfl
    unfold GraphTables.nodesOf
    rw [hrows, List.filter_map, List.map_mergeSort (s := fun a b : GraphNodeRecord =>
      decide (a.binding.nodeId ≤ b.binding.nodeId)) fun a _ b _ => by rw [hkeeps a, hkeeps b]]
    have hselected : T.nodes.rows.filter ((fun m =>
        decide (m.binding.parentRunId = record.binding.parentRunId)) ∘ f)
        = T.nodes.rows.filter fun m =>
          decide (m.binding.parentRunId = record.binding.parentRunId) :=
      List.filter_congr fun a _ => by rw [Function.comp_apply, hkeeps a]
    rw [hselected]
  have hself : f record = updated := by
    rw [hf]
    dsimp only
    rw [hbinding, if_pos (by simp)]
    unfold GraphNodeRecord.written
    rw [← hbinding]
  have hother : ∀ a, ¬ clash a record → f a = a := by
    intro a hclash
    rw [hf]
    dsimp only
    rw [hbinding, if_neg]
    rw [Bool.and_eq_true, decide_eq_true_eq, decide_eq_true_eq]
    exact fun hsame => hclash (.inl hsame)
  obtain ⟨l₁, l₂, hsplit⟩ :=
    List.append_of_mem (GraphTables.mem_nodesOf.mpr ⟨hmem, rfl⟩)
  have hpairs := T.pairwise_nodesOf record.binding.parentRunId
  rw [hsplit, List.pairwise_append, List.pairwise_cons] at hpairs
  obtain ⟨-, ⟨hafter, -⟩, hbefore⟩ := hpairs
  have hleft : l₁.map f = l₁ := by
    conv_rhs => rw [← List.map_id l₁]
    exact List.map_congr_left fun a ha => hother a (hbefore a ha record List.mem_cons_self)
  have hright : l₂.map f = l₂ := by
    conv_rhs => rw [← List.map_id l₂]
    refine List.map_congr_left fun a ha => hother a fun hc => ?_
    exact hafter a ha (Constrained.symm _ _ hc)
  refine ⟨l₁, l₂, hsplit, ?_⟩
  rw [hnodes, hsplit, List.map_append, List.map_cons, hself, hleft, hright]

/-! ### Dependencies -/

/-- The nodes that a node depends on, in the order of their identifiers. -/
def GraphTables.dependenciesOf (T : GraphTables) (record : GraphNodeRecord) :
    List GraphNodeRecord :=
  (T.nodesOf record.binding.parentRunId).filter fun item =>
    record.node.dependsOn.contains item.binding.nodeId

/-- A node has its dependencies, all of them succeeded, and holds what they delivered. -/
structure Fed (T : GraphTables) (record : GraphNodeRecord) : Prop where
  known : ∀ nodeId ∈ record.node.dependsOn, ∃ item ∈ T.dependenciesOf record,
    item.binding.nodeId = nodeId
  succeeded : ∀ item ∈ T.dependenciesOf record, item.status = .succeeded
  inputs : record.inputArtifacts
    = (T.dependenciesOf record).flatMap GraphNodeRecord.outputArtifacts

theorem GraphRead.dependencies {graph : GraphSnapshot} (h : GraphRead svc T graph)
    (hid : record.binding.parentRunId = graph.parentRunId) :
    graph.dependencies record = T.dependenciesOf record := by
  unfold GraphSnapshot.dependencies GraphTables.dependenciesOf
  rw [h.nodes, hid]

/-- As many dependencies as the plan names are all that the plan names. -/
theorem known_of_length (h : (T.dependenciesOf record).length = record.node.dependsOn.length) :
    ∀ nodeId ∈ record.node.dependsOn, ∃ item ∈ T.dependenciesOf record,
      item.binding.nodeId = nodeId := by
  have hdistinct : ((T.dependenciesOf record).map fun item => item.binding.nodeId).Nodup := by
    unfold List.Nodup GraphTables.dependenciesOf
    rw [List.pairwise_map]
    refine List.Pairwise.imp_of_mem (fun {a b} ha hb hclash heq => hclash ?_)
      ((T.pairwise_nodesOf record.binding.parentRunId).filter _)
    have ha' := (GraphTables.mem_nodesOf.mp (List.mem_filter.mp ha).1).2
    have hb' := (GraphTables.mem_nodesOf.mp (List.mem_filter.mp hb).1).2
    exact .inl ⟨ha'.trans hb'.symm, heq⟩
  have hsubset : ((T.dependenciesOf record).map fun item => item.binding.nodeId)
      ⊆ record.node.dependsOn := by
    intro nodeId hnode
    obtain ⟨item, hitem, rfl⟩ := List.mem_map.mp hnode
    exact List.contains_iff_mem.mp (List.mem_filter.mp hitem).2
  have hperm := (List.Nodup.subperm hdistinct hsubset).perm_of_length_le
    (by rw [List.length_map, h])
  intro nodeId hnode
  exact List.mem_map.mp (hperm.mem_iff.mpr hnode)

theorem Fed.congr (h : Fed T record)
    (hnodes : T'.nodesOf record.binding.parentRunId = T.nodesOf record.binding.parentRunId) :
    Fed T' record := by
  have heq : T'.dependenciesOf record = T.dependenciesOf record := by
    unfold GraphTables.dependenciesOf
    rw [hnodes]
  constructor
  · rw [heq]
    exact h.known
  · rw [heq]
    exact h.succeeded
  · rw [heq]
    exact h.inputs

/-! ### The invariant -/

/-- The plan has room for the running nodes, and each of them was fed. -/
structure GraphScheduled (T : GraphTables) (graph : GraphSnapshot) : Prop where
  capacity : ((T.nodesOf graph.parentRunId).filter fun m => m.status = .running).length
    ≤ graph.plan.maxParallelAgents
  fed : ∀ record ∈ T.nodesOf graph.parentRunId, record.status = .running → Fed T record

/-- Every graph is scheduled. -/
def GraphTables.Scheduled (T : GraphTables) : Prop :=
  ∀ row ∈ T.graphs, GraphScheduled T row.graph

theorem GraphTables.scheduled_empty : GraphTables.empty.Scheduled :=
  fun row hrow => absurd hrow (Table.not_mem_empty row)

theorem GraphScheduled.congr {graph updated : GraphSnapshot} (h : GraphScheduled T graph)
    (hparent : updated.parentRunId = graph.parentRunId) (hplan : updated.plan = graph.plan)
    (hnodes : T'.nodesOf graph.parentRunId = T.nodesOf graph.parentRunId) :
    GraphScheduled T' updated := by
  constructor
  · rw [hparent, hnodes, hplan]
    exact h.capacity
  · intro record hrecord hrunning
    rw [hparent, hnodes] at hrecord
    have hid := (GraphTables.mem_nodesOf.mp hrecord).2
    exact (h.fed record hrecord hrunning).congr (hid ▸ hnodes)

/-- Writes to one graph keep the schedule when they keep it for that graph. -/
theorem GraphTables.Scheduled.step (h : T.Scheduled) (he : Elsewhere parentRunId T T')
    (hhere : ∀ row ∈ T'.graphs, row.graph.parentRunId = parentRunId → GraphScheduled T' row.graph) :
    T'.Scheduled := by
  intro row hrow
  by_cases hsame : row.graph.parentRunId = parentRunId
  · exact hhere row hrow hsame
  · have hold := h row ((he.graphs row hsame).mp hrow)
    exact hold.congr rfl rfl (nodesOf_congr fun record hid => he.nodes record (hid ▸ hsame))

section Steps

variable {graph : GraphSnapshot} {claim : GraphDriverClaim} {now : Timestamp}

/-- A write of a graph's row that keeps its plan. -/
theorem GraphTables.Scheduled.withGraph {T₁ : GraphTables} {updated : GraphSnapshot}
    (h : T.Scheduled) (hread : GraphRead svc T graph)
    (he : Elsewhere graph.parentRunId T (T₁.withGraph updated)) (hnodes : T₁.nodes = T.nodes)
    (hparent : updated.parentRunId = graph.parentRunId) (hplan : updated.plan = graph.plan) :
    (T₁.withGraph updated).Scheduled := by
  refine h.step he fun row hrow hsame => ?_
  rcases withGraph_cases hrow with heq | ⟨-, hne⟩
  · obtain ⟨old, hold, hgraph⟩ := hread.row
    have hscheduled := h old hold
    have hwritten : (T₁.withGraph updated).nodes = T.nodes := hnodes
    rw [heq]
    refine hscheduled.congr (hparent.trans (by rw [hgraph])) (hplan.trans (by rw [hgraph])) ?_
    unfold GraphTables.nodesOf
    rw [hwritten]
  · exact absurd (hsame.trans hparent.symm) hne

variable {record : GraphNodeRecord} {args : NodeTransition}

/-- Dependencies that have succeeded are not the node that moves. -/
theorem filter_moved {updated : GraphNodeRecord} {l₁ l₂ : List GraphNodeRecord}
    {q : GraphNodeRecord → Bool}
    (hsucceeded : ∀ item ∈ (l₁ ++ record :: l₂).filter q, item.status = .succeeded)
    (hopen : record.status ≠ .succeeded) (hsame : q updated = q record) :
    (l₁ ++ updated :: l₂).filter q = (l₁ ++ record :: l₂).filter q := by
  have hnot : q record = false := by
    rw [← Bool.not_eq_true]
    intro hq
    have hmem : record ∈ (l₁ ++ record :: l₂).filter q :=
      List.mem_filter.mpr ⟨List.mem_append_right l₁ List.mem_cons_self, hq⟩
    exact hopen (hsucceeded record hmem)
  rw [List.filter_append, List.filter_append, List.filter_cons, List.filter_cons, hsame, hnot]
  rfl

/-- A node that moves has not ended. -/
theorem NodeMoved.not_terminal (hm : NodeMoved svc T claim args graph record now T') :
    record.status.isTerminal = false := by
  have hallowed := hm.allowed
  cases hstatus : record.status with
  | pending | running | waitingApproval => rfl
  | _ =>
      rw [hstatus] at hallowed
      exact absurd hallowed List.not_mem_nil

/-- A node that starts to run was not running. -/
theorem NodeMoved.not_running (hm : NodeMoved svc T claim args graph record now T')
    (htarget : args.target = .running) : record.status ≠ .running := by
  intro hstatus
  have hallowed := hm.allowed
  rw [hstatus, htarget] at hallowed
  exact absurd hallowed (by decide)

theorem NodeMoved.scheduled (h : T.Scheduled)
    (hm : NodeMoved svc T claim args graph record now T') : T'.Scheduled := by
  have hread := hm.owned.toGraphRead
  obtain ⟨hmem, hparent⟩ := hread.mem_nodes.mp hm.found
  have hopen : record.status ≠ .succeeded := by
    intro hsucceeded
    have hterminal := hm.not_terminal
    rw [hsucceeded] at hterminal
    exact Bool.noConfusion hterminal
  obtain ⟨updated, hupdated⟩ : ∃ updated, updated = record.moved args.target
    args.inputArtifacts args.outputArtifacts args.errorCode now := ⟨_, rfl⟩
  have hbinding : updated.binding = record.binding := by
    rw [hupdated]
    rfl
  obtain ⟨l₁, l₂, hbefore, hafter⟩ := nodesOf_withNode hmem hbinding
  rw [hparent] at hbefore hafter
  have hwritten : T' = T.withNode updated := hupdated ▸ hm.written
  -- the dependencies of a node that was fed are the same after the move
  have hdependencies : ∀ m : GraphNodeRecord, m.binding.parentRunId = graph.parentRunId →
      (∀ item ∈ T.dependenciesOf m, item.status = .succeeded) →
      T'.dependenciesOf m = T.dependenciesOf m := by
    intro m hid hsucceeded
    unfold GraphTables.dependenciesOf at hsucceeded ⊢
    rw [hid, hbefore] at hsucceeded ⊢
    rw [hwritten, hafter]
    exact filter_moved hsucceeded hopen (by rw [hbinding])
  refine h.step hm.elsewhere fun row hrow hsame => ?_
  have hrow' : row ∈ T.graphs := by
    rw [hwritten] at hrow
    exact hrow
  have hold := h row hrow'
  have hgraph := hread.eq_row hrow' hsame
  constructor
  · have hroom := hold.capacity
    rw [hsame, hbefore] at hroom
    rw [hsame, hwritten, hafter]
    rw [List.filter_append, List.length_append, List.filter_cons] at hroom ⊢
    by_cases htarget : args.target = .running
    · have hfree := (hm.dispatched htarget).capacity
      have hplan : graph.plan = row.graph.plan := by
        rw [hgraph]
      rw [hread.nodes, hbefore, hplan, List.filter_append, List.length_append,
        List.filter_cons, if_neg (by simp [hm.not_running htarget])] at hfree
      rw [if_pos (by rw [hupdated]; exact decide_eq_true htarget), List.length_cons]
      omega
    · rw [if_neg (by rw [hupdated]; simpa [GraphNodeRecord.moved] using htarget)]
      split_ifs at hroom
      · rw [List.length_cons] at hroom
        omega
      · exact hroom
  · intro m hm' hrunning
    rw [hsame, hwritten, hafter] at hm'
    rcases List.mem_append.mp hm' with hleft | hcons
    · have hold' : m ∈ T.nodesOf graph.parentRunId := by
        rw [hbefore]
        exact List.mem_append_left _ hleft
      have hfed := hold.fed m (hsame ▸ hold') hrunning
      have heq := hdependencies m (GraphTables.mem_nodesOf.mp hold').2 hfed.succeeded
      exact ⟨heq ▸ hfed.known, heq ▸ hfed.succeeded, heq ▸ hfed.inputs⟩
    rcases List.mem_cons.mp hcons with rfl | hright
    · have htarget : args.target = .running := by
        rw [hupdated] at hrunning
        exact hrunning
      have hdispatch := hm.dispatched htarget
      have hdeps : graph.dependencies record = T.dependenciesOf m := by
        rw [hread.dependencies hparent]
        unfold GraphTables.dependenciesOf
        rw [hbinding, hupdated]
        rfl
      have hsucceeded := hdispatch.succeeded
      rw [hdeps] at hsucceeded
      have heq := hdependencies m ((congrArg _ hbinding).trans hparent) hsucceeded
      refine ⟨?_, heq ▸ hsucceeded, ?_⟩
      · rw [heq]
        refine known_of_length ?_
        rw [← hdeps, hdispatch.known, hupdated]
        rfl
      · rw [heq, ← hdeps, ← hdispatch.inputs, hupdated]
        exact if_pos htarget
    · have hold' : m ∈ T.nodesOf graph.parentRunId := by
        rw [hbefore]
        exact List.mem_append_right _ (List.mem_cons_of_mem _ hright)
      have hfed := hold.fed m (hsame ▸ hold') hrunning
      have heq := hdependencies m (GraphTables.mem_nodesOf.mp hold').2 hfed.succeeded
      exact ⟨heq ▸ hfed.known, heq ▸ hfed.succeeded, heq ▸ hfed.inputs⟩

/-- A graph none of whose nodes runs. -/
theorem GraphScheduled.idle (h : ∀ record ∈ T.nodesOf graph.parentRunId,
    record.status ≠ .running) : GraphScheduled T graph := by
  have hnone : (T.nodesOf graph.parentRunId).filter (fun m => m.status = .running) = [] := by
    rw [List.filter_eq_nil_iff]
    intro m hm hrunning
    exact h m hm (of_decide_eq_true hrunning)
  constructor
  · rw [hnone]
    exact Nat.zero_le _
  · exact fun record hrecord hrunning => absurd hrunning (h record hrecord)

end Steps

/-- Every operation keeps every graph scheduled. -/
theorem scheduled_step (hs : T.Sound svc) (h : T.Scheduled) (he : GraphEffect svc r T r' T') :
    T'.Scheduled := by
  cases he with
  | unchanged => exact h
  | bound _ hb =>
      have hsound := hb.sound hs
      have hunclaimed := hb.unclaimed.2
      refine h.step hb.elsewhere fun row hrow hid => .idle fun record hrecord hrunning => ?_
      obtain ⟨graphs, nodes, hgraphs, -, rfl⟩ := hb.inserted
      obtain ⟨hmem, hparent⟩ := GraphTables.mem_nodesOf.mp hrecord
      have hfree : row.graph.driverClaim = none := by
        rcases (Table.mem_insert hgraphs).mp hrow with hold | rfl
        · exact absurd hid (Table.not_clash_of_insert hgraphs hold)
        · exact hunclaimed
      exact (hsound.graphs row hrow).driven hfree record hmem hparent hrunning
  | claimed hc =>
      have helse := hc.elsewhere
      obtain ⟨claims, -, rfl⟩ := hc.written
      exact h.withGraph hc.read helse rfl rfl rfl
  | moved hm => exact hm.scheduled h
  | released hr =>
      have helse := hr.elsewhere hs
      obtain ⟨ended, rfl⟩ := hr.written
      exact h.withGraph hr.owned.toGraphRead helse rfl rfl rfl
  | prepared hp =>
      have helse := hp.elsewhere
      rw [hp.written] at helse ⊢
      exact h.withGraph hp.owned.toGraphRead helse rfl rfl rfl
  | completed hc =>
      have helse := hc.elsewhere
      rw [hc.written] at helse ⊢
      exact h.withGraph hc.owned.toGraphRead helse rfl rfl rfl
  | cancelled hc =>
      refine h.step (hc.elsewhere hs) fun row _ hid => .idle fun record hrecord hrunning => ?_
      obtain ⟨hmem, hparent⟩ := GraphTables.mem_nodesOf.mp hrecord
      have hterminal := hc.terminal hmem (hparent.trans hid)
      rw [hrunning] at hterminal
      exact Bool.noConfusion hterminal

/-! ### Later versions of a node -/

/-- A later version of a node's row: the node is the same, and once it has ended its row is. -/
structure NodeFollows (a b : GraphNodeRecord) : Prop where
  binding : b.binding = a.binding
  node : b.node = a.node
  ended : a.status.isTerminal = true → b = a

theorem NodeFollows.refl (a : GraphNodeRecord) : NodeFollows a a := ⟨rfl, rfl, fun _ => rfl⟩

theorem NodeFollows.trans (a b c : GraphNodeRecord) (h : NodeFollows a b)
    (h' : NodeFollows b c) : NodeFollows a c := by
  refine ⟨h'.binding.trans h.binding, h'.node.trans h.node, fun hended => ?_⟩
  have hsame := h.ended hended
  subst hsame
  exact h'.ended hended

theorem NodeMoved.follows {args : NodeTransition} {graph : GraphSnapshot}
    {claim : GraphDriverClaim} {now : Timestamp}
    (hm : NodeMoved svc T claim args graph record now T') :
    Table.Carries NodeFollows T.nodes T'.nodes := by
  have hmem := (hm.owned.toGraphRead.mem_nodes.mp hm.found).1
  rw [hm.written]
  refine .update NodeFollows.refl (GraphNodeRecord.keepsKeys_written _) fun a ha hsame => ?_
  rw [Bool.and_eq_true, decide_eq_true_eq, decide_eq_true_eq] at hsame
  have heq : a = record := Table.eq_of_clash ha hmem (.inl hsame)
  subst heq
  refine ⟨rfl, rfl, fun hended => ?_⟩
  rw [hm.not_terminal] at hended
  exact absurd hended Bool.false_ne_true

theorem nodesFollow_step (he : GraphEffect svc r T r' T') :
    Table.Carries NodeFollows T.nodes T'.nodes := by
  cases he with
  | bound _ hb =>
      obtain ⟨graphs, nodes, -, hnodes, rfl⟩ := hb.inserted
      refine fun a ha => ⟨a, ?_, .refl a⟩
      rw [Table.mem_def, hnodes]
      exact List.mem_append_left _ ha
  | claimed hc =>
      obtain ⟨claims, -, rfl⟩ := hc.written
      exact .refl NodeFollows.refl _
  | moved hm => exact hm.follows
  | released hr =>
      obtain ⟨ended, rfl⟩ := hr.written
      exact .refl NodeFollows.refl _
  | prepared hp =>
      rw [hp.written]
      exact .refl NodeFollows.refl _
  | completed hc =>
      rw [hc.written]
      exact .refl NodeFollows.refl _
  | cancelled hc =>
      obtain ⟨ended, claims, -, -, rfl⟩ := hc.written
      refine .update NodeFollows.refl (GraphNodeRecord.keepsKeys_cancelled _) fun a _ hends => ?_
      refine ⟨rfl, rfl, fun hended => ?_⟩
      unfold GraphNodeRecord.endsWith at hends
      rw [hended, Bool.and_eq_true] at hends
      exact absurd hends.2 Bool.false_ne_true
  | unchanged => exact .refl NodeFollows.refl _

end AgentFleet
