import AgentFleet.Graph.Effects

/-! # What holds of every graph

`GraphSound` is what holds of one graph with the rows of its claims and of its nodes, and
`GraphTables.Sound` says it of every graph.  Each operation writes the rows of one graph
(`Elsewhere`), so `Sound.step` asks only what it leaves of that one; `sound_step` goes through
the operations. -/

namespace AgentFleet

open Relational

variable {svc : GraphServices} {T T' : GraphTables}

/-! ### Rows after a write -/

variable {row a : GraphRow} {claimId parentRunId : String} {status : ClaimStatus}

theorem mem_withGraph {graph : GraphSnapshot} :
    row ∈ (T.withGraph graph).graphs ↔ ∃ a ∈ T.graphs,
      row = if a.graph.parentRunId = graph.parentRunId then a.written graph else a := by
  unfold GraphTables.withGraph
  rw [Table.mem_update]
  simp only [decide_eq_true_eq]

theorem GraphRow.written_graph {graph : GraphSnapshot}
    (h : a.graph.parentRunId = graph.parentRunId) : (a.written graph).graph = graph := by
  unfold GraphRow.written
  rw [h]

/-- The row of the graph that was written, or a row of another graph. -/
theorem withGraph_cases {graph : GraphSnapshot} (h : row ∈ (T.withGraph graph).graphs) :
    row.graph = graph ∨ (row ∈ T.graphs ∧ row.graph.parentRunId ≠ graph.parentRunId) := by
  obtain ⟨a, ha, rfl⟩ := mem_withGraph.mp h
  split_ifs with hsame
  · exact .inl (GraphRow.written_graph hsame)
  · exact .inr ⟨ha, hsame⟩

theorem exists_withGraph {graph : GraphSnapshot} (ha : a ∈ T.graphs)
    (hsame : a.graph.parentRunId = graph.parentRunId) :
    ∃ row ∈ (T.withGraph graph).graphs, row.graph = graph := by
  refine ⟨a.written graph, mem_withGraph.mpr ⟨a, ha, ?_⟩, GraphRow.written_graph hsame⟩
  rw [if_pos hsame]

/-- The claim that ended, or another claim. -/
theorem endingClaim_cases {now : Timestamp} {c : ClaimRow}
    (h : c ∈ (T.endingClaim claimId status now).claims) :
    (∃ a ∈ T.claims, a.claim.claimId = claimId ∧ c = a.ended status now)
    ∨ (c ∈ T.claims ∧ c.claim.claimId ≠ claimId) := by
  unfold GraphTables.endingClaim at h
  obtain ⟨a, ha, rfl⟩ := (Table.mem_update (ClaimRow.keepsKeys_ended status now)).mp h
  simp only [decide_eq_true_eq]
  split_ifs with hsame
  · exact .inl ⟨a, ha, hsame, rfl⟩
  · exact .inr ⟨ha, hsame⟩

theorem cancellingNodes_cases {records : List GraphNodeRecord} {now : Timestamp}
    {m : GraphNodeRecord} (h : m ∈ cancellingNodes T.nodes records now) :
    (∃ a ∈ T.nodes, a.endsWith records = true ∧ m = a.cancelled now)
    ∨ (m ∈ T.nodes ∧ m.endsWith records = false) := by
  unfold cancellingNodes at h
  obtain ⟨a, ha, rfl⟩ := (Table.mem_update (GraphNodeRecord.keepsKeys_cancelled now)).mp h
  split_ifs with hsame
  · exact .inl ⟨a, ha, hsame, rfl⟩
  · exact .inr ⟨ha, eq_false_of_ne_true hsame⟩

/-! ### The graphs that a write leaves alone -/

/-- The rows of the graphs other than the one of `parentRunId` are as they were. -/
structure Elsewhere (parentRunId : String) (T T' : GraphTables) : Prop where
  graphs : ∀ row : GraphRow, row.graph.parentRunId ≠ parentRunId →
    (row ∈ T'.graphs ↔ row ∈ T.graphs)
  nodes : ∀ record : GraphNodeRecord, record.binding.parentRunId ≠ parentRunId →
    (record ∈ T'.nodes ↔ record ∈ T.nodes)
  claims : ∀ c : ClaimRow, c.claim.parentRunId ≠ parentRunId →
    (c ∈ T'.claims ↔ c ∈ T.claims)

theorem Elsewhere.refl (parentRunId : String) (T : GraphTables) : Elsewhere parentRunId T T :=
  ⟨fun _ _ => Iff.rfl, fun _ _ => Iff.rfl, fun _ _ => Iff.rfl⟩

theorem Elsewhere.trans {T'' : GraphTables} (h : Elsewhere parentRunId T T')
    (h' : Elsewhere parentRunId T' T'') : Elsewhere parentRunId T T'' := by
  constructor
  · intro row hrow
    rw [h'.graphs row hrow, h.graphs row hrow]
  · intro record hrecord
    rw [h'.nodes record hrecord, h.nodes record hrecord]
  · intro c hc
    rw [h'.claims c hc, h.claims c hc]

theorem elsewhere_withGraph (T : GraphTables) (graph : GraphSnapshot) :
    Elsewhere graph.parentRunId T (T.withGraph graph) := by
  refine ⟨fun row hrow => ?_, fun _ _ => Iff.rfl, fun _ _ => Iff.rfl⟩
  refine Table.mem_update_outside (S := fun a => a.graph.parentRunId = graph.parentRunId)
    (GraphRow.keepsKeys_written graph) (fun a _ ha => ?_) hrow
  exact ⟨of_decide_eq_true ha, of_decide_eq_true ha⟩

theorem elsewhere_withNode (T : GraphTables) (record : GraphNodeRecord) :
    Elsewhere record.binding.parentRunId T (T.withNode record) := by
  refine ⟨fun _ _ => Iff.rfl, fun m hm => ?_, fun _ _ => Iff.rfl⟩
  refine Table.mem_update_outside
    (S := fun a => a.binding.parentRunId = record.binding.parentRunId) record.keepsKeys_written
    (fun a _ ha => ?_) hm
  rw [Bool.and_eq_true, decide_eq_true_eq] at ha
  exact ⟨ha.1, ha.1⟩

theorem elsewhere_endingClaim {now : Timestamp}
    (h : ∀ c ∈ T.claims, c.claim.claimId = claimId → c.claim.parentRunId = parentRunId) :
    Elsewhere parentRunId T (T.endingClaim claimId status now) := by
  refine ⟨fun _ _ => Iff.rfl, fun _ _ => Iff.rfl, fun c hc => ?_⟩
  refine Table.mem_update_outside (S := fun a => a.claim.parentRunId = parentRunId)
    (ClaimRow.keepsKeys_ended status now) (fun a ha hid => ?_) hc
  have hparent := h a ha (of_decide_eq_true hid)
  exact ⟨hparent, hparent⟩

theorem elsewhere_claims {claims : Table ClaimRow} {claim : GraphDriverClaim}
    (hparent : claim.parentRunId = parentRunId) (h : T.claims.insert { claim } = some claims) :
    Elsewhere parentRunId T { T with claims } := by
  refine ⟨fun _ _ => Iff.rfl, fun _ _ => Iff.rfl, fun c hc => ?_⟩
  rw [Table.mem_insert h]
  constructor
  · rintro (hmem | rfl)
    · exact hmem
    · exact absurd hparent hc
  · exact .inl

theorem elsewhere_cancellingNodes {records : List GraphNodeRecord} {now : Timestamp}
    (h : ∀ record ∈ records, record.binding.parentRunId = parentRunId) :
    Elsewhere parentRunId T { T with nodes := cancellingNodes T.nodes records now } := by
  refine ⟨fun _ _ => Iff.rfl, fun m hm => ?_, fun _ _ => Iff.rfl⟩
  refine Table.mem_update_outside (S := fun a => a.binding.parentRunId = parentRunId)
    (GraphNodeRecord.keepsKeys_cancelled now) (fun a _ ha => ?_) hm
  simp only [GraphNodeRecord.endsWith, Bool.and_eq_true, List.any_eq_true,
    decide_eq_true_eq] at ha
  obtain ⟨⟨record, hrecord, hsame, -⟩, -⟩ := ha
  have hparent : a.binding.parentRunId = parentRunId := hsame.symm.trans (h record hrecord)
  exact ⟨hparent, hparent⟩

/-! ### The invariant -/

/-- What holds of a graph with its claims and its nodes. -/
structure GraphSound (svc : GraphServices) (T : GraphTables) (graph : GraphSnapshot) : Prop where
  generation : ∀ c ∈ T.claims, c.claim.parentRunId = graph.parentRunId →
    c.claim.generation ≤ graph.driverGeneration
  active : ∀ c ∈ T.claims, c.claim.parentRunId = graph.parentRunId → c.status = .active →
    c = { claim := c.claim } ∧ graph.driverClaim = some c.claim
  driver : ∀ claim ∈ graph.driverClaim, ({ claim } : ClaimRow) ∈ T.claims
    ∧ claim.parentRunId = graph.parentRunId ∧ claim.generation = graph.driverGeneration
  driven : graph.driverClaim = none → ∀ record ∈ T.nodes,
    record.binding.parentRunId = graph.parentRunId → record.status ≠ .running
  prepared : graph.joinPreparation ≠ none → ∀ record ∈ T.nodes,
    record.binding.parentRunId = graph.parentRunId → record.status = .succeeded
  joined : graph.joinedAsPrepared svc
  cancelled : graph.cancelRequestedAt ≠ none → graph.driverClaim = none
    ∧ ∀ record ∈ T.nodes, record.binding.parentRunId = graph.parentRunId →
      record.status.isTerminal = true

/-- Every graph is sound, and every claim and every node is of a graph. -/
structure GraphTables.Sound (svc : GraphServices) (T : GraphTables) : Prop where
  graphs : ∀ row ∈ T.graphs, GraphSound svc T row.graph
  claims : ∀ c ∈ T.claims, ∃ row ∈ T.graphs, row.graph.parentRunId = c.claim.parentRunId
  nodes : ∀ record ∈ T.nodes, ∃ row ∈ T.graphs,
    row.graph.parentRunId = record.binding.parentRunId

theorem GraphTables.sound_empty (svc : GraphServices) : GraphTables.empty.Sound svc := by
  constructor
  · exact fun row hrow => absurd hrow (Table.not_mem_empty row)
  · exact fun c hc => absurd hc (Table.not_mem_empty c)
  · exact fun record hrecord => absurd hrecord (Table.not_mem_empty record)

/-- A graph is as sound as it was when the writes are elsewhere. -/
theorem GraphSound.elsewhere {graph : GraphSnapshot} (h : GraphSound svc T graph)
    (he : Elsewhere parentRunId T T') (hne : graph.parentRunId ≠ parentRunId) :
    GraphSound svc T' graph := by
  have hclaim : ∀ c ∈ T'.claims, c.claim.parentRunId = graph.parentRunId → c ∈ T.claims :=
    fun c hc hsame => (he.claims c (hsame ▸ hne)).mp hc
  have hnode : ∀ record ∈ T'.nodes, record.binding.parentRunId = graph.parentRunId →
      record ∈ T.nodes := fun record hrecord hsame => (he.nodes record (hsame ▸ hne)).mp hrecord
  refine ⟨fun c hc hsame => h.generation c (hclaim c hc hsame) hsame,
    fun c hc hsame => h.active c (hclaim c hc hsame) hsame, fun claim hclaim => ?_,
    fun hfree r hr hsame => h.driven hfree r (hnode r hr hsame) hsame,
    fun hprepared r hr hsame => h.prepared hprepared r (hnode r hr hsame) hsame, h.joined,
    fun hcancel => ⟨(h.cancelled hcancel).1,
      fun r hr hsame => (h.cancelled hcancel).2 r (hnode r hr hsame) hsame⟩⟩
  obtain ⟨hmem, hparent, hgeneration⟩ := h.driver claim hclaim
  exact ⟨(he.claims _ (show claim.parentRunId ≠ parentRunId from hparent ▸ hne)).mpr hmem,
    hparent, hgeneration⟩

/-- Writes to one graph keep `Sound` when they leave that graph sound. -/
theorem GraphTables.Sound.step (h : T.Sound svc) (he : Elsewhere parentRunId T T')
    (hhere : ∀ row ∈ T'.graphs, row.graph.parentRunId = parentRunId → GraphSound svc T' row.graph)
    (hrow : ∃ row ∈ T'.graphs, row.graph.parentRunId = parentRunId) : T'.Sound svc := by
  have hfound : ∀ p, (p ≠ parentRunId → ∃ row ∈ T.graphs, row.graph.parentRunId = p) →
      ∃ row ∈ T'.graphs, row.graph.parentRunId = p := by
    intro p hp
    by_cases hsame : p = parentRunId
    · rw [hsame]
      exact hrow
    · obtain ⟨row, hmem, hid⟩ := hp hsame
      exact ⟨row, (he.graphs row (hid ▸ hsame)).mpr hmem, hid⟩
  constructor
  · intro row hmem
    by_cases hsame : row.graph.parentRunId = parentRunId
    · exact hhere row hmem hsame
    · exact (h.graphs row ((he.graphs row hsame).mp hmem)).elsewhere he hsame
  · exact fun c hc => hfound _ fun hne => h.claims c ((he.claims c hne).mp hc)
  · exact fun m hm => hfound _ fun hne => h.nodes m ((he.nodes m hne).mp hm)

/-- The stored graph that a read returned. -/
theorem GraphTables.Sound.read {graph : GraphSnapshot} (h : T.Sound svc)
    (hread : GraphRead svc T graph) : GraphSound svc T graph := by
  obtain ⟨row, hrow, rfl⟩ := hread.row
  have hsound := h.graphs row hrow
  exact ⟨hsound.generation, hsound.active, hsound.driver, hsound.driven, hsound.prepared,
    hsound.joined, hsound.cancelled⟩

/-- The nodes that a read returned. -/
theorem GraphRead.mem_nodes {graph : GraphSnapshot} {record : GraphNodeRecord}
    (h : GraphRead svc T graph) : record ∈ graph.nodes
      ↔ record ∈ T.nodes ∧ record.binding.parentRunId = graph.parentRunId := by
  rw [h.nodes]
  exact GraphTables.mem_nodesOf

/-- The row that a read returned is the only one of its graph. -/
theorem GraphRead.eq_row {graph : GraphSnapshot} (h : GraphRead svc T graph)
    (hrow : row ∈ T.graphs) (hid : row.graph.parentRunId = graph.parentRunId) :
    graph = { row.graph with nodes := T.nodesOf row.graph.parentRunId } := by
  obtain ⟨a, ha, hgraph⟩ := h.row
  have hsame : row.graph.parentRunId = a.graph.parentRunId := by
    rw [hid, hgraph]
  have heq : row = a := Table.eq_of_clash hrow ha hsame
  rw [heq]
  exact hgraph

/-! ### Each operation writes one graph -/

section Steps

variable {graph : GraphSnapshot} {claim : GraphDriverClaim} {now : Timestamp}

variable {updated : GraphSnapshot} {T₁ : GraphTables} {args : NodeTransition}
  {record : GraphNodeRecord} {status : GraphStatus} {receipt : GraphJoinPreparation}
  {result : GraphJoinCompletion} {r r' : Records}

/-- The row of a graph is written after other writes to it. -/
theorem Elsewhere.withGraph (h : Elsewhere graph.parentRunId T T₁)
    (hparent : updated.parentRunId = graph.parentRunId) :
    Elsewhere graph.parentRunId T (T₁.withGraph updated) := by
  refine h.trans ?_
  rw [← hparent]
  exact elsewhere_withGraph T₁ updated

theorem Bound.elsewhere (hb : Bound svc T graph T') : Elsewhere graph.parentRunId T T' := by
  obtain ⟨graphs, nodes, hgraphs, hnodes, rfl⟩ := hb.inserted
  refine ⟨fun row hne => ?_, fun m hne => ?_, fun _ _ => Iff.rfl⟩
  · rw [Table.mem_insert hgraphs, or_iff_left]
    rintro rfl
    exact hne rfl
  · rw [Table.mem_def, hnodes, List.mem_append, Table.mem_def, or_iff_left]
    exact fun hm => hne (hb.valid.2.1.2.2.2.2.2 m hm).2.1

theorem Claimed.elsewhere (hc : Claimed svc T graph claim now T') :
    Elsewhere graph.parentRunId T T' := by
  obtain ⟨claims, hclaims, rfl⟩ := hc.written
  exact (elsewhere_claims hc.parent hclaims).withGraph rfl

theorem NodeMoved.elsewhere (hm : NodeMoved svc T claim args graph record now T') :
    Elsewhere graph.parentRunId T T' := by
  have hparent := (hm.owned.toGraphRead.mem_nodes.mp hm.found).2
  have he := elsewhere_withNode T (record.moved args.target args.inputArtifacts
    args.outputArtifacts args.errorCode now)
  rw [hm.written, ← hparent]
  exact he

/-- The end of the claim of a graph's driver. -/
theorem elsewhere_ending {status : ClaimStatus} (h : T.Sound svc) (hread : GraphRead svc T graph)
    (hdriver : graph.driverClaim = some claim) :
    Elsewhere graph.parentRunId T (T.endingClaim claim.claimId status now) := by
  obtain ⟨hmem, hparent, -⟩ := (h.read hread).driver claim hdriver
  refine elsewhere_endingClaim fun c hc hid => ?_
  rw [Table.eq_of_clash hc hmem (.inl hid)]
  exact hparent

theorem Released.elsewhere (h : T.Sound svc) (hr : Released svc T claim graph status now T') :
    Elsewhere graph.parentRunId T T' := by
  obtain ⟨ended, rfl⟩ := hr.written
  exact (elsewhere_ending h hr.owned.toGraphRead hr.owned.driver).withGraph rfl

theorem Prepared.elsewhere (hp : Prepared svc T claim graph receipt now T') :
    Elsewhere graph.parentRunId T T' := by
  rw [hp.written]
  exact (Elsewhere.refl graph.parentRunId T).withGraph rfl

theorem Completed.elsewhere (hc : Completed svc T claim graph result now T') :
    Elsewhere graph.parentRunId T T' := by
  rw [hc.written]
  exact (Elsewhere.refl graph.parentRunId T).withGraph rfl

theorem Cancelled.elsewhere (h : T.Sound svc) (hc : Cancelled svc r T graph now r' T') :
    Elsewhere graph.parentRunId T T' := by
  obtain ⟨ended, claims, -, hclaims, rfl⟩ := hc.written
  have hnodes : ∀ a ∈ graph.nodes, a.binding.parentRunId = graph.parentRunId :=
    fun a ha => (hc.read.mem_nodes.mp ha).2
  have he : Elsewhere graph.parentRunId T
      { T with nodes := cancellingNodes T.nodes graph.nodes now, claims } := by
    refine ⟨fun _ _ => Iff.rfl, (elsewhere_cancellingNodes hnodes).nodes, fun c hne => ?_⟩
    show c ∈ claims ↔ c ∈ T.claims
    rw [hclaims]
    cases hdriver : graph.driverClaim with
    | none => exact Iff.rfl
    | some => exact (elsewhere_ending h hc.read hdriver).claims c hne
  exact he.withGraph rfl

/-! ### Each operation keeps the invariant -/

/-- A write of the row of a graph that was read. -/
theorem GraphTables.Sound.withGraph (h : T.Sound svc) (hread : GraphRead svc T graph)
    (hparent : updated.parentRunId = graph.parentRunId)
    (he : Elsewhere graph.parentRunId T (T₁.withGraph updated)) (hkept : T₁.graphs = T.graphs)
    (hsound : GraphSound svc (T₁.withGraph updated) updated) :
    (T₁.withGraph updated).Sound svc := by
  obtain ⟨row, hrow, hgraph⟩ := hread.row
  have hid : row.graph.parentRunId = updated.parentRunId := by
    rw [hparent, hgraph]
  refine h.step he (fun written hwritten hsame => ?_) ?_
  · rcases withGraph_cases hwritten with heq | ⟨-, hne⟩
    · rw [heq]
      exact hsound
    · exact absurd (hsame.trans hparent.symm) hne
  · obtain ⟨written, hwritten, heq⟩ :=
      exists_withGraph (show row ∈ T₁.graphs from hkept ▸ hrow) hid
    refine ⟨written, hwritten, ?_⟩
    rw [heq, hparent]

theorem Bound.sound (h : T.Sound svc) (hb : Bound svc T graph T') : T'.Sound svc := by
  have he := hb.elsewhere
  obtain ⟨graphs, nodes, hgraphs, hnodes, rfl⟩ := hb.inserted
  have hnew : ∀ row ∈ T.graphs, row.graph.parentRunId ≠ graph.parentRunId :=
    fun row hrow => Table.not_clash_of_insert hgraphs hrow
  have hclaims : ∀ c ∈ T.claims, c.claim.parentRunId ≠ graph.parentRunId := by
    intro c hc
    obtain ⟨row, hrow, hid⟩ := h.claims c hc
    exact hid ▸ hnew row hrow
  have hold : ∀ m ∈ T.nodes, m.binding.parentRunId ≠ graph.parentRunId := by
    intro m hm
    obtain ⟨row, hrow, hid⟩ := h.nodes m hm
    exact hid ▸ hnew row hrow
  refine h.step he (fun row hrow hsame => ?_)
    ⟨_, (Table.mem_insert hgraphs).mpr (.inr rfl), rfl⟩
  rcases (Table.mem_insert hgraphs).mp hrow with hrow | rfl
  · exact absurd hsame (hnew row hrow)
  · refine ⟨fun c hc hid => absurd hid (hclaims c hc), fun c hc hid => absurd hid (hclaims c hc),
      fun claim hclaim => ?_, fun _ m hm hid hrunning => ?_, fun hprepared => ?_,
      hb.valid.2.2.2.1, fun hcancel => absurd hb.unjoined.2 hcancel⟩
    · rw [hb.unclaimed.2] at hclaim
      exact absurd hclaim (Option.not_mem_none claim)
    · rw [Table.mem_def, hnodes, List.mem_append, ← Table.mem_def] at hm
      rcases hm with hm | hm
      · exact hold m hm hid
      · rw [hb.pending m hm] at hrunning
        exact GraphNodeStatus.noConfusion hrunning
    · exact absurd hb.unjoined.1 hprepared

theorem Claimed.sound (h : T.Sound svc) (hc : Claimed svc T graph claim now T') :
    T'.Sound svc := by
  have he := hc.elsewhere
  obtain ⟨claims, hclaims, rfl⟩ := hc.written
  have hsound := h.read hc.read
  refine h.withGraph hc.read rfl he rfl ?_
  refine ⟨fun c hmem hid => ?_, fun c hmem hid hactive => ?_, fun claim' hclaim' => ?_,
    fun hfree => absurd hfree (Option.some_ne_none claim), hsound.prepared, hc.valid.2.2.2.1,
    fun hcancel => absurd hc.uncancelled hcancel⟩
  · have hnext : claim.generation = graph.driverGeneration + 1 := hc.next
    rcases (Table.mem_insert hclaims).mp hmem with hold | rfl
    · have hbound := hsound.generation c hold hid
      show c.claim.generation ≤ claim.generation
      omega
    · exact le_refl claim.generation
  · rcases (Table.mem_insert hclaims).mp hmem with hold | rfl
    · have hdriver := (hsound.active c hold hid hactive).2
      rw [hc.free] at hdriver
      exact absurd hdriver.symm (Option.some_ne_none _)
    · exact ⟨rfl, rfl⟩
  · obtain rfl := Option.some.inj hclaim'
    exact ⟨(Table.mem_insert hclaims).mpr (.inr rfl), hc.parent, rfl⟩

/-- A graph whose driver may move a node has no preparation. -/
theorem NodeMoved.unprepared (h : T.Sound svc)
    (hm : NodeMoved svc T claim args graph record now T') : graph.joinPreparation = none := by
  obtain ⟨hmem, hparent⟩ := hm.owned.toGraphRead.mem_nodes.mp hm.found
  by_contra hprepared
  have hsucceeded := (h.read hm.owned.toGraphRead).prepared hprepared record hmem hparent
  have hallowed := hm.allowed
  rw [hsucceeded] at hallowed
  exact List.not_mem_nil hallowed

theorem NodeMoved.sound (h : T.Sound svc) (hm : NodeMoved svc T claim args graph record now T') :
    T'.Sound svc := by
  have he := hm.elsewhere
  have hread := hm.owned.toGraphRead
  have hunprepared := hm.unprepared h
  obtain ⟨row, hrow, hgraph⟩ := hread.row
  have hid : row.graph.parentRunId = graph.parentRunId := by
    rw [hgraph]
  rw [hm.written] at he ⊢
  refine h.step he (fun row' hrow' hsame => ?_) ⟨row, hrow, hid⟩
  have hold := h.graphs row' hrow'
  have heq := hread.eq_row hrow' hsame
  have hdriver : row'.graph.driverClaim = some claim := by
    rw [← hm.owned.driver, heq]
  have huncancelled : row'.graph.cancelRequestedAt = none := by
    rw [← hm.owned.uncancelled, heq]
  have hunprepared' : row'.graph.joinPreparation = none := by
    rw [← hunprepared, heq]
  refine ⟨hold.generation, hold.active, hold.driver, fun hfree => ?_, fun hprepared => ?_,
    hold.joined, fun hcancel => ?_⟩
  · rw [hdriver] at hfree
    exact absurd hfree (Option.some_ne_none claim)
  · exact absurd hunprepared' hprepared
  · exact absurd huncancelled hcancel

theorem Released.sound (h : T.Sound svc) (hr : Released svc T claim graph status now T') :
    T'.Sound svc := by
  have he := hr.elsewhere h
  obtain ⟨ended, rfl⟩ := hr.written
  have hread := hr.owned.toGraphRead
  have hsound := h.read hread
  refine h.withGraph hread rfl he rfl ?_
  refine ⟨fun c hc hid => ?_, fun c hc hid hactive => ?_,
    fun claim' hclaim' => absurd hclaim' (Option.not_mem_none claim'), fun _ m hm hid => ?_,
    hsound.prepared, hr.valid.2.2.2.1, fun hcancel => absurd hr.owned.uncancelled hcancel⟩
  · rcases endingClaim_cases hc with ⟨a, ha, -, rfl⟩ | ⟨hold, -⟩
    · exact hsound.generation a ha hid
    · exact hsound.generation c hold hid
  · rcases endingClaim_cases hc with ⟨a, ha, -, rfl⟩ | ⟨hold, hother⟩
    · exact ClaimStatus.noConfusion hactive
    · have hdriver := (hsound.active c hold hid hactive).2
      rw [hr.owned.driver] at hdriver
      exact absurd (congrArg GraphDriverClaim.claimId (Option.some.inj hdriver)).symm hother
  · exact hr.idle m (hread.mem_nodes.mpr ⟨hm, hid⟩)

theorem Prepared.sound (h : T.Sound svc) (hp : Prepared svc T claim graph receipt now T') :
    T'.Sound svc := by
  have he := hp.elsewhere
  have hread := hp.owned.toGraphRead
  have hsound := h.read hread
  rw [hp.written] at he ⊢
  refine h.withGraph hread rfl he rfl ?_
  exact ⟨hsound.generation, hsound.active, hsound.driver, hsound.driven,
    fun _ m hm hid => hp.succeeded m (hread.mem_nodes.mpr ⟨hm, hid⟩), hp.valid.2.2.2.1,
    hsound.cancelled⟩

theorem Completed.sound (h : T.Sound svc) (hc : Completed svc T claim graph result now T') :
    T'.Sound svc := by
  have he := hc.elsewhere
  have hread := hc.owned.toGraphRead
  have hsound := h.read hread
  rw [hc.written] at he ⊢
  refine h.withGraph hread rfl he rfl ?_
  exact ⟨hsound.generation, hsound.active, hsound.driver, hsound.driven, hsound.prepared,
    hc.valid.2.2.2.1, hsound.cancelled⟩

/-- The claims of a cancelled graph: its driver's has ended, the others are as they were. -/
theorem Cancelled.claims_cases {c : ClaimRow} (hc : Cancelled svc r T graph now r' T')
    (hmem : c ∈ T'.claims) :
    (∃ a ∈ T.claims, c = a.ended .cancelled now) ∨ (c ∈ T.claims
      ∧ ∀ claim ∈ graph.driverClaim, c.claim.claimId ≠ claim.claimId) := by
  obtain ⟨ended, claims, -, hclaims, rfl⟩ := hc.written
  change c ∈ claims at hmem
  rw [hclaims] at hmem
  cases hdriver : graph.driverClaim with
  | none =>
      rw [hdriver] at hmem
      exact .inr ⟨hmem, fun claim hclaim => absurd hclaim (Option.not_mem_none claim)⟩
  | some =>
      rw [hdriver] at hmem
      rcases endingClaim_cases hmem with ⟨a, ha, -, rfl⟩ | ⟨hold, hother⟩
      · exact .inl ⟨a, ha, rfl⟩
      · refine .inr ⟨hold, fun claim' hclaim' => ?_⟩
        rw [← Option.some.inj hclaim']
        exact hother

/-- The nodes of a cancelled graph have ended. -/
theorem Cancelled.terminal {m : GraphNodeRecord} (hc : Cancelled svc r T graph now r' T')
    (hm : m ∈ T'.nodes) (hid : m.binding.parentRunId = graph.parentRunId) :
    m.status.isTerminal = true := by
  obtain ⟨ended, claims, -, -, rfl⟩ := hc.written
  rcases cancellingNodes_cases hm with ⟨a, -, -, rfl⟩ | ⟨hold, hkept⟩
  · rfl
  · have hany : graph.nodes.any (fun r => r.binding.parentRunId = m.binding.parentRunId
        && r.binding.nodeId = m.binding.nodeId) = true := by
      rw [List.any_eq_true]
      refine ⟨m, hc.read.mem_nodes.mpr ⟨hold, hid⟩, ?_⟩
      simp
    unfold GraphNodeRecord.endsWith at hkept
    rw [hany, Bool.true_and, Bool.not_eq_false'] at hkept
    exact hkept

theorem Cancelled.sound (h : T.Sound svc) (hc : Cancelled svc r T graph now r' T') :
    T'.Sound svc := by
  have he := hc.elsewhere h
  have hcases := fun c => hc.claims_cases (c := c)
  have hterminal := fun m => hc.terminal (m := m)
  have hsound := h.read hc.read
  obtain ⟨ended, claims, hvalid, -, rfl⟩ := hc.written
  refine h.withGraph hc.read rfl he rfl ?_
  refine ⟨fun c hmem hid => ?_, fun c hmem hid hactive => ?_,
    fun claim' hclaim' => absurd hclaim' (Option.not_mem_none claim'),
    fun _ m hm hid hrunning => ?_, fun hprepared m hm hid => ?_, hvalid.2.2.2.1,
    fun _ => ⟨rfl, hterminal⟩⟩
  · rcases hcases c hmem with ⟨a, ha, rfl⟩ | ⟨hold, -⟩
    · exact hsound.generation a ha hid
    · exact hsound.generation c hold hid
  · rcases hcases c hmem with ⟨a, -, rfl⟩ | ⟨hold, hother⟩
    · exact ClaimStatus.noConfusion hactive
    · exact absurd rfl (hother c.claim (hsound.active c hold hid hactive).2)
  · have hended := hterminal m hm hid
    rw [hrunning] at hended
    exact Bool.noConfusion hended
  · rcases cancellingNodes_cases hm with ⟨a, ha, hends, rfl⟩ | ⟨hold, -⟩
    · have hsucceeded := hsound.prepared hprepared a ha hid
      unfold GraphNodeRecord.endsWith at hends
      rw [hsucceeded] at hends
      simp [GraphNodeStatus.isTerminal] at hends
    · exact hsound.prepared hprepared m hold hid

/-- An operation leaves the graphs alone, or writes one graph that was not cancelled, which is
cancelled afterwards only by `request_cancel`. -/
theorem effect_elsewhere (h : T.Sound svc) (he : GraphEffect svc r T r' T') :
    (r' = r ∧ T' = T) ∨ ∃ parentRunId, Elsewhere parentRunId T T'
      ∧ (∀ row ∈ T.graphs, row.graph.parentRunId = parentRunId →
        row.graph.cancelRequestedAt = none)
      ∧ ((∀ row ∈ T'.graphs, row.graph.parentRunId = parentRunId →
          row.graph.cancelRequestedAt = none)
        ∨ ∃ graph now, graph.parentRunId = parentRunId
          ∧ Cancelled svc r T graph now r' T') := by
  have hbefore : ∀ {graph}, GraphRead svc T graph → graph.cancelRequestedAt = none →
      ∀ row ∈ T.graphs, row.graph.parentRunId = graph.parentRunId →
        row.graph.cancelRequestedAt = none := by
    intro graph hread hnone row hrow hid
    have hgraph := hread.eq_row hrow hid
    rw [hgraph] at hnone
    exact hnone
  have hafter : ∀ {T₁ : GraphTables} {graph updated : GraphSnapshot},
      updated.parentRunId = graph.parentRunId → updated.cancelRequestedAt = none →
      ∀ row ∈ (T₁.withGraph updated).graphs, row.graph.parentRunId = graph.parentRunId →
        row.graph.cancelRequestedAt = none := by
    intro T₁ graph updated hparent hnone row hrow hid
    rcases withGraph_cases hrow with heq | ⟨-, hne⟩
    · rw [heq]
      exact hnone
    · exact absurd (hid.trans hparent.symm) hne
  cases he with
  | unchanged => exact .inl ⟨rfl, rfl⟩
  | bound _ hb =>
      have helse := hb.elsewhere
      obtain ⟨graphs, nodes, hgraphs, -, rfl⟩ := hb.inserted
      have hnew : ∀ row ∈ T.graphs, row.graph.parentRunId ≠ _ :=
        fun row hrow => Table.not_clash_of_insert hgraphs hrow
      refine .inr ⟨_, helse, fun row hrow hid => absurd hid (hnew row hrow), .inl ?_⟩
      intro row hrow hid
      rcases (Table.mem_insert hgraphs).mp hrow with hrow | rfl
      · exact absurd hid (hnew row hrow)
      · exact hb.unjoined.2
  | claimed hc =>
      have helse := hc.elsewhere
      obtain ⟨claims, -, rfl⟩ := hc.written
      exact .inr ⟨_, helse, hbefore hc.read hc.uncancelled, .inl (hafter rfl hc.uncancelled)⟩
  | moved hm =>
      have helse := hm.elsewhere
      have hnone := hbefore hm.owned.toGraphRead hm.owned.uncancelled
      refine .inr ⟨_, helse, hnone, .inl ?_⟩
      rw [hm.written]
      exact hnone
  | released hr =>
      have helse := hr.elsewhere h
      obtain ⟨ended, rfl⟩ := hr.written
      exact .inr ⟨_, helse, hbefore hr.owned.toGraphRead hr.owned.uncancelled,
        .inl (hafter rfl hr.owned.uncancelled)⟩
  | prepared hp =>
      have helse := hp.elsewhere
      rw [hp.written] at helse ⊢
      exact .inr ⟨_, helse, hbefore hp.owned.toGraphRead hp.owned.uncancelled,
        .inl (hafter rfl hp.owned.uncancelled)⟩
  | completed hc =>
      have helse := hc.elsewhere
      rw [hc.written] at helse ⊢
      exact .inr ⟨_, helse, hbefore hc.owned.toGraphRead hc.owned.uncancelled,
        .inl (hafter rfl hc.owned.uncancelled)⟩
  | cancelled hc =>
      exact .inr ⟨_, hc.elsewhere h, hbefore hc.read hc.uncancelled, .inr ⟨_, _, rfl, hc⟩⟩

end Steps

/-- Every operation keeps every graph sound. -/
theorem sound_step {r r' : Records} (h : T.Sound svc) (he : GraphEffect svc r T r' T') :
    T'.Sound svc := by
  cases he with
  | unchanged => exact h
  | bound _ hbound => exact hbound.sound h
  | claimed hclaimed => exact hclaimed.sound h
  | moved hmoved => exact hmoved.sound h
  | released hreleased => exact hreleased.sound h
  | prepared hprepared => exact hprepared.sound h
  | completed hcompleted => exact hcompleted.sound h
  | cancelled hcancelled => exact hcancelled.sound h

end AgentFleet
