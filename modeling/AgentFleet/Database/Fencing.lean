import AgentFleet.Database.Machine
import AgentFleet.Graph.Invariants

/-! # Drivers are fenced by their claims

A driver changes a graph only under the claim that stands on the graph's row, and each new
claim is of a greater generation than the claims before it.

* `database_sound` carries `GraphTables.Sound` to every reachable database.
* `GraphTables.Fenced` is what the claims, the nodes and the joins have in common then.
* `ClaimsFollow` says how the claims of a later database continue those of an earlier one.
* `holds_of_guarded` says that a guarded transaction that takes effect holds the newest claim. -/

namespace AgentFleet

open Relational Transaction Transition

variable {svc : DatabaseServices} {d d' : Database}

/-! ### Reachable databases -/

theorem sound_move (h : DatabaseMove svc d d') (hs : d.graphs.Sound svc.toGraphServices) :
    d'.graphs.Sound svc.toGraphServices := by
  cases h with
  | store _ _ hgraphs | ledger _ _ hgraphs =>
      rw [hgraphs]
      exact hs
  | graph _ heffect => exact sound_step hs heffect

/-- The graphs of every reachable database are sound. -/
theorem database_sound (svc : DatabaseServices) (store : Store) (inputs : List DatabaseInput) :
    ((databaseMachine svc).run (Database.fresh store) inputs).graphs.Sound
      svc.toGraphServices := by
  have hinvariant := (databaseMoves svc).invariant (I := fun d => d.graphs.Sound
    svc.toGraphServices) fun _ _ => sound_move
  exact hinvariant.run (GraphTables.sound_empty _) inputs

/-! ### Claims, nodes and joins of one database -/

/-- A graph has one active claim at most, a running node has one, a prepared join has only
succeeded nodes, and a completed join is the prepared one. -/
structure GraphTables.Fenced (svc : GraphServices) (T : GraphTables) : Prop where
  oneActive : ∀ a ∈ T.claims, ∀ b ∈ T.claims, a.claim.parentRunId = b.claim.parentRunId →
    a.status = .active → b.status = .active → a = b
  running : ∀ record ∈ T.nodes, record.status = .running → ∃ c ∈ T.claims,
    c.claim.parentRunId = record.binding.parentRunId ∧ c.status = .active
  prepared : ∀ row ∈ T.graphs, row.graph.joinPreparation ≠ none → ∀ record ∈ T.nodes,
    record.binding.parentRunId = row.graph.parentRunId → record.status = .succeeded
  joined : ∀ row ∈ T.graphs, row.graph.status = .joined →
    ∃ completion ∈ row.graph.joinCompletion, ∃ preparation ∈ row.graph.joinPreparation,
      completion.preparationSha256 = preparation.preparationSha256 svc

variable {T T' : GraphTables} {claim : GraphDriverClaim} {input : DatabaseInput}
  {result : DatabaseResult}

theorem GraphTables.Sound.fenced {svc : GraphServices} (h : T.Sound svc) : T.Fenced svc := by
  constructor
  · intro a ha b hb hsame hactive hactive'
    obtain ⟨row, hrow, hid⟩ := h.claims a ha
    obtain ⟨heq, hdriver⟩ := (h.graphs row hrow).active a ha hid.symm hactive
    obtain ⟨heq', hdriver'⟩ :=
      (h.graphs row hrow).active b hb (hsame.symm.trans hid.symm) hactive'
    have hclaim : a.claim = b.claim := Option.some.inj (hdriver.symm.trans hdriver')
    rw [heq, heq', hclaim]
  · intro record hrecord hrunning
    obtain ⟨row, hrow, hid⟩ := h.nodes record hrecord
    have hsound := h.graphs row hrow
    cases hdriver : row.graph.driverClaim with
    | none => exact absurd hrunning (hsound.driven hdriver record hrecord hid.symm)
    | some claim =>
        obtain ⟨hmem, hparent, -⟩ := hsound.driver claim hdriver
        exact ⟨{ claim }, hmem, hparent.trans hid, rfl⟩
  · exact fun row hrow => (h.graphs row hrow).prepared
  · intro row hrow hjoined
    have hsound := (h.graphs row hrow).joined
    obtain ⟨completion, hcompletion⟩ := Option.ne_none_iff_exists'.mp (hsound.2 hjoined)
    obtain ⟨preparation, hpreparation, hsame⟩ := hsound.1 completion hcompletion
    exact ⟨completion, hcompletion, preparation, hpreparation, hsame⟩

/-! ### How the claims continue -/

/-- Claims are kept, the ended ones as they are, and a new claim is of a greater generation than
the claims of its graph before it. -/
structure ClaimsFollow (T T' : GraphTables) : Prop where
  kept : ∀ c ∈ T.claims, ∃ c' ∈ T'.claims, c'.claim = c.claim
    ∧ (c.status ≠ .active → c' = c)
  newer : ∀ c' ∈ T'.claims, (∀ c ∈ T.claims, c.claim ≠ c'.claim) → ∀ c ∈ T.claims,
    c.claim.parentRunId = c'.claim.parentRunId → c.claim.generation < c'.claim.generation

theorem ClaimsFollow.refl (T : GraphTables) : ClaimsFollow T T :=
  ⟨fun c hc => ⟨c, hc, rfl, fun _ => rfl⟩, fun c' hc' hnew => absurd rfl (hnew c' hc')⟩

theorem ClaimsFollow.trans {T'' : GraphTables} (h : ClaimsFollow T T') (h' : ClaimsFollow T' T'') :
    ClaimsFollow T T'' := by
  constructor
  · intro c hc
    obtain ⟨c', hc', hclaim, hended⟩ := h.kept c hc
    obtain ⟨c'', hc'', hclaim', hended'⟩ := h'.kept c' hc'
    refine ⟨c'', hc'', hclaim'.trans hclaim, fun hne => ?_⟩
    obtain rfl := hended hne
    exact hended' hne
  · intro c'' hc'' hnew c hc hsame
    by_cases hold : ∃ c' ∈ T'.claims, c'.claim = c''.claim
    · obtain ⟨c', hc', hclaim⟩ := hold
      rw [← hclaim] at hnew hsame ⊢
      exact h.newer c' hc' hnew c hc hsame
    · obtain ⟨c', hc', hclaim, -⟩ := h.kept c hc
      rw [← hclaim] at hsame ⊢
      exact h'.newer c'' hc'' (fun b hb heq => hold ⟨b, hb, heq⟩) c' hc' hsame

/-- Claims that are left alone. -/
theorem ClaimsFollow.of_eq (h : T'.claims = T.claims) : ClaimsFollow T T' := by
  constructor
  · exact fun c hc => ⟨c, h ▸ hc, rfl, fun _ => rfl⟩
  · exact fun c' hc' hnew => absurd rfl (hnew c' (h ▸ hc'))

/-- A claim that is active ends. -/
theorem claimsFollow_ending {status : ClaimStatus} {now : Timestamp}
    (hactive : ({ claim } : ClaimRow) ∈ T.claims)
    (h : T'.claims = (T.endingClaim claim.claimId status now).claims) : ClaimsFollow T T' := by
  constructor
  · intro c hc
    refine ⟨if c.claim.claimId = claim.claimId then c.ended status now else c, ?_, ?_, ?_⟩
    · rw [h]
      unfold GraphTables.endingClaim
      rw [Table.mem_update]
      exact ⟨c, hc, by simp only [decide_eq_true_eq]⟩
    · split_ifs <;> rfl
    · intro hne
      have hother : c.claim.claimId ≠ claim.claimId := by
        intro hid
        rw [Table.eq_of_clash hc hactive (.inl hid)] at hne
        exact hne rfl
      rw [if_neg hother]
  · intro c' hc' hnew
    rw [h] at hc'
    rcases endingClaim_cases hc' with ⟨a, ha, -, rfl⟩ | ⟨hold, -⟩
    · exact absurd rfl (hnew a ha)
    · exact absurd rfl (hnew c' hold)

theorem claimsFollow_step {svc : GraphServices} {r r' : Records} (hs : T.Sound svc)
    (h : GraphEffect svc r T r' T') : ClaimsFollow T T' := by
  cases h with
  | unchanged => exact .refl T
  | bound _ hb =>
      obtain ⟨graphs, nodes, -, -, rfl⟩ := hb.inserted
      exact .of_eq rfl
  | @claimed _ graph claim now hc =>
      obtain ⟨claims, hclaims, rfl⟩ := hc.written
      constructor
      · exact fun c hmem => ⟨c, (Table.mem_insert hclaims).mpr (.inl hmem), rfl, fun _ => rfl⟩
      · intro c' hc' hnew c hmem hsame
        rcases (Table.mem_insert hclaims).mp hc' with hold | rfl
        · exact absurd rfl (hnew c' hold)
        · have hbound := (hs.read hc.read).generation c hmem (hsame.trans hc.parent)
          have hnext := hc.next
          show c.claim.generation < claim.generation
          omega
  | moved hm => exact .of_eq (by rw [hm.written]; rfl)
  | released hr =>
      obtain ⟨ended, rfl⟩ := hr.written
      have hdriver := (hs.read hr.owned.toGraphRead).driver _ hr.owned.driver
      exact claimsFollow_ending hdriver.1 rfl
  | prepared hp => exact .of_eq (by rw [hp.written]; rfl)
  | completed hc => exact .of_eq (by rw [hc.written]; rfl)
  | @cancelled _ _ graph now hc =>
      obtain ⟨ended, claims, -, hclaims, rfl⟩ := hc.written
      cases hdriver : graph.driverClaim with
      | none =>
          rw [hdriver] at hclaims
          exact .of_eq hclaims
      | some claim =>
          rw [hdriver] at hclaims
          exact claimsFollow_ending ((hs.read hc.read).driver claim hdriver).1 hclaims

/-- The claims of a later database continue those of a reachable one. -/
theorem claims_follow (hs : d.graphs.Sound svc.toGraphServices) (inputs : List DatabaseInput) :
    ClaimsFollow d.graphs ((databaseMachine svc).run d inputs).graphs := by
  refine (databaseMoves svc).rel (I := fun d => d.graphs.Sound svc.toGraphServices)
    (Q := fun d d' => ClaimsFollow d.graphs d'.graphs) (fun _ _ => sound_move)
    (fun _ => .refl _) (fun _ _ _ => .trans) (fun d d' hmove hsound => ?_) hs inputs
  cases hmove with
  | store _ _ hgraphs | ledger _ _ hgraphs => exact .of_eq (congrArg GraphTables.claims hgraphs)
  | graph _ heffect => exact claimsFollow_step hsound heffect

/-! ### Guarded transactions -/

/-- The claim that a transaction is guarded by. -/
def DatabaseOp.guard? : DatabaseOp → Option GraphDriverClaim
  | .graph (.transitionNode claim _) => some claim
  | .graph (.releaseDriver claim _ _) => some claim
  | .graph (.markJoinPrepared claim _ _) => some claim
  | .graph (.markJoinComplete claim _ _) => some claim
  | _ => none

/-- The claim is active, and no claim of its graph is newer. -/
def GraphTables.Holds (T : GraphTables) (claim : GraphDriverClaim) : Prop :=
  ({ claim } : ClaimRow) ∈ T.claims ∧ ∀ c ∈ T.claims,
    c.claim.parentRunId = claim.parentRunId → c.claim.generation ≤ claim.generation

/-- The claim has ended, or a newer claim of its graph is there. -/
def GraphTables.Stale (T : GraphTables) (claim : GraphDriverClaim) : Prop :=
  ∃ c ∈ T.claims, c.claim = claim ∧ (c.status ≠ .active ∨ ∃ b ∈ T.claims,
    b.claim.parentRunId = claim.parentRunId ∧ claim.generation < b.claim.generation)

/-- A stale claim stays stale, and does not hold. -/
theorem ClaimsFollow.not_holds (h : ClaimsFollow T T') (hstale : T.Stale claim) :
    ¬ T'.Holds claim := by
  rintro ⟨hactive, hnewest⟩
  obtain ⟨c, hc, rfl, hended | ⟨b, hb, hparent, hlt⟩⟩ := hstale
  · obtain ⟨c', hc', hclaim, hkept⟩ := h.kept c hc
    obtain rfl := hkept hended
    rw [Table.eq_of_clash hc' hactive (.inl rfl)] at hended
    exact hended rfl
  · obtain ⟨b', hb', hclaim, -⟩ := h.kept b hb
    have hbound := hnewest b' hb' (by rw [hclaim, hparent])
    rw [hclaim] at hbound
    omega

theorem guard_owned (hguard : input.op.guard? = some claim)
    (h : databaseBody svc input.reads input.amb input.op d = .ok (result, d')) :
    ∃ graph, GraphOwned svc.toGraphServices d.graphs claim graph := by
  obtain ⟨op, reads, amb⟩ := input
  unfold DatabaseOp.guard? at hguard
  dsimp only at hguard h
  split at hguard
  · obtain rfl := Option.some.inj hguard
    obtain ⟨_, h, -⟩ := map_ok.mp h
    obtain ⟨s, hs, -⟩ := onGraphs_ok.mp h
    obtain ⟨-, graph, _, hmoved⟩ := transitionNode_ok hs
    exact ⟨graph, hmoved.owned⟩
  · obtain rfl := Option.some.inj hguard
    obtain ⟨_, h, -⟩ := map_ok.mp h
    obtain ⟨s, hs, -⟩ := onGraphs_ok.mp h
    obtain ⟨-, graph, hreleased⟩ := releaseDriver_ok hs
    exact ⟨graph, hreleased.owned⟩
  · obtain rfl := Option.some.inj hguard
    obtain ⟨_, h, -⟩ := map_ok.mp h
    obtain ⟨s, hs, -⟩ := onGraphs_ok.mp h
    obtain ⟨-, graph, howned, -⟩ := markJoinPrepared_ok hs
    exact ⟨graph, howned⟩
  · obtain rfl := Option.some.inj hguard
    obtain ⟨_, h, -⟩ := map_ok.mp h
    obtain ⟨s, hs, -⟩ := onGraphs_ok.mp h
    obtain ⟨-, graph, howned, -⟩ := markJoinComplete_ok hs
    exact ⟨graph, howned⟩
  · exact absurd hguard.symm (Option.some_ne_none claim)

/-- A guarded transaction that takes effect holds its claim. -/
theorem holds_of_guarded (hs : d.graphs.Sound svc.toGraphServices)
    (hguard : input.op.guard? = some claim)
    (h : databaseBody svc input.reads input.amb input.op d = .ok (result, d')) :
    d.graphs.Holds claim := by
  obtain ⟨graph, howned⟩ := guard_owned hguard h
  have hsound := hs.read howned.toGraphRead
  obtain ⟨hmem, hparent, hgeneration⟩ := hsound.driver claim howned.driver
  refine ⟨hmem, fun c hc hsame => ?_⟩
  rw [hgeneration]
  exact hsound.generation c hc (hsame.trans hparent)

/-- In every reachable database the claims, the nodes and the joins of the graphs agree; claims
only grow newer; and a guarded transaction takes effect only under the active and newest claim,
so one under a claim that was stale at any earlier time changes nothing. -/
theorem driver_fencing (svc : DatabaseServices) (store : Store)
    (before after : List DatabaseInput) :
    let m := databaseMachine svc
    let d := m.run (Database.fresh store) before
    let d' := m.run d after
    d'.graphs.Fenced svc.toGraphServices
      ∧ ClaimsFollow d.graphs d'.graphs
      ∧ (∀ input claim result, input.op.guard? = some claim → m.out d' input = .ok result →
        d'.graphs.Holds claim)
      ∧ ∀ input claim, input.op.guard? = some claim → d.graphs.Stale claim →
        (∃ e, m.out d' input = .error e) ∧ m.next d' input = d' := by
  intro m d d'
  have hs : d.graphs.Sound svc.toGraphServices := database_sound svc store before
  have hfollow : ClaimsFollow d.graphs d'.graphs := claims_follow hs after
  have hs' : d'.graphs.Sound svc.toGraphServices := by
    have hall := database_sound svc store (before ++ after)
    rw [Machine.run_append] at hall
    exact hall
  refine ⟨hs'.fenced, hfollow, fun input claim result hguard hout => ?_,
    fun input claim hguard hstale => refused_of_body fun result t hok => ?_⟩
  · exact holds_of_guarded hs' hguard (committed_of_out hout)
  · exact hfollow.not_holds hstale (holds_of_guarded hs' hguard hok)

end AgentFleet
