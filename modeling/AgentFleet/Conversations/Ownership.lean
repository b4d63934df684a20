import AgentFleet.Conversations.Steps

/-! # Ownership of turns

The claims of a turn are numbered `1, 2, …` in the order of their issue, and the one that is active,
if any, is the newest and the one that the row of the turn names (`TurnOwned`).  A claim that has
ended stays as it is, so no call under it is accepted again.  A turn that a fence has closed rests
over a run that has ended (`Closed`), and no call issues a claim for it again.

`turn_ownership` is all of this for every interleaving of the calls of the store with whatever else
happens to the database. -/

namespace AgentFleet.Conversations

open Relational Transaction Checks Transition

variable {svc : ConversationServices} {reads : ConversationReads} {amb : Ambient} {s t : Registry}

/-! ### The claims of a turn -/

/-- The claims of a turn count up to its owner generation, and its active claim is the newest one. -/
structure TurnOwned (claims : List TurnClaimRow) (turn : ConversationTurn) : Prop where
  generations : claims.map TurnClaimRow.generation = List.range' 1 turn.ownerGeneration
  active : (claims.filter TurnClaimRow.isActive).map TurnClaimRow.claimId
    = turn.activeClaimId.toList
  newest : ∀ row ∈ claims, row.isActive = true → row.generation = turn.ownerGeneration

/-- Every turn is owned under its claims, and there are no other claims. -/
structure Registry.Owned (s : Registry) : Prop where
  turns : ∀ row ∈ s.turns, TurnOwned (s.claimsOf row.turnId) row.turn
  claims : ∀ claim ∈ s.claims, ∃ row ∈ s.turns, row.turnId = claim.turnId

variable {turnId runId : String} {row : TurnClaimRow} {turn : ConversationTurn}
  {claims claims' : List TurnClaimRow} {before : ConversationRow} {claim : ConversationClaim}
  {reason : FenceReason} {op : ConversationOp} {result : ConversationResult}
  {binding : ConversationRunBinding}

theorem Registry.mem_claimsOf : row ∈ s.claimsOf turnId ↔ row ∈ s.claims ∧ row.turnId = turnId := by
  unfold claimsOf
  rw [List.mem_filter, decide_eq_true_iff]
  exact Iff.rfl

theorem Registry.claimsOf_congr (h : t.claims = s.claims) (turnId : String) :
    t.claimsOf turnId = s.claimsOf turnId := by
  unfold claimsOf
  rw [h]

/-- The row of the claim that a turn names. -/
theorem TurnOwned.activeRow (h : TurnOwned (s.claimsOf turnId) turn) (hrow : row ∈ s.claims)
    (hactive : turn.activeClaimId = some row.claimId) :
    row.turnId = turnId ∧ row.isActive = true := by
  have hmem : row.claimId ∈ ((s.claimsOf turnId).filter TurnClaimRow.isActive).map
      TurnClaimRow.claimId := by
    rw [h.active, hactive, Option.toList_some]
    exact List.mem_singleton.mpr rfl
  obtain ⟨other, hother, hid⟩ := List.mem_map.mp hmem
  obtain ⟨hclaim, hisActive⟩ := List.mem_filter.mp hother
  obtain ⟨htable, hturn⟩ := Registry.mem_claimsOf.mp hclaim
  obtain rfl := Table.eq_of_clash htable hrow (.inl hid)
  exact ⟨hturn, hisActive⟩

/-- A turn that names no claim has none that is active. -/
theorem TurnOwned.inactive (h : TurnOwned claims turn) (hfree : turn.activeClaimId = none) :
    ∀ row ∈ claims, row.isActive = false := by
  intro row hrow
  have hnone := h.active
  rw [hfree, Option.toList_none, List.map_eq_nil_iff, List.filter_eq_nil_iff] at hnone
  exact Bool.eq_false_iff.mpr (hnone row hrow)

/-! ### Changes of the claims -/

section ClaimChange

variable {old new : ConversationTurn}

/-- The claims of the turn after a change. -/
inductive ClaimsNow (old new : ConversationTurn) (claims : List TurnClaimRow) :
    List TurnClaimRow → Prop where
  | kept (hold : old.activeClaimId = none) (hnew : new.activeClaimId = none)
      (hgeneration : new.ownerGeneration = old.ownerGeneration) : ClaimsNow old new claims claims
  | issued {row : TurnClaimRow} (hold : old.activeClaimId = none)
      (hnew : new.activeClaimId = some row.claimId)
      (hgeneration : new.ownerGeneration = old.ownerGeneration + 1)
      (hnext : row.generation = old.ownerGeneration + 1) (hactive : row.isActive = true) :
      ClaimsNow old new claims (claims ++ [row])
  | ended {row after : TurnClaimRow} (hnew : new.activeClaimId = none)
      (hgeneration : new.ownerGeneration = old.ownerGeneration) (hactive : row.isActive = true)
      (hunique : ∀ r ∈ claims, r.isActive = true → r = row) (hclaim : after.claim = row.claim)
      (hended : after.isActive = false) :
      ClaimsNow old new claims (claims.map fun r => if r = row then after else r)

theorem ClaimsNow.owned {claims claims' : List TurnClaimRow} (h : ClaimsNow old new claims claims')
    (howned : TurnOwned claims old) : TurnOwned claims' new := by
  cases h with
  | kept hold hnew hgeneration =>
      refine ⟨?_, ?_, ?_⟩
      · rw [hgeneration]
        exact howned.generations
      · rw [howned.active, hold, hnew]
      · rw [hgeneration]
        exact howned.newest
  | @issued row hold hnew hgeneration hnext hactive =>
      have hinactive := howned.inactive hold
      have hnone : claims.filter TurnClaimRow.isActive = [] := by
        rw [List.filter_eq_nil_iff]
        intro r hr
        rw [hinactive r hr]
        exact Bool.false_ne_true
      refine ⟨?_, ?_, ?_⟩
      · rw [List.map_append, howned.generations, hgeneration, List.range'_1_concat, List.map_singleton,
          hnext, Nat.add_comm 1]
      · rw [List.filter_append, hnone, List.filter_singleton, hactive, hnew]
        rfl
      · intro r hr hisActive
        rcases List.mem_append.mp hr with hold' | hlast
        · rw [hinactive r hold'] at hisActive
          cases hisActive
        · rw [List.mem_singleton.mp hlast, hnext, hgeneration]
  | @ended row after hnew hgeneration hactive hunique hclaim hended =>
      have hnone : ∀ r ∈ claims.map (fun r => if r = row then after else r),
          r.isActive = false := by
        intro r hr
        obtain ⟨r₀, hr₀, rfl⟩ := List.mem_map.mp hr
        split_ifs with hrow
        · exact hended
        · refine Bool.eq_false_iff.mpr fun hisActive => ?_
          exact hrow (hunique r₀ hr₀ hisActive)
      refine ⟨?_, ?_, ?_⟩
      · rw [hgeneration, ← howned.generations, List.map_map]
        refine List.map_congr_left fun r _ => ?_
        dsimp only [Function.comp]
        split_ifs with hrow
        · rw [hrow]
          exact congrArg ConversationClaim.generation hclaim
        · rfl
      · rw [hnew, Option.toList_none, List.map_eq_nil_iff, List.filter_eq_nil_iff]
        intro r hr
        rw [hnone r hr]
        exact Bool.false_ne_true
      · intro r hr hisActive
        rw [hnone r hr] at hisActive
        cases hisActive

/-- A change of the claims of a turn leaves those of the other turns alone. -/
theorem ClaimChange.claimsOf (h : ClaimChange s.claims old new t.claims)
    (howned : TurnOwned (s.claimsOf old.binding.turnId) old) (turnId : String) :
    (turnId = old.binding.turnId → ClaimsNow old new (s.claimsOf turnId) (t.claimsOf turnId))
      ∧ (turnId ≠ old.binding.turnId → t.claimsOf turnId = s.claimsOf turnId) := by
  generalize hclaims : t.claims = claims at h
  cases h with
  | kept hold hnew hgeneration =>
      rw [Registry.claimsOf_congr hclaims]
      exact ⟨fun _ => .kept hold hnew hgeneration, fun _ => rfl⟩
  | @issued claim recordEventId _ hold hnew hgeneration hnext hof hrows =>
      have hfilter : t.claimsOf turnId = s.claimsOf turnId
          ++ if decide (claim.turnId = turnId) = true
            then [({ claim, recordEventId } : TurnClaimRow)] else [] := by
        unfold Registry.claimsOf
        rw [hclaims]
        exact Table.filter_insert hrows _
      rw [hfilter, hof.turn]
      constructor
      · rintro rfl
        rw [if_pos (decide_eq_true rfl)]
        exact .issued hold hnew hgeneration hnext rfl
      · intro hother
        rw [if_neg (fun h => hother (of_decide_eq_true h).symm), List.append_nil]
  | @ended row after _ hold hnew hgeneration hclaim hended hrows =>
      obtain ⟨hrow, -⟩ := Table.replace?_eq_some hrows
      obtain ⟨hturn, hactive⟩ := howned.activeRow hrow hold
      have hkey : after.turnId = row.turnId := congrArg ConversationClaim.turnId hclaim
      have hfilter : t.claimsOf turnId
          = (s.claimsOf turnId).map fun r => if r = row then after else r := by
        unfold Registry.claimsOf
        rw [hclaims]
        exact Table.filter_replace? hrows (by rw [hkey])
      rw [hfilter]
      constructor
      · rintro rfl
        refine .ended hnew hgeneration hactive (fun r hr hisActive => ?_) hclaim ?_
        · obtain ⟨hmem, hid⟩ := Registry.mem_claimsOf.mp hr
          exact Table.eq_of_clash hmem hrow (.inr ⟨hid.trans hturn.symm, .inr ⟨hisActive, hactive⟩⟩)
        · exact decide_eq_false hended
      · intro hother
        refine (List.map_congr_left fun r hr => ?_).trans (List.map_id _)
        have hne : r ≠ row := by
          rintro rfl
          exact hother ((Registry.mem_claimsOf.mp hr).2.symm.trans hturn)
        rw [if_neg hne]
        rfl

end ClaimChange

/-! ### Steps -/

/-- The rows of the turns after a step of one of them. -/
theorem TurnStep.mem_turns {row : TurnRow} {new : ConversationTurn} (h : TurnStep s row new t) :
    row ∈ s.turns ∧ ∃ moved ∈ t.turns, moved.turn = new ∧ moved.turnId = row.turnId
      ∧ ∀ r, r ∈ t.turns ↔ r = moved ∨ r ∈ s.turns ∧ r ≠ row := by
  obtain ⟨recordEventId, hrows⟩ := h.turns
  have hmem := fun r => Table.mem_replace? hrows (c := r)
  refine ⟨(Table.replace?_eq_some hrows).1, _, (hmem _).mpr (.inl rfl), rfl, ?_, hmem⟩
  exact congrArg ConversationRunBinding.turnId h.binding

theorem TurnStep.owned {row : TurnRow} {new : ConversationTurn} (h : TurnStep s row new t)
    (howned : s.Owned) : t.Owned := by
  obtain ⟨hrow, moved, hmoved, rfl, hid, hmem⟩ := h.mem_turns
  have hclaims := h.claims.claimsOf (howned.turns row hrow)
  have hkept : ∀ r ∈ s.turns, ∃ r' ∈ t.turns, r'.turnId = r.turnId := by
    intro r hr
    by_cases hne : r = row
    · exact ⟨moved, hmoved, hid.trans (congrArg TurnRow.turnId hne.symm)⟩
    · exact ⟨r, (hmem r).mpr (.inr ⟨hr, hne⟩), rfl⟩
  constructor
  · intro r hr
    rcases (hmem r).mp hr with rfl | ⟨hold, hne⟩
    · rw [hid]
      exact ((hclaims row.turnId).1 rfl).owned (howned.turns row hrow)
    · have hother : r.turnId ≠ row.turnId := fun heq =>
        hne (Table.eq_of_clash hold hrow (.inl heq))
      rw [(hclaims r.turnId).2 hother]
      exact howned.turns r hold
  · intro claim hclaim
    have hin : claim ∈ t.claimsOf claim.turnId := Registry.mem_claimsOf.mpr ⟨hclaim, rfl⟩
    by_cases hsame : claim.turnId = row.turnId
    · exact ⟨moved, hmoved, hid.trans hsame.symm⟩
    · rw [(hclaims claim.turnId).2 hsame] at hin
      obtain ⟨r, hr, hrid⟩ := howned.claims claim (Registry.mem_claimsOf.mp hin).1
      obtain ⟨r', hr', hrid'⟩ := hkept r hr
      exact ⟨r', hr', hrid'.trans hrid⟩

/-- The tables after a registration. -/
theorem TurnRegistered.tables (h : TurnRegistered svc s before turn t) :
    ∃ row claim, row.turn = turn ∧ claim.turnId = turn.binding.turnId ∧ claim.generation = 1
      ∧ claim.isActive = true ∧ turn.ownerGeneration = 1 ∧ turn.activeClaimId = some claim.claimId
      ∧ s.turns.insert row = some t.turns ∧ s.claims.insert claim = some t.claims := by
  obtain ⟨submission, run, configHash, limits, turnId, claimId, now, rfl, -, _, hclaims⟩ := h.built
  obtain ⟨_, hturns⟩ := h.turns
  exact ⟨_, _, rfl, rfl, rfl, rfl, rfl, rfl, hturns, hclaims⟩

theorem TurnRegistered.owned (h : TurnRegistered svc s before turn t) (howned : s.Owned) :
    t.Owned := by
  obtain ⟨row, claim, rfl, hturn, hgeneration, hactive, howner, hnamed, hturns, hclaims⟩ := h.tables
  have hfilter : ∀ turnId, t.claimsOf turnId
      = s.claimsOf turnId ++ if decide (claim.turnId = turnId) = true then [claim] else [] :=
    fun turnId => Table.filter_insert hclaims _
  have hfresh : ∀ r ∈ s.turns, r.turnId ≠ row.turnId := fun r hr heq =>
    Table.not_clash_of_insert hturns hr (.inl heq)
  have hempty : s.claimsOf row.turnId = [] := by
    rw [List.eq_nil_iff_forall_not_mem]
    intro c hc
    obtain ⟨htable, hid⟩ := Registry.mem_claimsOf.mp hc
    obtain ⟨r, hr, hrid⟩ := howned.claims c htable
    exact hfresh r hr (hrid.trans hid)
  constructor
  · intro r hr
    rcases (Table.mem_insert hturns).mp hr with hold | rfl
    · have hother : ¬ decide (claim.turnId = r.turnId) = true := fun heq =>
        hfresh r hold ((of_decide_eq_true heq).symm.trans hturn)
      rw [hfilter, if_neg hother, List.append_nil]
      exact howned.turns r hold
    · have hown : decide (claim.turnId = r.turnId) = true := decide_eq_true hturn
      rw [hfilter, hempty, if_pos hown, List.nil_append]
      refine ⟨?_, ?_, ?_⟩
      · rw [List.map_singleton, hgeneration, howner]
        rfl
      · rw [List.filter_singleton, hactive, hnamed]
        rfl
      · intro c hc _
        rw [List.mem_singleton.mp hc, hgeneration, howner]
  · intro c hc
    rcases (Table.mem_insert hclaims).mp hc with hold | rfl
    · obtain ⟨r, hr, hrid⟩ := howned.claims c hold
      exact ⟨r, (Table.mem_insert hturns).mpr (.inl hr), hrid⟩
    · exact ⟨row, (Table.mem_insert hturns).mpr (.inr rfl), hturn.symm⟩

theorem Registry.Owned.of_same (h : t.claims = s.claims) (h' : t.turns = s.turns)
    (howned : s.Owned) : t.Owned := by
  constructor
  · intro row hrow
    rw [h'] at hrow
    rw [claimsOf_congr h]
    exact howned.turns row hrow
  · intro claim hclaim
    rw [h] at hclaim
    rw [h']
    exact howned.claims claim hclaim

theorem RegistryStep.owned (h : RegistryStep svc s t) (howned : s.Owned) : t.Owned := by
  cases h with
  | same h => exact howned.of_same h.claims h.turns
  | created _ hturns hclaims => exact howned.of_same hclaims hturns
  | registered h | moved _ h => exact h.owned howned

theorem owned_invariant (svc : ConversationServices) :
    (registryMachine svc).Invariant Registry.Owned :=
  fun s input howned => (registryMachine_step svc s input).1.owned howned

/-- No conversation has been opened yet. -/
def Registry.fresh (database : Database) (shared : SharedTables) : Registry where
  database := database
  shared := shared
  conversations := .empty
  turns := .empty
  claims := .empty

theorem owned_fresh (database : Database) (shared : SharedTables) :
    (Registry.fresh database shared).Owned := by
  constructor
  · intro row hrow
    exact absurd hrow (Table.not_mem_empty row)
  · intro claim hclaim
    exact absurd hclaim (Table.not_mem_empty claim)

/-! ### One owner -/

/-- A turn has at most one active claim, and every claim has a greater generation than those before
it. -/
def OneOwner (s : Registry) : Prop :=
  ∀ turnId, ((s.claimsOf turnId).filter TurnClaimRow.isActive).length ≤ 1
    ∧ ((s.claimsOf turnId).map TurnClaimRow.generation).Pairwise (· < ·)

theorem TurnOwned.oneOwner {claims : List TurnClaimRow} {turn : ConversationTurn}
    (h : TurnOwned claims turn) : (claims.filter TurnClaimRow.isActive).length ≤ 1
      ∧ (claims.map TurnClaimRow.generation).Pairwise (· < ·) := by
  constructor
  · rw [← List.length_map TurnClaimRow.claimId, h.active, Option.length_toList]
    split_ifs
    · exact Nat.le_refl 1
    · exact Nat.zero_le 1
  · rw [h.generations]
    exact List.pairwise_lt_range'

/-- A turn that is not there has no claims. -/
theorem Registry.Owned.claimsOf_eq_nil (h : s.Owned) (hnot : ∀ row ∈ s.turns, row.turnId ≠ turnId) :
    s.claimsOf turnId = [] := by
  rw [List.eq_nil_iff_forall_not_mem]
  intro claim hclaim
  obtain ⟨hmem, hid⟩ := Registry.mem_claimsOf.mp hclaim
  obtain ⟨row, hrow, hturn⟩ := h.claims claim hmem
  exact hnot row hrow (hturn.trans hid)

theorem Registry.Owned.oneOwner (h : s.Owned) : OneOwner s := by
  intro turnId
  by_cases hfound : ∃ row ∈ s.turns, row.turnId = turnId
  · obtain ⟨row, hrow, rfl⟩ := hfound
    exact (h.turns row hrow).oneOwner
  · rw [h.claimsOf_eq_nil fun row hrow hid => hfound ⟨row, hrow, hid⟩]
    exact ⟨Nat.zero_le 1, .nil⟩

/-! ### Claims over a run -/

/-- The claims of every turn only get longer, and a claim that has ended stays as it is. -/
structure ClaimsFollow (s t : Registry) : Prop where
  grown : ∀ turnId, (s.claimsOf turnId).map TurnClaimRow.claim
    <+: (t.claimsOf turnId).map TurnClaimRow.claim
  ended : ∀ row ∈ s.claims, row.isActive = false → row ∈ t.claims

theorem ClaimsFollow.refl (s : Registry) : ClaimsFollow s s :=
  ⟨fun _ => List.prefix_rfl, fun _ hrow _ => hrow⟩

theorem ClaimsFollow.of_eq (h : t.claims = s.claims) : ClaimsFollow s t := by
  constructor
  · intro turnId
    rw [Registry.claimsOf_congr h]
  · intro row hrow _
    rw [h]
    exact hrow

theorem ClaimsFollow.trans {u : Registry} (h : ClaimsFollow s t) (h' : ClaimsFollow t u) :
    ClaimsFollow s u := by
  constructor
  · intro turnId
    exact (h.grown turnId).trans (h'.grown turnId)
  · intro row hrow hended
    exact h'.ended row (h.ended row hrow hended) hended

theorem ClaimsFollow.insert {claim : TurnClaimRow} (h : s.claims.insert claim = some t.claims) :
    ClaimsFollow s t := by
  constructor
  · intro turnId
    unfold Registry.claimsOf
    rw [Table.filter_insert h, List.map_append]
    exact List.prefix_append _ _
  · intro row hrow _
    exact (Table.mem_insert h).mpr (.inl hrow)

/-- What a step leaves of the claims of one turn. -/
theorem ClaimsNow.follow {old new : ConversationTurn} (h : ClaimsNow old new claims claims') :
    claims.map TurnClaimRow.claim <+: claims'.map TurnClaimRow.claim
      ∧ ∀ row ∈ claims, row.isActive = false → row ∈ claims' := by
  cases h with
  | kept => exact ⟨List.prefix_rfl, fun _ hrow _ => hrow⟩
  | issued =>
      rw [List.map_append]
      exact ⟨List.prefix_append _ _, fun _ hrow _ => List.mem_append_left _ hrow⟩
  | @ended row after hnew hgeneration hactive hunique hclaim hended =>
      constructor
      · have hclaims : (claims.map fun r => if r = row then after else r).map TurnClaimRow.claim
            = claims.map TurnClaimRow.claim := by
          rw [List.map_map]
          refine List.map_congr_left fun r _ => ?_
          dsimp only [Function.comp]
          split_ifs with hrow
          · rw [hrow, hclaim]
          · rfl
        rw [hclaims]
      · intro r hr hinactive
        refine List.mem_map.mpr ⟨r, hr, if_neg ?_⟩
        rintro rfl
        rw [hactive] at hinactive
        cases hinactive

theorem TurnStep.follow {row : TurnRow} {new : ConversationTurn} (h : TurnStep s row new t)
    (howned : s.Owned) : ClaimsFollow s t := by
  have hclaims := h.claims.claimsOf (howned.turns row h.mem_turns.1)
  have hboth : ∀ turnId, (s.claimsOf turnId).map TurnClaimRow.claim
      <+: (t.claimsOf turnId).map TurnClaimRow.claim
      ∧ ∀ r ∈ s.claimsOf turnId, r.isActive = false → r ∈ t.claimsOf turnId := by
    intro turnId
    by_cases hsame : turnId = row.turnId
    · exact ((hclaims turnId).1 hsame).follow
    · rw [(hclaims turnId).2 hsame]
      exact ⟨List.prefix_rfl, fun _ hrow _ => hrow⟩
  constructor
  · intro turnId
    exact (hboth turnId).1
  · intro r hr hended
    have hin := (hboth r.turnId).2 r (Registry.mem_claimsOf.mpr ⟨hr, rfl⟩) hended
    exact (Registry.mem_claimsOf.mp hin).1

theorem RegistryStep.follow (h : RegistryStep svc s t) (howned : s.Owned) : ClaimsFollow s t := by
  cases h with
  | same h => exact .of_eq h.claims
  | created _ _ hclaims => exact .of_eq hclaims
  | registered h =>
      obtain ⟨_, _, -, -, -, -, -, -, -, hclaims⟩ := h.tables
      exact .insert hclaims
  | moved _ h => exact h.follow howned

theorem claimsFollow_run (svc : ConversationServices) (howned : s.Owned)
    (inputs : List RegistryInput) : ClaimsFollow s ((registryMachine svc).run s inputs) :=
  Machine.run_rel (owned_invariant svc) .refl (fun _ _ _ h h' => h.trans h')
    (fun s input howned => (registryMachine_step svc s input).1.follow howned) howned inputs

/-! ### Guarded calls -/

/-- The claim under which a call is made. -/
def ConversationOp.guard? : ConversationOp → Option ConversationClaim
  | .assertClaim claim => some claim
  | .settle claim _ _ _ => some claim
  | .fence _ _ _ claim => claim
  | _ => none

/-- A claim is the active one of its turn. -/
def Registry.Holds (s : Registry) (claim : ConversationClaim) : Prop :=
  ∃ row ∈ s.claims, row.claim = claim ∧ row.isActive = true

theorem Owned.holds (h : Conversations.Owned svc s claim turn) (howned : s.Owned) :
    s.Holds claim := by
  obtain ⟨row, hrow, -, rfl⟩ := h.stored
  obtain ⟨hmem, -⟩ := Registry.claim?_mem hrow
  obtain ⟨turnRow, hturn, rfl, -⟩ := turnOf_ok.mp h.read
  obtain ⟨hstored, -⟩ := Registry.turn?_mem hturn
  exact ⟨row, hmem, rfl, ((howned.turns turnRow hstored).activeRow hmem h.active).2⟩

theorem fenceAuthority_some (h : fenceAuthority svc s turn runId reason (some claim) = .ok ()) :
    ∃ held, Conversations.Owned svc s claim held := by
  unfold fenceAuthority at h
  obtain ⟨held, hheld, -⟩ := Checks.bind_ok.mp h
  exact ⟨held, owned_ok hheld⟩

/-- A call under a claim is accepted only while that claim is active. -/
theorem holds_of_accepted (hguard : op.guard? = some claim)
    (h : conversationBody svc reads amb op s = .ok (result, t)) (howned : s.Owned) :
    s.Holds claim := by
  cases op with
  | assertClaim =>
      cases hguard
      obtain ⟨_, h, -⟩ := Transaction.map_ok.mp h
      exact (owned_ok (reading_ok.mp h).1).holds howned
  | settle =>
      cases hguard
      obtain ⟨_, h, -⟩ := Transaction.map_ok.mp h
      obtain ⟨row, before, hsettled⟩ := settle_ok h
      exact hsettled.owned.holds howned
  | fence =>
      cases hguard
      obtain ⟨_, h, -⟩ := Transaction.map_ok.mp h
      obtain ⟨row, before, run, hfenced, -⟩ := fence_ok h
      obtain ⟨turn, hheld⟩ := fenceAuthority_some hfenced.authority
      exact hheld.holds howned
  | _ => cases hguard

/-- Every call under the claim raises and changes nothing. -/
def Refused (svc : ConversationServices) (s : Registry) (claimId : String) : Prop :=
  ∀ input op claim, input.op = .conversation op → op.guard? = some claim →
    claim.claimId = claimId → ∃ e, (registryMachine svc).out s input = .error e
      ∧ (registryMachine svc).next s input = s

theorem refused_of_ended (svc : ConversationServices) (howned : s.Owned) (hrow : row ∈ s.claims)
    (hended : row.isActive = false) : Refused svc s row.claimId := by
  intro input op claim hop hguard hid
  rcases next_cases svc s input with ⟨result, hok, -⟩ | ⟨e, -, hout, hnext⟩
  · rw [hop] at hok
    obtain ⟨other, hother, rfl, hactive⟩ :=
      holds_of_accepted hguard (withinBoundary_ok.mp hok) howned
    obtain rfl := Table.eq_of_clash hother hrow (.inl hid)
    rw [hended] at hactive
    cases hactive
  · exact ⟨e, hout, hnext⟩

/-! ### Fences -/

/-- The run whose turn a call fences. -/
def ConversationOp.fences? : ConversationOp → Option String
  | .fence runId _ _ _ => some runId
  | .prepareReviewedRecovery binding => binding.snapshot.selection.runId
  | _ => none

/-- The run has ended. -/
def RunOver (s : Registry) (runId : String) : Prop :=
  ∃ row ∈ s.database.store.records.runs, row.run.runId = runId ∧ isTerminal row.run.status = true

/-- The turn is not owned, and does not wait for an owner. -/
structure Resting (turn : ConversationTurn) : Prop where
  free : turn.activeClaimId = none
  notRunning : turn.status ≠ .running
  notWaiting : turn.status ≠ .waiting

theorem Resting.of_recovery (hstatus : turn.status = .recoveryRequired)
    (hfree : turn.activeClaimId = none) : Resting turn := by
  constructor
  · exact hfree
  · rw [hstatus]
    exact ConversationTurnStatus.noConfusion
  · rw [hstatus]
    exact ConversationTurnStatus.noConfusion

/-- The turn with a binding rests, and its run is over. -/
structure Closed (s : Registry) (binding : ConversationRunBinding) : Prop where
  ended : RunOver s binding.runId
  turn : ∃ row ∈ s.turns, row.turn.binding = binding ∧ Resting row.turn

theorem RunOver.moved {runId : String} (h : RunOver s runId)
    (hmoved : RunsFollow s.database.store.records t.database.store.records) : RunOver t runId := by
  obtain ⟨row, hrow, hid, hended⟩ := h
  obtain ⟨later, hlater, hfollows⟩ := hmoved row hrow
  refine ⟨later, hlater, hfollows.runId.trans hid, ?_⟩
  rw [hfollows.ended hended]
  exact hended

theorem RunOver.status {run : Run} (h : RunOver s runId) (hrun : runOf svc s runId = .ok run) :
    isTerminal run.status = true := by
  obtain ⟨row, hrow, hid, hended⟩ := h
  obtain ⟨-, found, hfound, -, -, rfl⟩ := runOf_ok.mp hrun
  obtain ⟨hmem, hfoundId⟩ := Records.runRow?_mem hfound
  obtain rfl := Table.eq_of_clash hmem hrow (hfoundId.trans hid.symm)
  exact hended

theorem RunEnded.over {run : Run} (hran : runOf svc s runId = .ok run)
    (h : RunEnded svc amb s run reason t) : RunOver t runId := by
  have hid := runOf_runId hran
  cases h with
  | before hended =>
      obtain ⟨-, row, hrow, -, -, rfl⟩ := runOf_ok.mp hran
      exact ⟨row, (Records.runRow?_mem hrow).1, hid, hended⟩
  | now hopen h =>
      obtain ⟨d, hd, rfl⟩ := onDatabase_ok.mp h
      obtain ⟨store, hstore, rfl⟩ := onStore_ok.mp hd
      obtain ⟨row, hrow, -, hrecords⟩ := saveRun_ok hstore
      have hfenced : (fencedRun run reason (amb.clock 0)).runId = runId
          ∧ isTerminal (fencedRun run reason (amb.clock 0)).status = true := by
        unfold fencedRun
        rw [if_neg (Bool.eq_false_iff.mp hopen)]
        cases reason with
        | cancel | recovery => exact ⟨hid, rfl⟩
      obtain ⟨hmem, hrowId⟩ := Records.runRow?_mem hrow
      refine ⟨RunRow.written (fencedRun run reason (amb.clock 0)) row, ?_,
        hrowId.trans hfenced.1, hfenced.2⟩
      rw [hrecords, Records.mem_withRun]
      exact ⟨row, hmem, (if_pos hrowId).symm⟩

theorem Closed.of_same (h : Closed s binding) (hturns : t.turns = s.turns)
    (hmoved : s.DatabaseMoved svc t) : Closed t binding := by
  constructor
  · exact h.ended.moved (runsFollow_moves hmoved)
  · rw [hturns]
    exact h.turn

/-- The turn that a step moves on, at rest over a run that has ended. -/
theorem TurnStep.closed {row : TurnRow} {new : ConversationTurn} (h : TurnStep s row new t)
    (hrests : Resting new) (hover : RunOver t row.runId) : Closed t row.turn.binding := by
  obtain ⟨-, moved, hmoved, rfl, -, -⟩ := h.mem_turns
  exact ⟨hover, moved, hmoved, h.binding, hrests⟩

theorem Fenced.closed {runId : String} {reason : FenceReason} {claim : Option ConversationClaim}
    {updated : ConversationTurn} {row : TurnRow} {before : ConversationRow} {run : Run}
    (h : Fenced svc amb s runId reason claim updated t row before run) :
    Closed t row.turn.binding := by
  have hrests : Resting updated := by
    rw [h.built]
    exact .of_recovery rfl rfl
  refine h.step.1.closed hrests ?_
  obtain ⟨s₁, hended, hmoved⟩ := h.moved
  rw [h.about]
  exact (hended.over h.ran).moved (runsFollow_moves hmoved.beside.moved)

theorem ReviewFence.closed {current : RecoverySnapshot} {root : Run} {row : TurnRow}
    {before : ConversationRow} (h : ReviewFence svc amb s current root row before t)
    (hran : runOf svc s row.runId = .ok root) : Closed t row.turn.binding := by
  cases h with
  | active hfenced => exact hfenced.closed
  | settled hturn hbefore hread hinactive hended hmoved =>
      have hstep := hmoved.step
      obtain ⟨found, hfound, -, -, hfits, -⟩ := turnOf_ok.mp hread.turn
      rw [hread.found] at hfound
      cases hfound
      have hvalid := hfits.valid
      rw [hturn] at hvalid
      have hfree : current.turn.activeClaimId = none := not_claimed_of_inactive hvalid hinactive
      refine hstep.closed (.of_recovery rfl hfree) ?_
      obtain ⟨-, stored, hstored, -, -, rfl⟩ := runOf_ok.mp hran
      obtain ⟨hmem, hid⟩ := Records.runRow?_mem hstored
      have hover : RunOver s row.runId := ⟨stored, hmem, hid, hended⟩
      exact hover.moved (runsFollow_moves hmoved.beside.moved)

/-- A fence that has committed has closed the turn. -/
theorem closed_of_fences (hfences : op.fences? = some runId)
    (h : conversationBody svc reads amb op s = .ok (result, t)) :
    ∃ binding, binding.runId = runId ∧ Closed t binding := by
  cases op with
  | fence =>
      cases hfences
      obtain ⟨_, h, -⟩ := Transaction.map_ok.mp h
      obtain ⟨row, before, run, hfenced, -⟩ := fence_ok h
      exact ⟨row.turn.binding, hfenced.about, hfenced.closed⟩
  | prepareReviewedRecovery binding =>
      obtain ⟨plan, h, -⟩ := Transaction.map_ok.mp h
      obtain ⟨root, row, before, hprepared⟩ := prepareReviewedRecovery_ok h
      obtain ⟨s₁, s₂, event, hfence, hcancel, -, -, -, -, -, rfl⟩ := hprepared.steps
      obtain ⟨other, hother, hturn, first, hfirst, hran⟩ := hprepared.read.turn
      obtain rfl := Option.some.inj (hother.symm.trans hfences)
      obtain rfl := Option.some.inj (hfirst.symm.trans (demand_ok.mp hprepared.rooted))
      have hrow : row.turn = binding.snapshot.turn := by
        cases hfence with
        | active _ hturn | settled hturn => exact hturn
      have hid : row.runId = other := by
        obtain ⟨found, -, hfound, hfoundId, -⟩ := requireTurn_ok hturn
        rw [← hfoundId]
        show row.turn.binding.runId = found.turn.binding.runId
        rw [hrow, hfound]
      rw [← hid] at hran
      obtain ⟨hturns, -, -, -⟩ := cancelGraphs_tables hcancel
      have hclosed := (hfence.closed hran).of_same hturns (cancelGraphs_moved hcancel)
      have hnoted : s₂.DatabaseMoved svc (s₂.journaled event) :=
        Registry.DatabaseMoved.of_events rfl rfl rfl
      exact ⟨row.turn.binding, hid, hclosed.of_same rfl hnoted⟩
  | _ => cases hfences

/-! ### Closed turns stay closed -/

theorem settledStatus_of_over {run : Run} {status : ConversationTurnStatus}
    (hended : isTerminal run.status = true) (h : settledStatus svc reads s run = .ok status) :
    status ≠ .running ∧ status ≠ .waiting := by
  have hpaused : isPaused run.status = false := by
    cases hstatus : run.status <;> rw [hstatus] at hended <;> first | rfl | cases hended
  unfold settledStatus at h
  rw [if_neg (Bool.eq_false_iff.mp hpaused), if_pos (.inr hended)] at h
  cases hheld : outstanding svc reads s run with
  | error =>
      rw [hheld] at h
      cases h
  | ok =>
      rw [hheld] at h
      obtain rfl := Except.ok.inj h
      unfold endedStatus
      split_ifs <;> exact ⟨ConversationTurnStatus.noConfusion, ConversationTurnStatus.noConfusion⟩

/-- A turn at rest over a run that has ended is moved on to a turn at rest. -/
theorem TurnCause.rests {old new : ConversationTurn} (h : TurnCause svc s old new)
    (hrests : Resting old) (hover : RunOver s old.binding.runId) : Resting new := by
  cases h with
  | resumed _ _ hwaiting => exact absurd hwaiting hrests.notWaiting
  | settled hrun _ hnew hfree =>
      obtain ⟨hrunning, hwaiting⟩ := settledStatus_of_over (hover.status hrun) hnew
      exact ⟨hfree, hrunning, hwaiting⟩
  | fenced hnew hfree => exact .of_recovery hnew hfree

/-- A step that leaves a turn without an owner has issued no claim. -/
theorem ClaimsNow.eq_of_free {old new : ConversationTurn} (h : ClaimsNow old new claims claims')
    (howned : TurnOwned claims old) (hold : old.activeClaimId = none)
    (hnew : new.activeClaimId = none) : claims' = claims := by
  cases h with
  | kept => rfl
  | issued _ hissued =>
      rw [hissued] at hnew
      cases hnew
  | @ended row after _ _ hactive hunique =>
      refine (List.map_congr_left fun r hr => ?_).trans (List.map_id _)
      have hne : r ≠ row := by
        rintro rfl
        rw [howned.inactive hold r hr] at hactive
        cases hactive
      rw [if_neg hne]
      rfl

/-- The claims of a closed turn stay as they are. -/
structure StaysClosed (s t : Registry) (binding : ConversationRunBinding) : Prop where
  closed : Closed t binding
  claims : t.claimsOf binding.turnId = s.claimsOf binding.turnId

theorem RegistryStep.staysClosed (h : RegistryStep svc s t) (hmoved : s.DatabaseMoved svc t)
    (howned : s.Owned) (hclosed : Closed s binding) : StaysClosed s t binding := by
  have hover := hclosed.ended.moved (runsFollow_moves hmoved)
  obtain ⟨row, hrow, rfl, hrests⟩ := hclosed.turn
  cases h with
  | same h => exact ⟨hclosed.of_same h.turns hmoved, Registry.claimsOf_congr h.claims _⟩
  | created _ hturns hclaims =>
      exact ⟨hclosed.of_same hturns hmoved, Registry.claimsOf_congr hclaims _⟩
  | registered h =>
      obtain ⟨new, claim, rfl, hturn, -, -, -, -, hturns, hclaims⟩ := h.tables
      refine ⟨⟨hover, row, (Table.mem_insert hturns).mpr (.inl hrow), rfl, hrests⟩, ?_⟩
      have hother : ¬ decide (claim.turnId = row.turn.binding.turnId) = true := fun heq =>
        Table.not_clash_of_insert hturns hrow (.inl ((of_decide_eq_true heq).symm.trans hturn))
      have hfilter : t.claimsOf row.turn.binding.turnId = _ := Table.filter_insert hclaims _
      rw [hfilter, if_neg hother, List.append_nil]
      rfl
  | @moved other new hcause h =>
      obtain ⟨hother, moved, hmem, rfl, hid, hrows⟩ := h.mem_turns
      have hclaims := h.claims.claimsOf (howned.turns other hother) row.turn.binding.turnId
      by_cases hsame : row = other
      · subst hsame
        have hnew := hcause.rests hrests hclosed.ended
        refine ⟨⟨hover, moved, hmem, h.binding, hnew⟩, ?_⟩
        exact (hclaims.1 rfl).eq_of_free (howned.turns row hrow) hrests.free hnew.free
      · refine ⟨⟨hover, row, (hrows row).mpr (.inr ⟨hrow, hsame⟩), rfl, hrests⟩, hclaims.2 ?_⟩
        exact fun heq => hsame (Table.eq_of_clash hrow hother (.inl heq))

theorem staysClosed_run (svc : ConversationServices) (howned : s.Owned)
    (hclosed : Closed s binding) (inputs : List RegistryInput) :
    StaysClosed s ((registryMachine svc).run s inputs) binding := by
  induction inputs generalizing s with
  | nil => exact ⟨hclosed, rfl⟩
  | cons input inputs ih =>
      obtain ⟨hstep, hmoved⟩ := registryMachine_step svc s input
      have hnext := hstep.staysClosed hmoved howned hclosed
      obtain ⟨hlater, hclaims⟩ := ih (hstep.owned howned) hnext.closed
      exact ⟨hlater, hclaims.trans hnext.claims⟩

/-- A closed turn has no active claim. -/
theorem Closed.inactive (h : Closed s binding) (howned : s.Owned) :
    ∀ claim ∈ s.claimsOf binding.turnId, claim.isActive = false := by
  obtain ⟨row, hrow, rfl, hrests⟩ := h.turn
  exact (howned.turns row hrow).inactive hrests.free

/-! ### The protocol -/

/-- A settlement leaves no active claim of the turn behind. -/
def SettlementEnds (svc : ConversationServices) (s : Registry) (input : RegistryInput) : Prop :=
  ∀ claim expectedRevision summary refs result,
    input.op = .conversation (.settle claim expectedRevision summary refs) →
    (registryMachine svc).out s input = .ok result →
    ∀ row ∈ ((registryMachine svc).next s input).claimsOf claim.turnId, row.isActive = false

theorem settlementEnds_of_owned (svc : ConversationServices) (input : RegistryInput)
    (howned : s.Owned) : SettlementEnds svc s input := by
  intro claim expectedRevision summary refs result hop hout
  have hbody := body_of_out hout
  rw [hop] at hbody
  obtain ⟨updated, h, -⟩ := Transaction.map_ok.mp (withinBoundary_ok.mp hbody)
  obtain ⟨row, before, hsettled⟩ := settle_ok h
  have hstep := hsettled.moved.step
  obtain ⟨run, status, hupdate⟩ := hsettled.settled
  have hfree : updated.activeClaimId = none := by
    rw [hupdate.built]
    rfl
  obtain ⟨-, moved, hmoved, rfl, hid, -⟩ := hstep.mem_turns
  have hturn : claim.turnId = moved.turnId := by
    obtain ⟨found, hfound, hsame, -⟩ := turnOf_ok.mp hsettled.owned.read
    have hfoundId : found.turn.binding.turnId = claim.turnId := (Registry.turn?_mem hfound).2
    rw [← hfoundId, hsame]
    exact hid.symm
  rw [hturn]
  exact ((hstep.owned howned).turns moved hmoved).inactive hfree

/-- A fence that commits closes the turn of the run for good: in every later state `t` the run has
ended, no claim of the turn is active and none has been issued. -/
def FenceCloses (svc : ConversationServices) (s : Registry) (input : RegistryInput)
    (t : Registry) : Prop :=
  ∀ op runId result, input.op = .conversation op → op.fences? = some runId →
    (registryMachine svc).out s input = .ok result →
    RunOver t runId ∧ ∃ row ∈ t.turns, row.runId = runId
      ∧ t.claimsOf row.turnId = ((registryMachine svc).next s input).claimsOf row.turnId
      ∧ ∀ claim ∈ t.claimsOf row.turnId, claim.isActive = false

theorem fenceCloses_run (svc : ConversationServices) (input : RegistryInput)
    (later : List RegistryInput) (howned : s.Owned) :
    FenceCloses svc s input
      ((registryMachine svc).run ((registryMachine svc).next s input) later) := by
  intro op runId result hop hfences hout
  have hbody := body_of_out hout
  rw [hop] at hbody
  obtain ⟨binding, rfl, hclosed⟩ := closed_of_fences hfences (withinBoundary_ok.mp hbody)
  have hnext : ((registryMachine svc).next s input).Owned := owned_invariant svc s input howned
  obtain ⟨hlater, hclaims⟩ := staysClosed_run svc hnext hclosed later
  have hinactive := hlater.inactive ((owned_invariant svc).run hnext later)
  obtain ⟨row, hrow, rfl, -⟩ := hlater.turn
  exact ⟨hlater.ended, row, hrow, rfl, hclaims, hinactive⟩

/-- Whatever is interleaved with what, from a store without conversations: a turn has at most one
active claim and its claims have increasing generations; a call under a claim is accepted only
while the claim is active; a settlement ends the claims of its turn, and a claim that has ended is
refused by every later guarded call; a fence closes its turn and its run for good. -/
theorem turn_ownership (svc : ConversationServices) (database : Database) (shared : SharedTables)
    (inputs : List RegistryInput) (input : RegistryInput) (later : List RegistryInput) :
    let m := registryMachine svc
    let s := m.run (.fresh database shared) inputs
    let t := m.run (m.next s input) later
    OneOwner s ∧ ClaimsFollow s t
      ∧ (∀ op claim result, input.op = .conversation op → op.guard? = some claim →
          m.out s input = .ok result → s.Holds claim)
      ∧ SettlementEnds svc s input
      ∧ (∀ row ∈ s.claims, row.isActive = false → Refused svc t row.claimId)
      ∧ FenceCloses svc s input t := by
  have hs : ((registryMachine svc).run (.fresh database shared) inputs).Owned :=
    (owned_invariant svc).run (owned_fresh database shared) inputs
  have hfollow := claimsFollow_run svc hs (input :: later)
  refine ⟨hs.oneOwner, hfollow, ?_, settlementEnds_of_owned svc input hs, ?_,
    fenceCloses_run svc input later hs⟩
  · intro op claim result hop hguard hout
    have hbody := body_of_out hout
    rw [hop] at hbody
    exact holds_of_accepted hguard (withinBoundary_ok.mp hbody) hs
  · intro row hrow hended
    refine refused_of_ended svc ?_ (hfollow.ended row hrow hended) hended
    exact (owned_invariant svc).run hs (input :: later)

end AgentFleet.Conversations
