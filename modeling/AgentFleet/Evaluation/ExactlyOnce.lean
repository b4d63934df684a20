import AgentFleet.Evaluation.Effects

/-! # One run and one outcome for an attempt

`EvaluationGrows` says what the tables of a later state keep: rows are added, and of a row that is
there only the end of an active execution is written, once.  With the constraints of the tables an
attempt then has one root run and one outcome, whenever they are looked up.

An attempt with an outcome is not executed and an executed one takes no preflight outcome, so
`Exclusive` holds in every state that is reached. -/

namespace AgentFleet.Evaluation

open Relational Relational.Table Transaction Transition

variable {svc : EvaluationServices} {s t : EvaluationState}

/-! ### Growth -/

/-- A later version of an execution: the same run under the same claim, and what ended stays as it
ended. -/
structure Continues (before after : EvaluationExecutionRecord) : Prop where
  binding : after.binding = before.binding
  claim : after.claim = before.claim
  ended : before.status ≠ .active → after = before

theorem Continues.refl (record : EvaluationExecutionRecord) : Continues record record :=
  ⟨rfl, rfl, fun _ => rfl⟩

variable {a b record : EvaluationExecutionRecord}

theorem Continues.trans {c : EvaluationExecutionRecord} (hab : Continues a b)
    (hbc : Continues b c) : Continues a c where
  binding := hbc.binding.trans hab.binding
  claim := hbc.claim.trans hab.claim
  ended := by
    intro ha
    obtain rfl := hab.ended ha
    exact hbc.ended ha

/-- What the tables of a later state keep. -/
structure EvaluationGrows (s t : EvaluationState) : Prop where
  campaigns : Carries Eq s.campaigns t.campaigns
  reservations : Carries Eq s.reservations t.reservations
  outcomes : Carries Eq s.outcomes t.outcomes
  executions : Carries Continues s.executions t.executions

theorem EvaluationGrows.refl (s : EvaluationState) : EvaluationGrows s s where
  campaigns := .refl (fun _ => rfl) _
  reservations := .refl (fun _ => rfl) _
  outcomes := .refl (fun _ => rfl) _
  executions := .refl Continues.refl _

theorem EvaluationGrows.trans {u : EvaluationState} (hst : EvaluationGrows s t)
    (htu : EvaluationGrows t u) : EvaluationGrows s u where
  campaigns := hst.campaigns.trans (R := Eq) (fun _ _ _ => .trans) htu.campaigns
  reservations := hst.reservations.trans (R := Eq) (fun _ _ _ => .trans) htu.reservations
  outcomes := hst.outcomes.trans (R := Eq) (fun _ _ _ => .trans) htu.outcomes
  executions := hst.executions.trans (R := Continues) (fun _ _ _ => .trans) htu.executions

theorem EvaluationGrows.of_move (h : EvaluationMove svc s t) : EvaluationGrows s t := by
  have hrefl := EvaluationGrows.refl s
  cases h with
  | shared => exact { hrefl with }
  | registered hrow => exact { hrefl with campaigns := .insert (fun _ => rfl) hrow }
  | reserved hitem => exact { hrefl with reservations := .insert (fun _ => rfl) hitem }
  | recorded hrecord => exact { hrefl with outcomes := .insert (fun _ => rfl) hrecord }
  | executed hrecord => exact { hrefl with executions := .insert Continues.refl hrecord }
  | ended hactive _ hrecord =>
      have hcontinues := Carries.replace? Continues.refl hrecord
        ⟨rfl, rfl, fun hended => absurd hactive hended⟩
      exact { hrefl with executions := hcontinues }

theorem evaluation_grows (svc : EvaluationServices) (s : EvaluationState)
    (inputs : List EvaluationInput) : EvaluationGrows s ((evaluationMachine svc).run s inputs) :=
  (evaluationMoves svc).rel (I := fun _ => True) (fun _ _ _ _ => trivial) EvaluationGrows.refl
    (fun _ _ _ => EvaluationGrows.trans) (fun _ _ hmove _ => .of_move hmove) trivial inputs

/-- A row that is carried unchanged is there. -/
theorem mem_of_carries_eq {α : Type} [Constrained α] {rows rows' : Table α} {a : α}
    (h : Carries Eq rows rows') (ha : a ∈ rows) : a ∈ rows' := by
  obtain ⟨b, hb, rfl⟩ := h a ha
  exact hb

/-- The executions of one attempt are versions of one record. -/
theorem EvaluationGrows.execution (h : EvaluationGrows s t) (ha : a ∈ s.executions)
    (hb : b ∈ t.executions) (hsame : a.attemptId = b.attemptId ∨ a.rootRunId = b.rootRunId) :
    Continues a b := by
  obtain ⟨later, hlater, hcontinues⟩ := h.executions a ha
  have hattempt : later.attemptId = a.attemptId :=
    congrArg (fun binding => binding.submission.attemptId) hcontinues.binding
  have hroot : later.rootRunId = a.rootRunId :=
    congrArg EvaluationExecutionBinding.rootRunId hcontinues.binding
  have hclash : clash later b := hsame.imp hattempt.trans hroot.trans
  rwa [← eq_of_clash hlater hb hclash]

/-- The outcomes of one attempt are one record. -/
theorem EvaluationGrows.outcome (h : EvaluationGrows s t) {a b : OutcomeRecord}
    (ha : a ∈ s.outcomes) (hb : b ∈ t.outcomes) (hsame : a.attemptId = b.attemptId) : a = b :=
  eq_of_clash (mem_of_carries_eq h.outcomes ha) hb (.inr hsame)

/-! ### Preflight outcomes and executions -/

/-- An attempt with a preflight outcome is not executed. -/
def EvaluationState.Exclusive (s : EvaluationState) : Prop :=
  ∀ record ∈ s.outcomes, record.rootRunId = none → ∀ row ∈ s.executions,
    row.attemptId ≠ record.attemptId

theorem executionOf?_eq_none {attemptId : String} :
    s.executionOf? attemptId = none ↔ ∀ row ∈ s.executions, row.attemptId ≠ attemptId := by
  unfold EvaluationState.executionOf?
  simp only [find?_eq_none, decide_eq_true_eq, ne_eq]

theorem outcomeOf?_eq_none {attemptId : String} :
    s.outcomeOf? attemptId = none ↔ ∀ record ∈ s.outcomes, record.attemptId ≠ attemptId := by
  unfold EvaluationState.outcomeOf?
  simp only [find?_eq_none, decide_eq_true_eq, ne_eq]

theorem Exclusive.step (h : s.Exclusive) (hmove : EvaluationMove svc s t) : t.Exclusive := by
  cases hmove with
  | shared database | registered hrow hslots hvalid | reserved hitem hvalid => exact h
  | recorded hrecord hfree =>
      intro record hmem hroot row hrow
      rcases (mem_insert hrecord).mp hmem with hold | rfl
      · exact h record hold hroot row hrow
      · exact executionOf?_eq_none.mp (hfree hroot) row hrow
  | executed hrecord hreserved hfree =>
      intro record hmem hroot row hrow
      rcases (mem_insert hrecord).mp hrow with hold | rfl
      · exact h record hmem hroot row hold
      · exact (outcomeOf?_eq_none.mp hfree record hmem).symm
  | ended hactive hstatus hrecord =>
      intro record hmem hroot row hrow
      rcases (mem_replace? hrecord).mp hrow with rfl | ⟨hold, -⟩
      · have hbefore := h record hmem hroot _ (replace?_eq_some hrecord).1
        exact hbefore
      · exact h record hmem hroot row hold

theorem exclusive_invariant (svc : EvaluationServices) :
    (evaluationMachine svc).Invariant EvaluationState.Exclusive :=
  (evaluationMoves svc).invariant fun _ _ hmove h => Exclusive.step h hmove

theorem exclusive_fresh (database : Database) : (EvaluationState.fresh database).Exclusive :=
  fun _ hrecord => absurd hrecord (not_mem_empty _)

/-! ### Replays -/

/-- What a call answers in `s` about what is decided there is the stored record, and the state after
it is the same. -/
def AnswersStored (svc : EvaluationServices) (s t : EvaluationState) :
    EvaluationOp → EvaluationResult → Prop
  | .reserve campaignId caseId repetition idempotencyKey, .reservation value =>
      ∀ item ∈ s.reservations, item.campaignId = campaignId →
        (item.slot = ⟨caseId, repetition.toNat⟩
          ∨ item.idempotencySha256 = svc.keySha256 idempotencyKey) → value = item ∧ t = s
  | .recordPreflightOutcome record, _ =>
      ∀ row ∈ s.outcomes, row.attemptId = record.attemptId → record = row ∧ t = s
  | .recordTerminal _ record, .outcome value =>
      ∀ row ∈ s.outcomes, row.attemptId = record.attemptId → value = row ∧ t = s
  | .registerExecution submission _ _ _, .registered value =>
      ∀ row ∈ s.executions, row.attemptId = submission.attemptId → value = { record := row } ∧ t = s
  | .settle claim, .execution value =>
      ∀ row ∈ s.executions, row.rootRunId = claim.rootRunId → row.status ≠ .active →
        value = row ∧ t = s
  | .fence rootRunId, .execution value =>
      ∀ row ∈ s.executions, row.rootRunId = rootRunId → row.status ≠ .active →
        value = row ∧ t = s
  | _, _ => True

variable {reads : EvaluationReads} {amb : Ambient}

theorem Ends.stored {row : EvaluationExecutionRecord} {status : ExecutionStatus}
    (h : Ends svc amb s row status record t) (hended : row.status ≠ .active) :
    record = row ∧ t = s := by
  cases h with
  | replayed _ hrecord hsame => exact ⟨hrecord, hsame.symm⟩
  | now hactive => exact absurd hactive hended

theorem answersStored_reserve {campaignId caseId : String} {repetition : ℤ} {key : String}
    {item : EvaluationReservation}
    (h : reserve svc reads amb campaignId caseId repetition key s = .ok (item, t)) :
    AnswersStored svc s t (.reserve campaignId caseId repetition key) (.reservation item) := by
  obtain ⟨hitem, hreserves, hsame | ⟨hnew, -⟩⟩ := reserve_ok h
  · subst hsame
    intro known hknown hcampaign hshared
    have hclash : clash item known := by
      refine .inr ⟨hreserves.campaign.trans hcampaign.symm, ?_⟩
      exact hshared.imp (fun hslot => hreserves.slot.trans hslot.symm)
        fun hkey => hreserves.digest.trans hkey.symm
    exact ⟨eq_of_clash hitem hknown hclash, rfl⟩
  · intro known hknown hcampaign hshared
    refine absurd (.inr ⟨hcampaign.trans hreserves.campaign.symm, ?_⟩) (hnew known hknown)
    exact hshared.imp (fun hslot => hslot.trans hreserves.slot.symm)
      fun hkey => hkey.trans hreserves.digest.symm

theorem answersStored_preflight {record : OutcomeRecord} {snapshot : EvaluationLedgerSnapshot}
    (h : recordPreflightOutcome svc reads record s = .ok (snapshot, t)) (result : EvaluationResult) :
    AnswersStored svc s t (.recordPreflightOutcome record) result := by
  obtain ⟨hrecord, -, hsame | ⟨hnew, -⟩⟩ := recordPreflightOutcome_ok h
  · subst hsame
    intro row hrow hattempt
    exact ⟨eq_of_clash hrecord hrow (.inr hattempt.symm), rfl⟩
  · intro row hrow hattempt
    exact absurd (.inr hattempt) (hnew row hrow)

theorem answersStored_terminal {observation : EvaluationObservation} {record stored : OutcomeRecord}
    (h : recordTerminal svc observation record s = .ok (stored, t)) :
    AnswersStored svc s t (.recordTerminal observation record) (.outcome stored) := by
  obtain ⟨hstored, -, ⟨hsame, hattempt⟩ | ⟨hnew, -⟩⟩ := recordTerminal_ok h
  · subst hsame
    intro row hrow hrecord
    exact ⟨eq_of_clash hstored hrow (.inr (hattempt.trans hrecord.symm)), rfl⟩
  · intro row hrow hrecord
    exact absurd (.inr hrecord) (hnew row hrow)

theorem answersStored_register {submission : EvaluationSubmission} {run : Run}
    {admission : EvaluationAdmission} {bindings : RunModelBindings}
    {registration : EvaluationRegistration}
    (h : registerExecution svc reads amb submission run admission bindings s
      = .ok (registration, t)) :
    AnswersStored svc s t (.registerExecution submission run admission bindings)
      (.registered registration) := by
  intro row hrow hattempt
  cases registerExecution_ok h with
  | replayed hstored hclaim hsame =>
      obtain ⟨hmem, hid⟩ := executionOf?_mem hstored
      obtain ⟨record, claim⟩ := registration
      obtain rfl : record = row := eq_of_clash hmem hrow (.inl (hid.trans hattempt.symm))
      obtain rfl : claim = none := hclaim
      exact ⟨rfl, hsame.symm⟩
  | new hfree => exact absurd hattempt (executionOf?_eq_none.mp hfree row hrow)

theorem answersStored_settle {claim : EvaluationClaim}
    (h : settle svc reads amb claim s = .ok (record, t)) :
    AnswersStored svc s t (.settle claim) (.execution record) := by
  obtain ⟨found, hfound, -, hends⟩ := settle_ok h
  obtain ⟨hmem, hroot⟩ := execution?_mem hfound
  intro row hrow hid hended
  obtain rfl : found = row := eq_of_clash hmem hrow (.inr (hroot.trans hid.symm))
  exact hends.stored hended

theorem answersStored_fence {rootRunId : String}
    (h : fence svc reads amb rootRunId s = .ok (record, t)) :
    AnswersStored svc s t (.fence rootRunId) (.execution record) := by
  obtain ⟨found, hfound, hends⟩ := fence_ok h
  obtain ⟨hmem, hroot⟩ := execution?_mem hfound
  intro row hrow hid hended
  obtain rfl : found = row := eq_of_clash hmem hrow (.inr (hroot.trans hid.symm))
  exact hends.stored hended

theorem answersStored_of_out {input : EvaluationInput} {result : EvaluationResult}
    (h : (evaluationMachine svc).out s input = .ok result) :
    AnswersStored svc s ((evaluationMachine svc).next s input) input.op result := by
  have hbody := body_of_out h
  generalize (evaluationMachine svc).next s input = after at hbody ⊢
  generalize input.op = op at hbody ⊢
  cases op with
  | reserve =>
      obtain ⟨item, hcall, rfl⟩ := map_ok.mp hbody
      exact answersStored_reserve (withinBoundary_ok.mp hcall)
  | recordPreflightOutcome =>
      obtain ⟨snapshot, hcall, rfl⟩ := map_ok.mp hbody
      exact answersStored_preflight (withinBoundary_ok.mp hcall) _
  | recordTerminal =>
      obtain ⟨stored, hcall, rfl⟩ := map_ok.mp hbody
      exact answersStored_terminal (withinBoundary_ok.mp hcall)
  | registerExecution =>
      obtain ⟨registration, hcall, rfl⟩ := map_ok.mp hbody
      exact answersStored_register (withinBoundary_ok.mp hcall)
  | settle =>
      obtain ⟨record, hcall, rfl⟩ := map_ok.mp hbody
      exact answersStored_settle (withinBoundary_ok.mp hcall)
  | fence =>
      obtain ⟨record, hcall, rfl⟩ := map_ok.mp hbody
      exact answersStored_fence (withinBoundary_ok.mp hcall)
  | register manifest | snapshot campaignId
  | submission campaignId manifestSha256 caseId repetition idempotencyKey | forRun runId
  | forAttempt submission | assertClaim claim | database op => trivial

/-! ### Exactly once -/

/-- Whenever the executions and outcomes of an attempt are looked up, they are versions of one
execution and one outcome; what has ended stays as it ended, a preflight outcome excludes an
execution, and a replay answers what is stored. -/
theorem execution_exactly_once (svc : EvaluationServices) (database : Database)
    (before later : List EvaluationInput) :
    let s := (evaluationMachine svc).run (.fresh database) before
    let t := (evaluationMachine svc).run s later
    (∀ a ∈ s.executions, ∀ b ∈ t.executions,
        a.attemptId = b.attemptId ∨ a.rootRunId = b.rootRunId → Continues a b)
      ∧ (∀ a ∈ s.outcomes, a ∈ t.outcomes
        ∧ ∀ b ∈ t.outcomes, a.attemptId = b.attemptId → a = b)
      ∧ (∀ a ∈ s.executions, ∃ b ∈ t.executions, Continues a b)
      ∧ s.Exclusive
      ∧ ∀ input result, (evaluationMachine svc).out s input = .ok result →
        AnswersStored svc s ((evaluationMachine svc).next s input) input.op result := by
  intro s t
  have hgrows : EvaluationGrows s t := evaluation_grows svc s later
  refine ⟨?_, ?_, hgrows.executions, ?_, ?_⟩
  · intro a ha b hb hsame
    exact hgrows.execution ha hb hsame
  · intro a ha
    refine ⟨mem_of_carries_eq hgrows.outcomes ha, ?_⟩
    intro b hb hsame
    exact hgrows.outcome ha hb hsame
  · exact (exclusive_invariant svc).run (exclusive_fresh database) before
  · intro input result hout
    exact answersStored_of_out hout

end AgentFleet.Evaluation
