import AgentFleet.Budget.Bounds
import AgentFleet.Database.Machine

/-! # Unknown usage is absorbing

A request is settled once, by a response, as unknown, or when its attempt finishes.  Whatever
would spend more of a budget first asks that no request of its owner is of unknown outcome, and
a settled request never changes; so the first unknown outcome closes the owner and its
children.

* `RequestFollows` and `AttemptFollows` relate the rows of the ledger to later ones.
* `LedgerSettled` says that only running attempts have reserved requests.
* `Ledger.UnknownIn` is the closing event, and `Spent` what follows of it. -/

namespace AgentFleet

open Relational Relational.Table Transaction Transition

variable {r : Records} {l l' : Ledger}

/-! ### Later versions of the rows -/

/-- A later version of a request's row: its reservation stays, and once settled it all does. -/
structure RequestFollows (a b : ModelRequestAccounting) : Prop where
  reservation : b.reservation = a.reservation
  settled : a.outcome ≠ .reserved → b = a

/-- A later version of an attempt's row is of the same owner. -/
structure AttemptFollows (a b : RuntimeAttempt) : Prop where
  attemptId : b.attemptId = a.attemptId
  ownerRunId : b.ownerRunId = a.ownerRunId

/-- The rows of a later ledger continue those of an earlier one. -/
structure LedgerFollows (l l' : Ledger) : Prop where
  requests : Carries RequestFollows l.modelRequests l'.modelRequests
  attempts : Carries AttemptFollows l.attempts l'.attempts

theorem RequestFollows.refl (a : ModelRequestAccounting) : RequestFollows a a :=
  ⟨rfl, fun _ => rfl⟩

theorem RequestFollows.trans (a b c : ModelRequestAccounting) (h : RequestFollows a b)
    (h' : RequestFollows b c) : RequestFollows a c := by
  refine ⟨h'.reservation.trans h.reservation, fun hsettled => ?_⟩
  have hsame : b = a := h.settled hsettled
  subst hsame
  exact h'.settled hsettled

theorem AttemptFollows.refl (a : RuntimeAttempt) : AttemptFollows a a := ⟨rfl, rfl⟩

theorem AttemptFollows.trans (a b c : RuntimeAttempt) (h : AttemptFollows a b)
    (h' : AttemptFollows b c) : AttemptFollows a c :=
  ⟨h'.attemptId.trans h.attemptId, h'.ownerRunId.trans h.ownerRunId⟩

theorem LedgerFollows.refl (l : Ledger) : LedgerFollows l l :=
  ⟨.refl RequestFollows.refl _, .refl AttemptFollows.refl _⟩

theorem LedgerFollows.trans {l'' : Ledger} (h : LedgerFollows l l') (h' : LedgerFollows l' l'') :
    LedgerFollows l l'' :=
  ⟨h.requests.trans RequestFollows.trans h'.requests,
    h.attempts.trans AttemptFollows.trans h'.attempts⟩

/-- Requests and attempts that are left alone. -/
theorem LedgerFollows.of_eq (hrequests : l'.modelRequests = l.modelRequests)
    (hattempts : l'.attempts = l.attempts) : LedgerFollows l l' := by
  constructor
  · rw [hrequests]
    exact .refl RequestFollows.refl _
  · rw [hattempts]
    exact .refl AttemptFollows.refl _

theorem ledgerFollows_effect (h : LedgerEffect r l l') : LedgerFollows l l' := by
  cases h with
  | unchanged => exact .refl l
  | initialized h =>
      obtain ⟨owners, runs, rfl, -⟩ := h.written
      exact .of_eq rfl rfl
  | began h =>
      obtain ⟨attempts, hins, rfl⟩ := h.inserted
      exact ⟨.refl RequestFollows.refl _, .insert AttemptFollows.refl hins⟩
  | reserved h =>
      obtain ⟨modelRequests, hins, rfl⟩ := h.inserted
      exact ⟨.insert RequestFollows.refl hins, .refl AttemptFollows.refl _⟩
  | @settled _ updated h =>
      obtain ⟨item, hitem, hreservation, hreserved, -⟩ := h.item
      rw [h.written]
      refine ⟨.update RequestFollows.refl updated.keepsKeys_written fun a ha hclash => ?_,
        .refl AttemptFollows.refl _⟩
      have hkey : clash a updated := of_decide_eq_true hclash
      have hsame : clash a item := by
        unfold clash at hkey ⊢
        constructor
        · rw [hreservation]
          exact hkey.1
        · rw [hreservation]
          exact hkey.2
      have heq : a = item := eq_of_clash ha hitem hsame
      subst heq
      exact ⟨rfl, fun hsettled => absurd hreserved hsettled⟩
  | batched h =>
      obtain ⟨toolBatches, -, rfl⟩ := h.inserted
      exact .of_eq rfl rfl
  | simulated h =>
      obtain ⟨simulatedSteps, -, rfl⟩ := h.inserted
      exact .of_eq rfl rfl
  | finished attemptId status finishedAt errorCode =>
      constructor
      · refine .update RequestFollows.refl ModelRequestAccounting.keepsKeys_abandoned
          fun a _ hchosen => ?_
        rw [Bool.and_eq_true, decide_eq_true_eq, decide_eq_true_eq] at hchosen
        exact ⟨rfl, fun hsettled => absurd hchosen.2 hsettled⟩
      · exact .update AttemptFollows.refl
          (RuntimeAttempt.keepsKeys_finished status finishedAt errorCode) fun _ _ _ => ⟨rfl, rfl⟩

/-! ### Reserved requests -/

/-- Every request is of a known attempt, which runs while the request is reserved. -/
structure LedgerSettled (l : Ledger) : Prop where
  known : ∀ item ∈ l.modelRequests, ∃ a ∈ l.attempts, a.attemptId = item.reservation.attemptId
  running : ∀ item ∈ l.modelRequests, item.outcome = .reserved → ∀ a ∈ l.attempts,
    a.attemptId = item.reservation.attemptId → a.status = .running

theorem LedgerSettled.empty : LedgerSettled Ledger.empty :=
  ⟨fun item hitem => absurd hitem (not_mem_empty item),
    fun item hitem => absurd hitem (not_mem_empty item)⟩

theorem LedgerSettled.began {attempt : RuntimeAttempt} (h : LedgerSettled l)
    (hb : Began r l attempt l') : LedgerSettled l' := by
  obtain ⟨attempts, hins, rfl⟩ := hb.inserted
  constructor
  · intro item hitem
    obtain ⟨a, ha, hid⟩ := h.known item hitem
    exact ⟨a, (mem_insert hins).mpr (.inl ha), hid⟩
  · intro item hitem hreserved a ha hid
    rcases (mem_insert hins).mp ha with hold | rfl
    · exact h.running item hitem hreserved a hold hid
    · -- no request can be of an attempt that is new
      obtain ⟨b, hb', hid'⟩ := h.known item hitem
      exact absurd (hid'.trans hid.symm) (not_clash_of_insert hins hb')

theorem LedgerSettled.reserved {item : ModelRequestAccounting} (h : LedgerSettled l)
    (hr : Reserved l item l') : LedgerSettled l' := by
  obtain ⟨attempt, limits, hattempt, -⟩ := hr.below
  have hrunning := (hr.active attempt hattempt).1
  obtain ⟨hmem, hid⟩ := Ledger.attempt?_mem hattempt
  obtain ⟨modelRequests, hins, rfl⟩ := hr.inserted
  constructor
  · intro other hother
    rcases (mem_insert hins).mp hother with hold | rfl
    · exact h.known other hold
    · exact ⟨attempt, hmem, hid⟩
  · intro other hother hreserved a ha hid'
    rcases (mem_insert hins).mp hother with hold | rfl
    · exact h.running other hold hreserved a ha hid'
    · have heq : a = attempt := eq_of_clash ha hmem (hid'.trans hid.symm)
      rw [heq]
      exact hrunning

theorem LedgerSettled.settled {updated : ModelRequestAccounting} (h : LedgerSettled l)
    (hs : SettledRequest l updated l') : LedgerSettled l' := by
  rw [hs.written]
  constructor
  · intro item hitem
    obtain ⟨b, hb, rfl⟩ := (mem_update updated.keepsKeys_written).mp hitem
    obtain ⟨a, ha, hid⟩ := h.known b hb
    refine ⟨a, ha, hid.trans ?_⟩
    split_ifs <;> rfl
  · intro item hitem hreserved a ha hid
    obtain ⟨b, hb, rfl⟩ := (mem_update updated.keepsKeys_written).mp hitem
    split_ifs at hreserved hid with hclash
    · exact absurd hreserved hs.settled
    · exact h.running b hb hreserved a ha hid

theorem LedgerSettled.finished (h : LedgerSettled l) (attemptId : String)
    (status : RuntimeAttemptStatus) (finishedAt : Timestamp) (errorCode : Option ErrorCode) :
    LedgerSettled
      ((l.abandoning attemptId).withFinished attemptId status finishedAt errorCode) := by
  have hattempts := fun a => mem_update (t := l.attempts)
    (p := fun row => row.attemptId = attemptId)
    (RuntimeAttempt.keepsKeys_finished status finishedAt errorCode) (b := a)
  have hrequests := fun item => mem_update (t := l.modelRequests)
    (p := fun row => row.reservation.attemptId = attemptId && row.outcome = .reserved)
    ModelRequestAccounting.keepsKeys_abandoned (b := item)
  constructor
  · intro item hitem
    obtain ⟨b, hb, rfl⟩ := (hrequests item).mp hitem
    obtain ⟨a, ha, hid⟩ := h.known b hb
    refine ⟨_, (hattempts _).mpr ⟨a, ha, rfl⟩, ?_⟩
    split_ifs <;> exact hid
  · intro item hitem hreserved a ha hid
    obtain ⟨b, hb, rfl⟩ := (hrequests item).mp hitem
    obtain ⟨c, hc, rfl⟩ := (hattempts a).mp ha
    simp only [Bool.and_eq_true, decide_eq_true_eq] at hreserved hid ⊢
    by_cases hchosen : b.reservation.attemptId = attemptId ∧ b.outcome = .reserved
    · rw [if_pos hchosen] at hreserved
      exact RequestOutcome.noConfusion hreserved
    · rw [if_neg hchosen] at hreserved hid
      by_cases hsame : c.attemptId = attemptId
      · -- the reserved requests of the attempt are the ones that were abandoned
        rw [if_pos hsame] at hid
        exact absurd ⟨hid.symm.trans hsame, hreserved⟩ hchosen
      · rw [if_neg hsame] at hid ⊢
        exact h.running b hb hreserved c hc hid

theorem LedgerSettled.effect (h : LedgerSettled l) (he : LedgerEffect r l l') :
    LedgerSettled l' := by
  cases he with
  | unchanged => exact h
  | initialized hi =>
      obtain ⟨owners, runs, rfl, -⟩ := hi.written
      exact ⟨h.known, h.running⟩
  | began hb => exact h.began hb
  | reserved hr => exact h.reserved hr
  | settled hs => exact h.settled hs
  | batched hb =>
      obtain ⟨toolBatches, -, rfl⟩ := hb.inserted
      exact ⟨h.known, h.running⟩
  | simulated hs =>
      obtain ⟨simulatedSteps, -, rfl⟩ := hs.inserted
      exact ⟨h.known, h.running⟩
  | finished attemptId status finishedAt errorCode =>
      exact h.finished attemptId status finishedAt errorCode

/-! ### Unknown outcomes -/

/-- A request of the owner, or of one of its children, is of unknown outcome. -/
def Ledger.UnknownIn (l : Ledger) (ownerRunId : String) : Prop :=
  ∃ item ∈ l.modelRequests, item.outcome = .unknown ∧ ∃ a ∈ l.attempts,
    a.attemptId = item.reservation.attemptId ∧ a.ownerRunId = ownerRunId

variable {ownerRunId : String} {s t : BudgetState}

theorem LedgerFollows.unknownIn (h : LedgerFollows l l') (hunknown : l.UnknownIn ownerRunId) :
    l'.UnknownIn ownerRunId := by
  obtain ⟨item, hitem, houtcome, a, ha, hid, howner⟩ := hunknown
  obtain ⟨item', hitem', hfollows⟩ := h.requests item hitem
  obtain ⟨a', ha', hfollows'⟩ := h.attempts a ha
  have hsame : item' = item := hfollows.settled (by rw [houtcome]; decide)
  subst hsame
  exact ⟨item', hitem', houtcome, a', ha', hfollows'.attemptId.trans hid,
    hfollows'.ownerRunId.trans howner⟩

theorem Ledger.UnknownIn.not_complete (h : l.UnknownIn ownerRunId) : ¬ l.Complete ownerRunId := by
  obtain ⟨item, hitem, houtcome, a, ha, hid, howner⟩ := h
  intro hcomplete
  refine hcomplete item (List.mem_filter.mpr ⟨hitem, ?_⟩) houtcome
  rw [← hid, Ledger.ownedBy_of_attempt? (Ledger.attempt?_of_mem ha), howner]
  exact decide_eq_true rfl

/-- The attempt that a transaction would spend on. -/
def BudgetOp.spendsOn? : BudgetOp → Option String
  | .reserveRequest attemptId _ _ => some attemptId
  | .reserveToolBatch attemptId _ _ => some attemptId
  | .recordSimulatedStep attemptId => some attemptId
  | _ => none

variable {svc : BudgetServices} {reads : BudgetReads} {amb : Ambient}

/-- A transaction that spends on an attempt found its owner complete. -/
theorem spends_complete {op : BudgetOp} {result : BudgetResult} {a : RuntimeAttempt}
    (ha : a ∈ s.ledger.attempts) (hop : op.spendsOn? = some a.attemptId)
    (h : budgetBody svc reads amb op s = .ok (result, t)) : s.ledger.Complete a.ownerRunId := by
  have hfound := Ledger.attempt?_of_mem ha
  cases op with
  | reserveRequest attemptId =>
      obtain rfl : attemptId = a.attemptId := Option.some.inj hop
      obtain ⟨_, h, -⟩ := map_ok.mp h
      obtain ⟨-, item, hid, hreserved⟩ := reserveRequest_ok h
      exact (hreserved.active a (hid ▸ hfound)).2
  | reserveToolBatch attemptId =>
      obtain rfl : attemptId = a.attemptId := Option.some.inj hop
      obtain ⟨_, h, -⟩ := map_ok.mp h
      obtain ⟨-, batch, hid, hbatched⟩ := reserveToolBatch_ok h
      exact hbatched.complete a (hid ▸ hfound)
  | recordSimulatedStep attemptId =>
      obtain rfl : attemptId = a.attemptId := Option.some.inj hop
      obtain ⟨_, h, -⟩ := map_ok.mp h
      obtain ⟨-, step, hid, hsimulated⟩ := recordSimulatedStep_ok h
      exact hsimulated.complete a (hid ▸ hfound)
  | _ => exact absurd hop.symm (Option.some_ne_none _)

/-- A new attempt of a run found the owner of the run complete. -/
theorem begins_complete {request : AgentInvocation} {attemptId : Option String}
    {selectedId : String}
    (hbound : ∃ row ∈ s.ledger.runs, row.runId = request.runId ∧ row.ownerRunId = ownerRunId)
    (h : beginAttempt svc reads amb request attemptId s = .ok (selectedId, t)) :
    (t.ledger = s.ledger ∧ s.ledger.attempt? selectedId ≠ none)
      ∨ s.ledger.Complete ownerRunId := by
  obtain ⟨-, hsame | ⟨attempt, hrun, hbegan⟩⟩ := beginAttempt_ok h
  · exact .inl hsame
  · obtain ⟨row, hrow, hid, howner⟩ := hbound
    obtain ⟨limits, ⟨row', hrow', hid', howner', -⟩, -⟩ := hbegan.below
    have heq : row = row' := eq_of_clash hrow hrow' (hid.trans (hrun.symm.trans hid'.symm))
    refine .inr ?_
    rw [← howner, heq, howner']
    exact hbegan.complete

/-! ### Runs -/

variable {d d' : Database}

theorem ledgerFollows_move {svc : DatabaseServices} (h : DatabaseMove svc d d') :
    LedgerFollows d.ledger d'.ledger := by
  cases h with
  | store _ hledger =>
      rw [hledger]
      exact .refl _
  | ledger _ heffect => exact ledgerFollows_effect heffect
  | graph hledger =>
      rw [hledger]
      exact .refl _

theorem ledgerSettled_move {svc : DatabaseServices} (h : DatabaseMove svc d d')
    (hs : LedgerSettled d.ledger) : LedgerSettled d'.ledger := by
  cases h with
  | store _ hledger =>
      rw [hledger]
      exact hs
  | ledger _ heffect => exact hs.effect heffect
  | graph hledger =>
      rw [hledger]
      exact hs

/-- In every reachable database only running attempts have reserved requests. -/
theorem ledger_settled (svc : DatabaseServices) (store : Store) (inputs : List DatabaseInput) :
    LedgerSettled ((databaseMachine svc).run (Database.fresh store) inputs).ledger := by
  have hinvariant := (databaseMoves svc).invariant (I := fun d => LedgerSettled d.ledger)
    fun _ _ => ledgerSettled_move
  exact hinvariant.run LedgerSettled.empty inputs

theorem ledger_follows (svc : DatabaseServices) (d : Database) (inputs : List DatabaseInput) :
    LedgerFollows d.ledger ((databaseMachine svc).run d inputs).ledger :=
  (databaseMoves svc).rel (I := fun _ => True)
    (Q := fun d d' => LedgerFollows d.ledger d'.ledger) (fun _ _ _ _ => trivial)
    (fun _ => .refl _) (fun _ _ _ => .trans) (fun _ _ hmove _ => ledgerFollows_move hmove)
    trivial inputs

/-- Nothing more is spent by an owner and its children: what would spend on one of their
attempts is refused, and an attempt of one of their runs begins only as the replay of a known
one. -/
structure Spent (svc : DatabaseServices) (d : Database) (ownerRunId : String) : Prop where
  refused : ∀ (input : DatabaseInput) (op : BudgetOp), input.op = .ledger op →
    ∀ a ∈ d.ledger.attempts, a.ownerRunId = ownerRunId → op.spendsOn? = some a.attemptId →
      (∃ e, (databaseMachine svc).out d input = .error e)
        ∧ (databaseMachine svc).next d input = d
  replayed : ∀ (input : DatabaseInput) (request : AgentInvocation) (attemptId : Option String)
    (selectedId : String), input.op = .ledger (.beginAttempt request attemptId) →
    (∃ row ∈ d.ledger.runs, row.runId = request.runId ∧ row.ownerRunId = ownerRunId) →
    (databaseMachine svc).out d input = .ok (.ledger (.attempt selectedId)) →
      d.ledger.attempt? selectedId ≠ none
        ∧ ((databaseMachine svc).next d input).ledger = d.ledger

theorem spent_of_unknownIn {svc : DatabaseServices} (h : d.ledger.UnknownIn ownerRunId) :
    Spent svc d ownerRunId := by
  constructor
  · intro input op hop a ha howner hspends
    refine refused_of_body fun result t hok => ?_
    rw [hop] at hok
    obtain ⟨_, hok, -⟩ := map_ok.mp hok
    obtain ⟨s, hs, -⟩ := onLedger_ok.mp hok
    have hcomplete := spends_complete (s := ⟨d.store, d.ledger⟩) ha hspends hs
    rw [howner] at hcomplete
    exact h.not_complete hcomplete
  · intro input request attemptId selectedId hop hbound hout
    have hok := committed_of_out hout
    generalize (databaseMachine svc).next d input = d' at hok
    rw [hop] at hok
    obtain ⟨answer, hledger, hanswer⟩ := map_ok.mp hok
    obtain ⟨s, hs, rfl⟩ := onLedger_ok.mp hledger
    obtain ⟨selected, hbegin, hselected⟩ := map_ok.mp hs
    subst hselected
    cases hanswer
    rcases begins_complete hbound hbegin with ⟨hsame, hknown⟩ | hcomplete
    · exact ⟨hknown, hsame⟩
    · exact absurd hcomplete h.not_complete

/-- In every run each request keeps its reservation and never changes once it is settled; an
attempt that does not run has no reserved request; and when a request of an owner or of its
children is of unknown outcome it stays so, and nothing more is spent by any of them. -/
theorem unknown_usage_absorbing (svc : DatabaseServices) (store : Store) (ownerRunId : String)
    (before after : List DatabaseInput) :
    let m := databaseMachine svc
    let d := m.run (Database.fresh store) before
    let d' := m.run d after
    Carries RequestFollows d.ledger.modelRequests d'.ledger.modelRequests
      ∧ (∀ a ∈ d'.ledger.attempts, a.status ≠ .running → ∀ item ∈ d'.ledger.modelRequests,
        item.reservation.attemptId = a.attemptId → item.outcome ≠ .reserved)
      ∧ (d.ledger.UnknownIn ownerRunId →
        d'.ledger.UnknownIn ownerRunId ∧ Spent svc d' ownerRunId) := by
  intro m d d'
  have hfollows : LedgerFollows d.ledger d'.ledger := ledger_follows svc d after
  have hsettled := ledger_settled svc store (before ++ after)
  rw [Machine.run_append] at hsettled
  refine ⟨hfollows.requests, fun a ha hended item hitem hid hreserved => ?_, fun hunknown => ?_⟩
  · exact hended (hsettled.running item hitem hreserved a ha hid.symm)
  · have hlater := hfollows.unknownIn hunknown
    exact ⟨hlater, spent_of_unknownIn hlater⟩

end AgentFleet
