import AgentFleet.Persistence.Evolution

/-! # Grant accounting

What grants can do over any interleaving of the store's transactions.  `movesOn` lists the
intents that a run moves to RESERVED on one grant.

* `mem_newlyReserved_effect` is the step lemma: a transaction that moves an intent on a grant
  spends a usable grant, and a one-use grant only on its own pending intent, or it stores the
  grant itself as a spent receipt.
* `grant_accounting` is the statement for runs. -/

namespace AgentFleet

open Relational Relational.Table Transition

/-- The intents that are RESERVED in `r'` and were not in `r`. -/
def newlyReserved (r r' : Records) : List String :=
  (r'.toolIntents.rows.filter fun b => b.status = .reserved
    && !r.toolIntents.rows.any fun a =>
      a.intent.intentId = b.intent.intentId && a.status = .reserved).map
    fun b => b.intent.intentId

/-- The grant on whose authority a transaction reserves: that of the request, the named one,
or the receipt it is about to store. -/
def StoreInput.grantId? (r : Records) (input : StoreInput) : Option String :=
  match input.op with
  | .consumeGrantAndReserve requestId _ =>
      (r.grantForRequest? requestId).map fun row => row.1.grantId
  | .consumeMatchingGrantAndReserve grantId _ _ _ => some grantId
  | .reserveTrustRuleIntent _ _ _ _ => some (input.amb.ids 0)
  | _ => none

variable (svc : Services)

/-- The intents that one transaction moves to RESERVED on a grant. -/
def stepMovesOn (grantId : String) (s : Store) (input : StoreInput) : List String :=
  if input.grantId? s.records = some grantId then
    newlyReserved s.records ((storeMachine svc).next s input).records
  else []

/-- The intents that a run moves to RESERVED on a grant. -/
def movesOn (grantId : String) : Store → List StoreInput → List String
  | _, [] => []
  | s, input :: inputs =>
      stepMovesOn svc grantId s input
        ++ movesOn grantId ((storeMachine svc).next s input) inputs

variable {svc}

variable {r r' : Records} {intentId grantId : String} {input : StoreInput} {s : Store}
  {row final : GrantRow} {inputs : List StoreInput}

theorem mem_newlyReserved :
    intentId ∈ newlyReserved r r' ↔
      (∃ b ∈ r'.toolIntents, b.intent.intentId = intentId ∧ b.status = .reserved)
        ∧ ∀ a ∈ r.toolIntents, a.intent.intentId = intentId → a.status ≠ .reserved := by
  simp only [newlyReserved, List.mem_map, List.mem_filter, Bool.and_eq_true,
    decide_eq_true_eq, Bool.not_eq_true', List.any_eq_false, not_and]
  constructor
  · rintro ⟨b, ⟨hb, hs, hn⟩, rfl⟩
    exact ⟨⟨b, hb, rfl, hs⟩, hn⟩
  · rintro ⟨⟨b, hb, rfl, hs⟩, hn⟩
    exact ⟨b, ⟨hb, hs, hn⟩, rfl⟩

theorem newlyReserved_self (r : Records) : newlyReserved r r = [] := by
  refine List.eq_nil_iff_forall_not_mem.mpr fun intentId h => ?_
  obtain ⟨⟨b, hb, hid, hs⟩, hn⟩ := mem_newlyReserved.mp h
  exact hn b hb hid hs

/-- How a transaction came to move an intent on a grant. -/
inductive MovedBy (amb : Ambient) (r r' : Records) (grantId intentId : String) : Prop where
  /-- It spent a usable grant; a one-use grant on its own pending intent. -/
  | spent (row : GrantRow) (stored : row ∈ r.capabilityGrants) (id : row.1.grantId = grantId)
      (usable : Usable amb row.1)
      (own : row.1.choice = .allowOnce → row.1.intentId = intentId
        ∧ (∃ source ∈ r.toolIntents, source.intent.intentId = intentId
            ∧ source.status = .pendingApproval)
        ∧ ∃ request ∈ r.approvals, row.1.requestId = some request.requestId
          ∧ request.intentId = intentId)
  /-- It stored the grant as the receipt of an always-rule. -/
  | receipt (row : GrantRow) (fresh : ∀ a ∈ r.capabilityGrants, a.1.grantId ≠ grantId)
      (stored : row ∈ r'.capabilityGrants) (id : row.1.grantId = grantId)
      (always : row.1.choice = .allowAlways)

theorem Consumed.newlyReserved {amb : Ambient} {requestId : String} {stored : StoredToolIntent}
    (h : Consumed svc amb r requestId stored r') (hi : intentId ∈ newlyReserved r r') :
    stored.intent.intentId = intentId := by
  obtain ⟨request, intent, row, run, -, -, -, -, -, -, -, rfl, hrange, rfl⟩ := h.spent
  obtain ⟨⟨b, hb, hid, hs⟩, hn⟩ := mem_newlyReserved.mp hi
  obtain ⟨a, ha, rfl⟩ := Records.mem_withIntent.mp hb
  split_ifs at hs hid with hp
  · exact hp.symm.trans hid
  · exact absurd hs (hn a ha hid)

/-- The step lemma: what a transaction needs to move an intent on a grant. -/
theorem movedBy_of_effect (h : Effect svc input.amb input.op r r')
    (hg : input.grantId? r = some grantId) (hi : intentId ∈ newlyReserved r r') :
    MovedBy input.amb r r' grantId intentId := by
  obtain ⟨op, amb⟩ := input
  cases h with
  | unchanged =>
      rw [newlyReserved_self] at hi
      exact absurd hi List.not_mem_nil
  | consumed h =>
      have hown := h.newlyReserved hi
      obtain ⟨request, intent, row, run, hrequest, hintent, hrow, hbinding, -, husable,
        hpending, rfl, -, -⟩ := h.spent
      simp only [StoreInput.grantId?, hrow, Option.map_some, Option.some.injEq] at hg
      have hgrant := hbinding.grant row.1 rfl
      refine .spent row (Records.grantForRequest?_mem hrow).1 hg husable fun _ => ⟨?_, ?_, ?_⟩
      · exact hgrant.2.1.trans hown
      · exact ⟨intent, (Records.intent?_mem hintent).1, hown, hpending⟩
      · exact ⟨request, (Records.approval?_mem hrequest).1, hgrant.1,
          hbinding.intentId.trans hown⟩
  | reused _ h =>
      obtain ⟨row, hrow, husable, hchoice, -⟩ := h.spent
      simp only [StoreInput.grantId?, Option.some.injEq] at hg
      obtain ⟨hmem, hid⟩ := Records.grant?_mem hrow
      exact .spent row hmem (hid.trans hg) husable fun honce => absurd honce hchoice
  | receipted _ h =>
      obtain ⟨receipt, r₁, T, hid, -, halways, -, -, ⟨_, -, rfl⟩, hT, rfl⟩ := h.written
      simp only [StoreInput.grantId?, Option.some.injEq] at hg
      refine .receipt receipt (fun a ha heq => ?_) ((Table.mem_insert hT).mpr (.inr rfl))
        (hid.trans hg) halways
      exact Table.not_clash_of_insert hT ha (.inl (heq.trans (hid.trans hg).symm))
  | _ => simp [StoreInput.grantId?] at hg

theorem movedBy_of_step (h : intentId ∈ stepMovesOn svc grantId s input) :
    MovedBy input.amb s.records ((storeMachine svc).next s input).records grantId intentId := by
  unfold stepMovesOn at h
  split_ifs at h with hg
  · exact movedBy_of_effect (effect_of_step svc s input) hg h
  · exact absurd h List.not_mem_nil

/-! ### Revocation and expiry -/

/-- A grant that is revoked or expired for every transaction of a run moves nothing in it. -/
theorem movesOn_eq_nil (hrow : row ∈ s.records.capabilityGrants)
    (h : ∀ input ∈ inputs, row.1.revokedAt ≠ none
      ∨ ∃ expiry ∈ row.1.expiresAt, expiry ≤ input.amb.clock 0) :
    movesOn svc row.1.grantId s inputs = [] := by
  induction inputs generalizing s row with
  | nil => rfl
  | cons input inputs ih =>
      have hstep : stepMovesOn svc row.1.grantId s input = [] := by
        refine List.eq_nil_iff_forall_not_mem.mpr fun intentId hi => ?_
        cases movedBy_of_step hi with
        | spent row' hrow' hid husable =>
            have heq : row' = row := Table.eq_of_clash hrow' hrow (.inl hid)
            subst heq
            rcases h input List.mem_cons_self with hrevoked | ⟨expiry, hexpiry, hle⟩
            · exact hrevoked husable.unrevoked
            · exact absurd hle (Int.not_le.mpr (husable.unexpired expiry hexpiry))
        | receipt _ fresh => exact fresh row hrow rfl
      obtain ⟨row', hrow', hev⟩ := (effect_of_step svc s input).evolves.grants row hrow
      have hid : row'.1.grantId = row.1.grantId := hev.field CapabilityGrant.grantId fun _ => rfl
      have hexp : row'.1.expiresAt = row.1.expiresAt :=
        hev.field CapabilityGrant.expiresAt fun _ => rfl
      have htail := ih hrow' fun i hi => by
        rcases h i (List.mem_cons_of_mem _ hi) with hrevoked | hexpired
        · exact .inl (by rwa [hev.revoked hrevoked])
        · exact .inr (by rwa [hexp])
      rw [movesOn, hstep, List.nil_append, ← hid, htail]

/-! ### One-use grants -/

/-- A one-use grant whose intent has left PENDING_APPROVAL moves nothing. -/
theorem movesOn_eq_nil_of_settled (svc : Services) (hrow : row ∈ s.records.capabilityGrants)
    (honce : row.1.choice = .allowOnce) {source : StoredToolIntent}
    (hsource : source ∈ s.records.toolIntents) (hid : source.intent.intentId = row.1.intentId)
    (hsettled : source.status ≠ .pendingApproval) (inputs : List StoreInput) :
    movesOn svc row.1.grantId s inputs = [] := by
  induction inputs generalizing s row source with
  | nil => rfl
  | cons input inputs ih =>
      have hstep : stepMovesOn svc row.1.grantId s input = [] := by
        refine List.eq_nil_iff_forall_not_mem.mpr fun intentId hi => ?_
        cases movedBy_of_step hi with
        | spent row' hrow' hgrant _ own =>
            have heq : row' = row := Table.eq_of_clash hrow' hrow (.inl hgrant)
            subst heq
            obtain ⟨hintent, ⟨a, ha, haid, hpending⟩, -⟩ := own honce
            have hsame : a = source :=
              Table.eq_of_clash ha hsource (.inl (haid.trans (hintent.symm.trans hid.symm)))
            exact hsettled (hsame ▸ hpending)
        | receipt _ fresh => exact fresh row hrow rfl
      have hev := (effect_of_step svc s input).evolves
      obtain ⟨row', hrow', hgrant⟩ := hev.grants row hrow
      obtain ⟨source', hsource', hintent⟩ := hev.intents source hsource
      have htail := ih hrow' ((hgrant.field CapabilityGrant.choice fun _ => rfl).trans honce)
        hsource' (by rw [hintent.intent, hid, hgrant.field CapabilityGrant.intentId fun _ => rfl])
        (hintent.settled hsettled)
      rw [movesOn, hstep, List.nil_append, ← hgrant.field CapabilityGrant.grantId fun _ => rfl,
        htail]

theorem newlyReserved_nodup (r r' : Records) : (newlyReserved r r').Nodup := by
  have hrows := r'.toolIntents.unique.filter fun b => b.status = .reserved
    && !r.toolIntents.rows.any fun a =>
      a.intent.intentId = b.intent.intentId && a.status = .reserved
  exact hrows.map _ fun _ _ h heq => h (.inl heq)

/-- A list without duplicates whose elements are all `a` is empty or `[a]`. -/
theorem eq_nil_or_singleton {l : List String} {a : String} (hnodup : l.Nodup)
    (hall : ∀ b ∈ l, b = a) : l = [] ∨ l = [a] := by
  cases l with
  | nil => exact .inl rfl
  | cons b rest =>
      obtain rfl : b = a := hall b List.mem_cons_self
      cases rest with
      | nil => exact .inr rfl
      | cons c =>
          obtain rfl : c = b := hall c (by simp)
          simp at hnodup

/-- The grants of a state with the identifier of a later grant are its earlier versions. -/
theorem grant_of_later (inputs : List StoreInput)
    (hfinal : final ∈ ((storeMachine svc).run s inputs).records.capabilityGrants)
    (hrow : row ∈ s.records.capabilityGrants) (hid : row.1.grantId = final.1.grantId) :
    GrantEvolves row final := by
  obtain ⟨row', hrow', hev⟩ := (evolves_run svc s inputs).grants row hrow
  have hsame : row' = final := Table.eq_of_clash hrow' hfinal
    (.inl ((hev.field CapabilityGrant.grantId fun _ => rfl).trans hid))
  exact hsame ▸ hev

/-- Over a whole run a one-use grant moves at most the intent of its own request. -/
theorem movesOn_once (hfinal : final ∈ ((storeMachine svc).run s inputs).records.capabilityGrants)
    (honce : final.1.choice = .allowOnce) :
    movesOn svc final.1.grantId s inputs = []
      ∨ (movesOn svc final.1.grantId s inputs = [final.1.intentId]
        ∧ ∃ request ∈ ((storeMachine svc).run s inputs).records.approvals,
          final.1.requestId = some request.requestId
            ∧ request.intentId = final.1.intentId) := by
  induction inputs generalizing s with
  | nil => exact .inl rfl
  | cons input inputs ih =>
      rw [Machine.run_cons] at hfinal ⊢
      by_cases hnone : stepMovesOn svc final.1.grantId s input = []
      · rw [movesOn, hnone, List.nil_append]
        exact ih hfinal
      · obtain ⟨intentId, hi⟩ := List.exists_mem_of_ne_nil _ hnone
        cases movedBy_of_step hi with
        | receipt row _ hrow hid always =>
            have hev := grant_of_later inputs hfinal hrow hid
            rw [hev.field CapabilityGrant.choice fun _ => rfl, always] at honce
            cases honce
        | spent row hrow hid _ own =>
            have hfield : ∀ row' ∈ s.records.capabilityGrants,
                row'.1.grantId = final.1.grantId → GrantEvolves row' final :=
              fun row' hrow' hid' => grant_of_later (input :: inputs) hfinal hrow' hid'
            have hev := hfield row hrow hid
            have hrowOnce : row.1.choice = .allowOnce :=
              (hev.field CapabilityGrant.choice fun _ => rfl).symm.trans honce
            have hintentId : final.1.intentId = row.1.intentId :=
              hev.field CapabilityGrant.intentId fun _ => rfl
            obtain ⟨hown, -, request, hrequest, hgrantReq, hreqIntent⟩ := own hrowOnce
            have hall : ∀ b ∈ stepMovesOn svc final.1.grantId s input, b = final.1.intentId := by
              intro b hb
              cases movedBy_of_step hb with
              | receipt _ fresh => exact absurd hid (fresh row hrow)
              | spent row' hrow' hid' _ own' =>
                  have hev' := hfield row' hrow' hid'
                  have hchoice := (hev'.field CapabilityGrant.choice fun _ => rfl).symm.trans honce
                  rw [hev'.field CapabilityGrant.intentId fun _ => rfl]
                  exact (own' hchoice).1.symm
            have hnodup : (stepMovesOn svc final.1.grantId s input).Nodup := by
              unfold stepMovesOn
              split_ifs
              · exact newlyReserved_nodup _ _
              · exact List.nodup_nil
            have hstep := (eq_nil_or_singleton hnodup hall).resolve_left hnone
            -- the moved intent is RESERVED now, so the rest of the run moves nothing
            have hreserved : ∃ b ∈ ((storeMachine svc).next s input).records.toolIntents,
                b.intent.intentId = intentId ∧ b.status = .reserved := by
              unfold stepMovesOn at hi
              split_ifs at hi
              · exact (mem_newlyReserved.mp hi).1
              · exact absurd hi List.not_mem_nil
            obtain ⟨b, hb, hbid, hbs⟩ := hreserved
            have hevolves := (effect_of_step svc s input).evolves
            obtain ⟨row', hrow', hev'⟩ := hevolves.grants row hrow
            have hid' : row'.1.grantId = final.1.grantId :=
              (hev'.field CapabilityGrant.grantId fun _ => rfl).trans hid
            have hsource : b.intent.intentId = row'.1.intentId :=
              hbid.trans (hown.symm.trans (hev'.field CapabilityGrant.intentId fun _ => rfl).symm)
            have htail := movesOn_eq_nil_of_settled svc hrow'
              ((hev'.field CapabilityGrant.choice fun _ => rfl).trans hrowOnce) hb hsource
              (by simp [hbs]) inputs
            rw [hid'] at htail
            refine .inr ⟨by rw [movesOn, hstep, htail, List.append_nil], ?_⟩
            obtain ⟨request', hrequest', hreqev⟩ :=
              (evolves_run svc s (input :: inputs)).approvals request hrequest
            refine ⟨request', hrequest', ?_, ?_⟩
            · rw [hev.field CapabilityGrant.requestId fun _ => rfl, hgrantReq, hreqev.requestId]
            · rw [hreqev.intentId, hreqIntent, hintentId, hown]

/-! ### The accounts of a run -/

/-- The accounts of grants over a run from `s`. -/
structure GrantAccounts (svc : Services) (s : Store) (inputs : List StoreInput) : Prop where
  /-- Each approval request has at most one grant. -/
  oneGrant : ∀ a ∈ ((storeMachine svc).run s inputs).records.capabilityGrants,
    ∀ b ∈ ((storeMachine svc).run s inputs).records.capabilityGrants, ∀ requestId,
      a.1.requestId = some requestId → b.1.requestId = some requestId → a = b
  /-- The uses of a grant never grow and are never negative. -/
  uses : ∀ a ∈ s.records.capabilityGrants,
    ∃ b ∈ ((storeMachine svc).run s inputs).records.capabilityGrants,
      b.1.identity = a.1.identity
        ∧ (a.1.remainingUses = none ∧ b.1.remainingUses = none
          ∨ ∃ n ∈ a.1.remainingUses, ∃ m ∈ b.1.remainingUses, 0 ≤ m ∧ m ≤ n)
  /-- A one-use grant moves at most one intent, the one its request was created for. -/
  once : ∀ grant ∈ ((storeMachine svc).run s inputs).records.capabilityGrants,
    grant.1.choice = .allowOnce →
      (movesOn svc grant.1.grantId s inputs).length ≤ 1
        ∧ ∀ intentId ∈ movesOn svc grant.1.grantId s inputs,
          ∃ request ∈ ((storeMachine svc).run s inputs).records.approvals,
            grant.1.requestId = some request.requestId ∧ request.intentId = intentId
  /-- Transactions at or after its revocation or its expiry move nothing on a grant. -/
  lapsed : ∀ grant ∈ ((storeMachine svc).run s inputs).records.capabilityGrants,
    ∀ later : List StoreInput,
      (∀ input ∈ later, grant.1.revokedAt ≠ none
        ∨ ∃ expiry ∈ grant.1.expiresAt, expiry ≤ input.amb.clock 0) →
      movesOn svc grant.1.grantId ((storeMachine svc).run s inputs) later = []

/-- Grant accounting: the accounts hold over every run from every store. -/
theorem grant_accounting (svc : Services) (s : Store) (inputs : List StoreInput) :
    GrantAccounts svc s inputs where
  oneGrant a ha b hb requestId hra hrb :=
    Table.eq_of_clash ha hb (.inr (.inr ⟨hra.trans hrb.symm, by simp [hra]⟩))
  uses a ha := by
    obtain ⟨b, hb, hev⟩ := (evolves_run svc s inputs).grants a ha
    refine ⟨b, hb, hev.identity, ?_⟩
    cases hn : a.1.remainingUses with
    | none => exact .inl ⟨rfl, hev.unlimited hn⟩
    | some n =>
        obtain ⟨m, hm, hle⟩ := hev.uses n hn
        exact .inr ⟨n, rfl, m, hm, (b.2 m hm).1, hle⟩
  once grant hgrant honce := by
    rcases movesOn_once hgrant honce with hnil | ⟨hone, hrequest⟩
    · rw [hnil]
      exact ⟨by simp, fun _ h => absurd h List.not_mem_nil⟩
    · rw [hone]
      refine ⟨by simp, fun intentId h => ?_⟩
      rw [List.mem_singleton] at h
      rw [h]
      exact hrequest
  lapsed grant hgrant later h := movesOn_eq_nil hgrant h

end AgentFleet
