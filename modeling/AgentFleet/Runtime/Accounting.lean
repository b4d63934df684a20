import AgentFleet.Runtime.Invocation

/-! # The accounting of invocations

What the log of an invocation says of its requests, calls and receipts.

* `RequestEffect` is what one request adds to the log, `request_effect` that every request does so.
* `Accounted` is what holds in every state, `accounted_step` that every step keeps it.
* `request_accounting_complete` is what holds of the log of every run. -/

namespace AgentFleet.Runtime

open History Transition

variable {setting : Setting}

/-! ### What the log has to say -/

/-- What must come before an event: a dispatch directly follows its reservation and keeps to it and
to the tokens that are left, a receipt is of an accepted call, and an output is that of a published
receipt which answers the invocation. -/
def Sound (setting : Setting) (before : List Event) : Event → Prop
  | .dispatched _ maxTokens _ =>
      (setting.accounting ≠ none → ∃ earlier reservation, before = earlier ++ [.reserved reservation]
        ∧ maxTokens ≤ reservation.tokenAllowance)
      ∧ maxTokens ≤ setting.configuration.maxTotalTokens - reportedTokens before
  | .published receipt => ∃ item, .accepted item ∈ before ∧ receipt.Completes item
  | .delivered context arguments output =>
      ∃ receipt, .published receipt ∈ before ∧ receipt.Answers context arguments
        ∧ output = receipt.outputJson
  | _ => True

/-- The events of one step reserve nothing, or reserve and then record the reserved request, with no
other event of the accounting. -/
def RecordedOnce (events : List Event) : Prop :=
  events.filter Event.isAccounting = []
    ∨ ∃ reservation record, record.Records reservation
      ∧ events.filter Event.isAccounting = [.reserved reservation, record]

/-- The tokens of the log are counted by the model, or no reservation is granted any more. -/
def TokensKept (setting : Setting) (log : List Event) (totalTokens : ℕ) : Prop :=
  reportedTokens log ≤ totalTokens ∨ Exhausted setting log

variable {log : List Event} {model : FleetSdkModel} {reservation : Option ModelRequestReservation}
  {maxTokens : ℤ} {session : Session} {receipt : CompletedReceipt}

theorem Exhausted.append (h : Exhausted setting log) (events : List Event) :
    Exhausted setting (log ++ events) := by
  obtain ⟨accounting, hsome, hends⟩ := h
  exact ⟨accounting, hsome, fun later hlater => hends later ((List.prefix_append _ _).trans hlater)⟩

/-- The accounting of an invocation that has a limit of tokens for itself. -/
def Accounting.ofLimit (attemptId : String) (limit : ℕ) (reservedAt : Timestamp) : Accounting where
  reserve := fun log number tokens =>
    if limit ≤ reportedTokens log then
      .error (boundaryError .runtimeBudgetExceeded "usage_limit" "unknown" none)
    else .ok {
      attemptId := attemptId
      requestSequence := number
      tokenAllowance := min tokens.toNat (limit - reportedTokens log)
      requestedTokens := tokens.toNat
      reservedAt := reservedAt }
  remaining := fun _ => .ok 3600
  refusal := fun log _ _ =>
    if limit < reportedTokens log then
      some (boundaryError .runtimeBudgetExceeded "usage_limit" "unknown" none)
    else none
  exhausted := by
    intro log reservation usage hrefused _ later hlater number tokens
    obtain ⟨events, rfl⟩ := hlater
    have hover : limit < reportedTokens log := by
      by_contra hnot
      exact hrefused (if_neg hnot)
    refine ⟨_, if_pos ?_⟩
    rw [reportedTokens_append]
    omega

/-! ### What a request adds -/

/-- The events of a request, and the model after it. -/
structure RequestEffect (setting : Setting) (log : List Event) (model : FleetSdkModel)
    (requested : Requested) : Prop where
  wire : requested.wire = {}
  counted : model.requests + dispatches requested.events ≤ requested.model.requests
  limit : requested.model.requests ≤ max model.requests setting.requestLimit.toNat
  sends : sends requested.events ≤ dispatches requested.events
  tokens : TokensKept setting log model.totalTokens →
    TokensKept setting (log ++ requested.events) requested.model.totalTokens
  calls : ∃ calls, acceptedIds requested.events = callIds calls
    ∧ (∀ item ∈ calls, .accepted item ∈ requested.events)
    ∧ Fresh model.seenIds requested.model.seenIds calls
    ∧ (requested.model.pending = calls ∨ calls = [] ∧ requested.model.pending = model.pending)
  unpublished : publishedIds requested.events = []
  undelivered : deliveredIds requested.events = []
  sound : TokensKept setting log model.totalTokens →
    Justified (fun before => Sound setting (log ++ before)) requested.events
  recorded : RecordedOnce requested.events

theorem Granted.tokens (h : Granted setting log model reservation maxTokens)
    (hkept : TokensKept setting log model.totalTokens) : reportedTokens log ≤ model.totalTokens :=
  hkept.resolve_right h.not_exhausted

/-- The dispatch of a granted request is sound. -/
theorem Granted.sound (h : Granted setting log model reservation maxTokens)
    (hkept : TokensKept setting log model.totalTokens) (number : ℕ) (timeout : ℚ) :
    Sound setting (log ++ (reservation.map Event.reserved).toList)
      (.dispatched number maxTokens timeout) := by
  constructor
  · intro haccounting
    obtain ⟨item, rfl, hle⟩ := h.reserved haccounting
    exact ⟨log, item, rfl, hle⟩
  · have htokens := h.tokens hkept
    have hzero : reportedTokens (reservation.map Event.reserved).toList = 0 := by
      cases reservation with
      | none | some item => rfl
    have hwithin := h.within_total
    rw [reportedTokens_append, hzero]
    omega

/-- Events that need nothing before them. -/
def Event.isPlain : Event → Bool
  | .dispatched _ _ _ | .published _ | .delivered _ _ _ => false
  | _ => true

theorem justified_plain {events : List Event} (log : List Event)
    (h : ∀ event ∈ events, event.isPlain = true) :
    Justified (fun before => Sound setting (log ++ before)) events := by
  apply Justified.of_forall
  intro before event hmem
  have hplain := h event hmem
  cases event with
  | dispatched => cases hplain
  | published receipt | delivered context arguments output => cases hplain
  | reserved | sent | responded | recordedResponse | recordedUnknown | accepted => trivial

/-- The events of a granted request are sound when everything after the dispatch is plain. -/
theorem Granted.justified {log : List Event} {model : FleetSdkModel}
    {reservation : Option ModelRequestReservation} {maxTokens : ℤ}
    (h : Granted setting log model reservation maxTokens)
    (hkept : TokensKept setting log model.totalTokens) (number : ℕ) (timeout : ℚ)
    {events : List Event} (hplain : ∀ event ∈ events, event.isPlain = true) :
    Justified (fun before => Sound setting (log ++ before))
      ((reservation.map Event.reserved).toList ++ .dispatched number maxTokens timeout :: events) := by
  refine justified_append.mpr ⟨justified_plain log ?_, justified_cons.mpr ⟨?_, ?_⟩⟩
  · cases reservation with
    | none => simp
    | some => simp [Event.isPlain]
  · rw [List.append_nil]
    exact h.sound hkept number timeout
  · have hrest := @justified_plain setting events
      (log ++ (reservation.map Event.reserved).toList ++ [.dispatched number maxTokens timeout])
      hplain
    refine hrest.mono fun before event hsound => ?_
    simpa using hsound

/-- What is read off the events of a reservation and of its record. -/
theorem reserved_reads (reservation : Option ModelRequestReservation) :
    let events := (reservation.map Event.reserved).toList
    acceptedIds events = [] ∧ publishedIds events = [] ∧ deliveredIds events = []
      ∧ dispatches events = 0 ∧ sends events = 0 ∧ reportedTokens events = 0 := by
  cases reservation with
  | none | some item => exact ⟨rfl, rfl, rfl, rfl, rfl, rfl⟩

/-- The events between a reservation and the accepted calls: they tell of no call, of a dispatch at
most, of a send only with the dispatch, and of the record of the reservation. -/
structure Between (reservation : Option ModelRequestReservation) (events : List Event) : Prop where
  accepted : acceptedIds events = []
  published : publishedIds events = []
  delivered : deliveredIds events = []
  dispatches_le : dispatches events ≤ 1
  sends_le : sends events ≤ dispatches events
  recorded : RecordedOnce ((reservation.map Event.reserved).toList ++ events)

theorem between_unknown (reservation : Option ModelRequestReservation) :
    Between reservation (reservation.map Event.recordedUnknown).toList := by
  cases reservation with
  | none => exact ⟨rfl, rfl, rfl, Nat.zero_le 1, le_rfl, .inl rfl⟩
  | some item =>
      exact ⟨rfl, rfl, rfl, Nat.zero_le 1, le_rfl, .inr ⟨item, _, .inr rfl, rfl⟩⟩

theorem between_failed (reservation : Option ModelRequestReservation) (number : ℕ) (maxTokens : ℤ)
    (timeout : ℚ) {sends : List Event} (hsends : AtMostOneSend sends) :
    Between reservation (.dispatched number maxTokens timeout :: sends
      ++ (reservation.map Event.recordedUnknown).toList) := by
  rcases hsends with rfl | rfl
  · cases reservation with
    | none => exact ⟨rfl, rfl, rfl, le_rfl, Nat.zero_le 1, .inl rfl⟩
    | some item => exact ⟨rfl, rfl, rfl, le_rfl, Nat.zero_le 1, .inr ⟨item, _, .inr rfl, rfl⟩⟩
  · cases reservation with
    | none => exact ⟨rfl, rfl, rfl, le_rfl, le_rfl, .inl rfl⟩
    | some item => exact ⟨rfl, rfl, rfl, le_rfl, le_rfl, .inr ⟨item, _, .inr rfl, rfl⟩⟩

theorem between_recorded (reservation : Option ModelRequestReservation) (number : ℕ)
    (maxTokens : ℤ) (timeout : ℚ) {sends : List Event} (hsends : AtMostOneSend sends)
    (usage : UsageRecord) :
    Between reservation (.dispatched number maxTokens timeout :: sends
      ++ .responded usage
      :: (reservation.map fun item => Event.recordedResponse item usage).toList) := by
  rcases hsends with rfl | rfl
  · cases reservation with
    | none => exact ⟨rfl, rfl, rfl, le_rfl, Nat.zero_le 1, .inl rfl⟩
    | some item =>
        exact ⟨rfl, rfl, rfl, le_rfl, Nat.zero_le 1, .inr ⟨item, _, .inl ⟨usage, rfl⟩, rfl⟩⟩
  · cases reservation with
    | none => exact ⟨rfl, rfl, rfl, le_rfl, le_rfl, .inl rfl⟩
    | some item =>
        exact ⟨rfl, rfl, rfl, le_rfl, le_rfl, .inr ⟨item, _, .inl ⟨usage, rfl⟩, rfl⟩⟩

theorem recordedOnce_append {events : List Event} (h : RecordedOnce events)
    (calls : List PendingCall) : RecordedOnce (events ++ calls.map .accepted) := by
  unfold RecordedOnce
  rw [List.filter_append, accounting_accepted, List.append_nil]
  exact h

/-- The effect of a granted request, from its events, the model after it and the accepted calls. -/
theorem Granted.effect {log : List Event} {model : FleetSdkModel}
    {reservation : Option ModelRequestReservation} {maxTokens : ℤ}
    (h : Granted setting log model reservation maxTokens) {sent : Requested}
    {events : List Event} {calls : List PendingCall} (hwire : sent.wire = {})
    (hevents : sent.events = events ++ calls.map .accepted) (hbetween : Between reservation events)
    (hinspected : Inspected { model with requests := model.requests + 1 } sent.model calls)
    (htokens : reportedTokens log ≤ model.totalTokens → TokensKept setting
      (log ++ ((reservation.map Event.reserved).toList ++ sent.events)) sent.model.totalTokens)
    (hsound : TokensKept setting log model.totalTokens →
      Justified (fun before => Sound setting (log ++ before))
        ((reservation.map Event.reserved).toList ++ sent.events)) :
    RequestEffect setting log model
      { sent with events := (reservation.map Event.reserved).toList ++ sent.events } := by
  obtain ⟨haccepted, hpublished, hdelivered, hdispatches, hsends, -⟩ := reserved_reads reservation
  have hrequests : sent.model.requests = model.requests + 1 := hinspected.requests
  have hlimit := h.within_limit
  refine ⟨hwire, ?_, ?_, ?_, fun hkept => htokens (h.tokens hkept), ?_, ?_, ?_, hsound, ?_⟩
  · have hle := hbetween.dispatches_le
    simp only [hevents, dispatches_append, hdispatches, dispatches_accepted]
    omega
  · dsimp only
    rw [hrequests]
    apply le_max_of_le_right
    omega
  · have hle := hbetween.sends_le
    simp only [hevents, dispatches_append, hdispatches, dispatches_accepted, sends_append, hsends,
      sends_accepted]
    omega
  · refine ⟨calls, ?_, ?_, hinspected.fresh, hinspected.pending⟩
    · simp only [hevents, acceptedIds_append, haccepted, hbetween.accepted, acceptedIds_accepted,
        List.nil_append]
    · intro item hitem
      have hmem : Event.accepted item ∈ calls.map Event.accepted := List.mem_map_of_mem hitem
      simp only [hevents, List.mem_append]
      exact .inr (.inr hmem)
  · simp only [hevents, publishedIds_append, hpublished, hbetween.published, publishedIds_accepted,
      List.nil_append]
  · simp only [hevents, deliveredIds_append, hdelivered, hbetween.delivered, deliveredIds_accepted,
      List.nil_append]
  · dsimp only
    rw [hevents, ← List.append_assoc]
    exact recordedOnce_append hbetween.recorded calls

/-- A model that did not inspect a response has accepted no calls. -/
theorem inspected_refl (model : FleetSdkModel) : Inspected model model [] :=
  ⟨rfl, .none fun _ hmem => hmem, .inr ⟨rfl, rfl⟩⟩

theorem isPlain_unknown (reservation : Option ModelRequestReservation) :
    ∀ event ∈ (reservation.map Event.recordedUnknown).toList, event.isPlain = true := by
  cases reservation with
  | none => simp
  | some => simp [Event.isPlain]

theorem isPlain_sends {sends : List Event} (h : AtMostOneSend sends) :
    ∀ event ∈ sends, event.isPlain = true := by
  rcases h with rfl | rfl
  · simp
  · simp [Event.isPlain]

theorem isPlain_recorded (reservation : Option ModelRequestReservation) (usage : UsageRecord) :
    ∀ event ∈ Event.responded usage
      :: (reservation.map fun item => Event.recordedResponse item usage).toList,
      event.isPlain = true := by
  cases reservation with
  | none | some item => simp [Event.isPlain]

theorem reportedTokens_sends {sends : List Event} (h : AtMostOneSend sends) :
    reportedTokens sends = 0 := by
  rcases h with rfl | rfl
  · rfl
  · rfl

theorem reportedTokens_unknown (reservation : Option ModelRequestReservation) :
    reportedTokens (reservation.map Event.recordedUnknown).toList = 0 := by
  cases reservation with
  | none | some item => rfl

theorem reportedTokens_recorded (reservation : Option ModelRequestReservation)
    (usage : UsageRecord) :
    reportedTokens (reservation.map fun item => Event.recordedResponse item usage).toList = 0 := by
  cases reservation with
  | none | some item => rfl

/-- Every request has its effect. -/
theorem request_effect {requested : Requested} (h : RequestStep setting log model requested) :
    RequestEffect setting log model requested := by
  cases h with
  | refused result requests hle hlimit =>
      refine ⟨rfl, hle, ?_, le_rfl, fun hkept => ?_, ⟨[], rfl, by simp, ?_, .inr ⟨rfl, rfl⟩⟩, rfl,
        rfl, fun _ => justified_nil, .inl rfl⟩
      · dsimp only
        rcases hlimit with rfl | hlimit
        · exact le_max_left _ _
        · apply le_max_of_le_right
          omega
      · rwa [List.append_nil]
      · exact .none fun _ hmem => hmem
  | granted reservation maxTokens sent hgranted hsent =>
      have hreserved := (reserved_reads reservation).2.2.2.2.2
      cases hsent with
      | stopped result =>
          have hplain := isPlain_unknown reservation
          refine hgranted.effect rfl (List.append_nil _).symm (between_unknown reservation)
            (inspected_refl _) (fun htokens => .inl ?_) fun _ => justified_plain log ?_
          · simp only [reportedTokens_append, hreserved, reportedTokens_unknown]
            omega
          · intro event hmem
            rcases List.mem_append.mp hmem with hmem | hmem
            · cases reservation with
              | none => simp at hmem
              | some =>
                  rw [Option.map_some, Option.toList_some, List.mem_singleton] at hmem
                  rw [hmem]
                  rfl
            · exact hplain event hmem
      | failed result timeout sends hsends =>
          refine hgranted.effect rfl (List.append_nil _).symm
            (between_failed reservation _ maxTokens timeout hsends) (inspected_refl _)
            (fun htokens => .inl ?_) fun hkept => ?_
          · simp only [reportedTokens_append, reportedTokens_cons, hreserved,
              reportedTokens_unknown, reportedTokens_sends hsends, Event.tokens]
            omega
          · apply hgranted.justified hkept
            intro event hmem
            rcases List.mem_append.mp hmem with hmem | hmem
            · exact isPlain_sends hsends event hmem
            · exact isPlain_unknown reservation event hmem
      | refused result timeout sends hsends usage events hevents hexhausted =>
          subst hevents
          refine hgranted.effect rfl (List.append_nil _).symm
            (between_recorded reservation _ maxTokens timeout hsends usage) (inspected_refl _)
            (fun htokens => ?_) fun hkept => ?_
          · by_cases hnone : usage.totalTokens = none
            · left
              simp only [reportedTokens_append, reportedTokens_cons, hreserved,
                reportedTokens_recorded, reportedTokens_sends hsends, Event.tokens, hnone,
                Option.getD_none]
              omega
            · right
              rw [← List.append_assoc]
              exact hexhausted hnone
          · apply hgranted.justified hkept
            intro event hmem
            rcases List.mem_append.mp hmem with hmem | hmem
            · exact isPlain_sends hsends event hmem
            · exact isPlain_recorded reservation usage event hmem
      | settled result timeout sends hsends usage model' calls htotal hinspected =>
          refine hgranted.effect rfl rfl
            (between_recorded reservation _ maxTokens timeout hsends usage) hinspected
            (fun htokens => .inl ?_) fun hkept => ?_
          · simp only [reportedTokens_append, reportedTokens_cons, hreserved,
              reportedTokens_recorded, reportedTokens_sends hsends, Event.tokens,
              reportedTokens_accepted, htotal]
            omega
          · apply hgranted.justified hkept
            intro event hmem
            rcases List.mem_append.mp hmem with hmem | hmem
            · rcases List.mem_append.mp hmem with hmem | hmem
              · exact isPlain_sends hsends event hmem
              · exact isPlain_recorded reservation usage event hmem
            · obtain ⟨item, -, rfl⟩ := List.mem_map.mp hmem
              rfl

/-! ### Every state -/

/-- What holds in every state of an invocation. -/
structure Accounted (setting : Setting) (session : Session) : Prop where
  wire : session.wire = {}
  limit : session.model.requests ≤ setting.requestLimit.toNat
  counted : dispatches session.log ≤ session.model.requests
  sends : sends session.log ≤ dispatches session.log
  tokens : TokensKept setting session.log session.model.totalTokens
  accepted_nodup : (acceptedIds session.log).Nodup
  accepted_seen : acceptedIds session.log ⊆ session.model.seenIds
  published_nodup : (publishedIds session.log).Nodup
  published_accepted : publishedIds session.log ⊆ acceptedIds session.log
  delivered_nodup : (deliveredIds session.log).Nodup
  delivered_published : deliveredIds session.log ⊆ publishedIds session.log
  pending_accepted : ∀ item ∈ session.model.pending, .accepted item ∈ session.log
  pending_nodup : (callIds session.model.pending).Nodup
  pending_unpublished : ∀ item ∈ session.model.pending,
    item.call.callId ∉ publishedIds session.log
  passive_published : ∀ receipt ∈ session.passive, .published receipt ∈ session.log
  passive_undelivered : ∀ receipt ∈ session.passive, receipt.callId ∉ deliveredIds session.log
  sound : Justified (Sound setting) session.log

theorem accounted_start : Accounted setting {} where
  wire := rfl
  limit := Nat.zero_le _
  counted := le_rfl
  sends := le_rfl
  tokens := .inl le_rfl
  accepted_nodup := List.nodup_nil
  accepted_seen := fun _ hmem => hmem
  published_nodup := List.nodup_nil
  published_accepted := fun _ hmem => hmem
  delivered_nodup := List.nodup_nil
  delivered_published := fun _ hmem => hmem
  pending_accepted := by simp
  pending_nodup := List.nodup_nil
  pending_unpublished := by simp
  passive_published := by simp
  passive_undelivered := by simp
  sound := justified_nil

/-- The state after a request. -/
def Session.requested (session : Session) (requested : Requested) : Session :=
  { session with
    model := requested.model, wire := requested.wire, log := session.log ++ requested.events }

theorem Accounted.request (h : Accounted setting session) {requested : Requested}
    (heffect : RequestEffect setting session.log session.model requested) :
    Accounted setting (session.requested requested) := by
  obtain ⟨calls, haccepted, hevents, hfresh, hpending⟩ := heffect.calls
  have hunseen : ∀ callId ∈ callIds calls, callId ∉ acceptedIds session.log :=
    fun callId hmem hold => hfresh.unseen callId hmem (h.accepted_seen hold)
  constructor
  case wire => exact heffect.wire
  case limit => exact heffect.limit.trans (max_le h.limit le_rfl)
  case counted =>
    have hold := h.counted
    have hnew := heffect.counted
    simp only [Session.requested, dispatches_append]
    omega
  case sends =>
    have hold := h.sends
    have hnew := heffect.sends
    simp only [Session.requested, dispatches_append, sends_append]
    omega
  case tokens => exact heffect.tokens h.tokens
  case accepted_nodup =>
    simp only [Session.requested, acceptedIds_append, haccepted]
    refine List.Nodup.append h.accepted_nodup hfresh.nodup ?_
    intro callId hold hnew
    exact hunseen callId hnew hold
  case accepted_seen =>
    simp only [Session.requested, acceptedIds_append, haccepted]
    intro callId hmem
    rcases List.mem_append.mp hmem with hold | hnew
    · exact hfresh.seen_subset (h.accepted_seen hold)
    · exact hfresh.seen callId hnew
  case published_nodup =>
    simp only [Session.requested, publishedIds_append, heffect.unpublished, List.append_nil]
    exact h.published_nodup
  case published_accepted =>
    simp only [Session.requested, publishedIds_append, heffect.unpublished, List.append_nil,
      acceptedIds_append]
    exact fun callId hmem => List.mem_append_left _ (h.published_accepted hmem)
  case delivered_nodup =>
    simp only [Session.requested, deliveredIds_append, heffect.undelivered, List.append_nil]
    exact h.delivered_nodup
  case delivered_published =>
    simp only [Session.requested, deliveredIds_append, heffect.undelivered, List.append_nil,
      publishedIds_append, heffect.unpublished]
    exact h.delivered_published
  case pending_accepted =>
    intro item hitem
    apply List.mem_append.mpr
    rcases hpending with hcalls | ⟨-, hsame⟩
    · exact .inr (hevents item (hcalls ▸ hitem))
    · exact .inl (h.pending_accepted item (hsame ▸ hitem))
  case pending_nodup =>
    rcases hpending with hcalls | ⟨-, hsame⟩
    · exact hcalls ▸ hfresh.nodup
    · exact hsame ▸ h.pending_nodup
  case pending_unpublished =>
    intro item hitem
    simp only [Session.requested, publishedIds_append, heffect.unpublished, List.append_nil]
    rcases hpending with hcalls | ⟨-, hsame⟩
    · intro hmem
      have hcall : item.call.callId ∈ callIds calls := List.mem_map_of_mem (hcalls ▸ hitem)
      exact hunseen _ hcall (h.published_accepted hmem)
    · exact h.pending_unpublished item (hsame ▸ hitem)
  case passive_published =>
    exact fun receipt hmem => List.mem_append_left _ (h.passive_published receipt hmem)
  case passive_undelivered =>
    intro receipt hmem
    simp only [Session.requested, deliveredIds_append, heffect.undelivered, List.append_nil]
    exact h.passive_undelivered receipt hmem
  case sound => exact justified_append.mpr ⟨h.sound, heffect.sound h.tokens⟩

/-! ### Receipts -/

section Published

variable (receipts : List CompletedReceipt)

/-- The events of published receipts tell of nothing else. -/
@[simp] theorem publishedIds_published :
    publishedIds (receipts.map .published) = receipts.map CompletedReceipt.callId := by
  simp [publishedIds, List.filterMap_map, Function.comp_def, Event.publishedId?]

@[simp] theorem acceptedIds_published : acceptedIds (receipts.map .published) = [] := by
  simp [acceptedIds, List.filterMap_map, Function.comp_def, Event.acceptedId?]

@[simp] theorem deliveredIds_published : deliveredIds (receipts.map .published) = [] := by
  simp [deliveredIds, List.filterMap_map, Function.comp_def, Event.deliveredId?]

@[simp] theorem dispatches_published : dispatches (receipts.map .published) = 0 := by
  simp [dispatches, Event.isDispatch]

@[simp] theorem sends_published : Runtime.sends (receipts.map .published) = 0 := by
  simp [Runtime.sends, Event.isSend]

@[simp] theorem reportedTokens_published : reportedTokens (receipts.map .published) = 0 := by
  simp [reportedTokens, Function.comp_def, Event.tokens]

@[simp] theorem accounting_published :
    (receipts.map Event.published).filter Event.isAccounting = [] := by
  simp [List.filter_eq_nil_iff, Event.isAccounting]

end Published

/-- Events that report no tokens keep them kept. -/
theorem TokensKept.append {events : List Event} {totalTokens : ℕ}
    (h : TokensKept setting log totalTokens) (hevents : reportedTokens events = 0) :
    TokensKept setting (log ++ events) totalTokens := by
  rcases h with htokens | hexhausted
  · left
    rw [reportedTokens_append, hevents]
    omega
  · exact .inr (hexhausted.append events)

theorem Accounted.published {session session' : Session} (h : Accounted setting session)
    {receipts : List CompletedReceipt} (hwire : session'.wire = session.wire)
    (hmodel : session'.model = { session.model with pending := [] })
    (hpassive : session'.passive = receipts)
    (hnodup : (receipts.map CompletedReceipt.callId).Nodup)
    (hcompleted : Completed receipts session.model.pending)
    (hlog : session'.log = session.log ++ receipts.map .published) :
    Accounted setting session' := by
  have hitem : ∀ callId ∈ receipts.map CompletedReceipt.callId,
      callId ∉ publishedIds session.log ∧ callId ∈ acceptedIds session.log := by
    intro callId hmem
    obtain ⟨receipt, hreceipt, rfl⟩ := List.mem_map.mp hmem
    obtain ⟨item, hpending, hid, -, -⟩ := hcompleted.exists_completes hreceipt
    rw [hid]
    refine ⟨h.pending_unpublished item hpending, ?_⟩
    exact List.mem_filterMap.mpr ⟨_, h.pending_accepted item hpending, rfl⟩
  constructor
  case wire => rw [hwire, h.wire]
  case limit => rw [hmodel]; exact h.limit
  case counted =>
    rw [hlog, hmodel, dispatches_append, dispatches_published]
    exact h.counted
  case sends =>
    rw [hlog, dispatches_append, dispatches_published, sends_append, sends_published]
    exact h.sends
  case tokens =>
    rw [hlog, hmodel]
    exact h.tokens.append (reportedTokens_published receipts)
  case accepted_nodup =>
    rw [hlog, acceptedIds_append, acceptedIds_published, List.append_nil]
    exact h.accepted_nodup
  case accepted_seen =>
    rw [hlog, hmodel, acceptedIds_append, acceptedIds_published, List.append_nil]
    exact h.accepted_seen
  case published_nodup =>
    rw [hlog, publishedIds_append, publishedIds_published]
    refine List.Nodup.append h.published_nodup hnodup ?_
    intro callId hold hnew
    exact (hitem callId hnew).1 hold
  case published_accepted =>
    rw [hlog, publishedIds_append, publishedIds_published, acceptedIds_append,
      acceptedIds_published, List.append_nil]
    intro callId hmem
    rcases List.mem_append.mp hmem with hold | hnew
    · exact h.published_accepted hold
    · exact (hitem callId hnew).2
  case delivered_nodup =>
    rw [hlog, deliveredIds_append, deliveredIds_published, List.append_nil]
    exact h.delivered_nodup
  case delivered_published =>
    rw [hlog, deliveredIds_append, deliveredIds_published, List.append_nil, publishedIds_append]
    exact fun callId hmem => List.mem_append_left _ (h.delivered_published hmem)
  case pending_accepted => rw [hmodel]; simp
  case pending_nodup => rw [hmodel]; exact List.nodup_nil
  case pending_unpublished => rw [hmodel]; simp
  case passive_published =>
    rw [hpassive, hlog]
    exact fun receipt hmem => List.mem_append_right _ (List.mem_map_of_mem hmem)
  case passive_undelivered =>
    rw [hpassive, hlog, deliveredIds_append, deliveredIds_published, List.append_nil]
    intro receipt hmem hdelivered
    exact (hitem _ (List.mem_map_of_mem hmem)).1 (h.delivered_published hdelivered)
  case sound =>
    rw [hlog]
    refine justified_append.mpr ⟨h.sound, Justified.of_forall fun before event hmem => ?_⟩
    obtain ⟨receipt, hreceipt, rfl⟩ := List.mem_map.mp hmem
    obtain ⟨item, hpending, hcompletes⟩ := hcompleted.exists_completes hreceipt
    exact ⟨item, List.mem_append_left _ (h.pending_accepted item hpending), hcompletes⟩

/-- The state after an output was delivered. -/
def Session.delivered (session : Session) (receipt : CompletedReceipt) (context : ToolContext)
    (arguments : String) : Session :=
  { session with
    passive := session.passive.filter fun other => other.callId ≠ receipt.callId
    log := session.log ++ [.delivered context arguments receipt.outputJson] }

theorem Accounted.delivered (h : Accounted setting session) {context : ToolContext}
    {arguments : String} (hmem : receipt ∈ session.passive)
    (hanswers : receipt.Answers context arguments) :
    Accounted setting (session.delivered receipt context arguments) := by
  have hid : context.toolCallId = receipt.callId := hanswers.1
  have hdelivered : deliveredIds (session.delivered receipt context arguments).log
      = deliveredIds session.log ++ [receipt.callId] := by
    unfold Session.delivered
    rw [deliveredIds_append, ← hid]
    rfl
  have hpublished : publishedIds (session.delivered receipt context arguments).log
      = publishedIds session.log := by
    unfold Session.delivered
    rw [publishedIds_append]
    exact List.append_nil _
  have haccepted : acceptedIds (session.delivered receipt context arguments).log
      = acceptedIds session.log := by
    unfold Session.delivered
    rw [acceptedIds_append]
    exact List.append_nil _
  constructor
  case wire => exact h.wire
  case limit => exact h.limit
  case counted =>
    simp only [Session.delivered, dispatches_append]
    exact h.counted
  case sends =>
    simp only [Session.delivered, dispatches_append, sends_append]
    exact h.sends
  case tokens => exact h.tokens.append rfl
  case accepted_nodup => rw [haccepted]; exact h.accepted_nodup
  case accepted_seen => rw [haccepted]; exact h.accepted_seen
  case published_nodup => rw [hpublished]; exact h.published_nodup
  case published_accepted => rw [hpublished, haccepted]; exact h.published_accepted
  case delivered_nodup =>
    rw [hdelivered]
    refine List.Nodup.append h.delivered_nodup (List.nodup_singleton _) ?_
    intro callId hold hnew
    rw [List.mem_singleton] at hnew
    exact h.passive_undelivered receipt hmem (hnew ▸ hold)
  case delivered_published =>
    rw [hdelivered, hpublished]
    intro callId hcall
    rcases List.mem_append.mp hcall with hold | hnew
    · exact h.delivered_published hold
    · rw [List.mem_singleton] at hnew
      rw [hnew]
      exact List.mem_filterMap.mpr ⟨_, h.passive_published receipt hmem, rfl⟩
  case pending_accepted =>
    exact fun item hitem => List.mem_append_left _ (h.pending_accepted item hitem)
  case pending_nodup => exact h.pending_nodup
  case pending_unpublished => rw [hpublished]; exact h.pending_unpublished
  case passive_published =>
    intro other hother
    exact List.mem_append_left _ (h.passive_published other (List.mem_filter.mp hother).1)
  case passive_undelivered =>
    rw [hdelivered]
    intro other hother hcall
    obtain ⟨hkept, hne⟩ := List.mem_filter.mp hother
    rcases List.mem_append.mp hcall with hold | hnew
    · exact h.passive_undelivered other hkept hold
    · simp only [List.mem_singleton] at hnew
      simp [hnew] at hne
  case sound =>
    refine justified_append.mpr ⟨h.sound, Justified.of_forall fun before event hevent => ?_⟩
    rw [List.mem_singleton] at hevent
    rw [hevent]
    exact ⟨receipt, List.mem_append_left _ (h.passive_published receipt hmem), hanswers, rfl⟩

/-! ### Every run -/

theorem Accounted.kept {session' : Session} (h : Accounted setting session)
    (hsame : SameCalls session session') (hlog : session'.log = session.log) :
    Accounted setting session' := by
  obtain ⟨hmodel, hwire, hpassive⟩ := hsame
  constructor
  case wire => rw [hwire]; exact h.wire
  case limit => rw [hmodel]; exact h.limit
  case counted => rw [hlog, hmodel]; exact h.counted
  case sends => rw [hlog]; exact h.sends
  case tokens => rw [hlog, hmodel]; exact h.tokens
  case accepted_nodup => rw [hlog]; exact h.accepted_nodup
  case accepted_seen => rw [hlog, hmodel]; exact h.accepted_seen
  case published_nodup => rw [hlog]; exact h.published_nodup
  case published_accepted => rw [hlog]; exact h.published_accepted
  case delivered_nodup => rw [hlog]; exact h.delivered_nodup
  case delivered_published => rw [hlog]; exact h.delivered_published
  case pending_accepted => rw [hlog, hmodel]; exact h.pending_accepted
  case pending_nodup => rw [hmodel]; exact h.pending_nodup
  case pending_unpublished => rw [hlog, hmodel]; exact h.pending_unpublished
  case passive_published => rw [hlog, hpassive]; exact h.passive_published
  case passive_undelivered => rw [hlog, hpassive]; exact h.passive_undelivered
  case sound => rw [hlog]; exact h.sound

/-- Every step keeps what holds, and records what it reserves. -/
theorem accounted_step (session : Session) (action : Action) (h : Accounted setting session) :
    Accounted setting ((invocation setting).next session action)
      ∧ RecordedOnce ((invocation setting).out session action) := by
  cases action with
  | request asked call =>
      have heffect := request_effect (@request_cases setting session.log session.model asked call)
      rw [← h.wire] at heffect
      exact ⟨h.request heffect, heffect.recorded⟩
  | invoke context arguments =>
      cases hinvoke : session.passive.invoke context arguments with
      | error =>
          have hnext : (invocation setting).step session (.invoke context arguments)
              = ({ session with log := session.log ++ [] }, []) := by
            simp only [invocation, happen, hinvoke]
          unfold Machine.next Machine.out
          rw [hnext]
          exact ⟨h.kept ⟨rfl, rfl, rfl⟩ (List.append_nil _), .inl rfl⟩
      | ok found =>
          obtain ⟨receipt, passive⟩ := found
          obtain ⟨hmem, hanswers, rfl⟩ := PassiveResults.invoke_ok hinvoke
          have hnext : (invocation setting).step session (.invoke context arguments)
              = (session.delivered receipt context arguments,
                [.delivered context arguments receipt.outputJson]) := by
            simp only [invocation, happen, hinvoke, Session.delivered]
          unfold Machine.next Machine.out
          rw [hnext]
          exact ⟨h.delivered hmem hanswers, .inl rfl⟩
  | turn turn =>
      have hcases := takeTurn_cases setting session turn
      have hnext : (invocation setting).step session (.turn turn)
          = ({ (takeTurn setting session turn).2.1 with
                log := session.log ++ (takeTurn setting session turn).2.2 },
              (takeTurn setting session turn).2.2) := rfl
      unfold Machine.next Machine.out
      rw [hnext]
      generalize (takeTurn setting session turn).2 = taken at hcases ⊢
      cases hcases with
      | kept session' hsame =>
          exact ⟨h.kept ⟨hsame.model, hsame.wire, hsame.passive⟩ (List.append_nil _), .inl rfl⟩
      | published session' receipts hwire hmodel hempty hpassive hnodup hcompleted =>
          refine ⟨h.published hwire hmodel hpassive hnodup hcompleted rfl, .inl ?_⟩
          exact accounting_published receipts

theorem accounted_invariant (setting : Setting) :
    (invocation setting).Invariant (Accounted setting) :=
  fun session action h => (accounted_step session action h).1

/-- A published receipt is that of an accepted call. -/
theorem accepted_of_published (h : Justified (Sound setting) log)
    (hmem : .published receipt ∈ log) : ∃ item, .accepted item ∈ log ∧ receipt.Completes item := by
  obtain ⟨before, after, hlog⟩ := List.append_of_mem hmem
  obtain ⟨item, haccepted, hcompletes⟩ := h before _ after hlog
  refine ⟨item, ?_, hcompletes⟩
  rw [hlog]
  exact List.mem_append_left _ haccepted

/-- The requests, the calls and the receipts of any run of an invocation are accounted for. -/
theorem request_accounting_complete (setting : Setting) (actions : List Action) :
    let log := ((invocation setting).run {} actions).log
    (∀ before number maxTokens timeout after,
        log = before ++ .dispatched number maxTokens timeout :: after →
        (setting.accounting ≠ none → ∃ earlier reservation,
            before = earlier ++ [.reserved reservation] ∧ maxTokens ≤ reservation.tokenAllowance)
          ∧ maxTokens ≤ setting.configuration.maxTotalTokens - reportedTokens before)
      ∧ (∀ events ∈ (invocation setting).trace {} actions, RecordedOnce events)
      ∧ dispatches log ≤ (min setting.configuration.maxRequests setting.maxSteps).toNat
      ∧ sends log ≤ dispatches log
      ∧ (acceptedIds log).Nodup
      ∧ (deliveredIds log).Nodup
      ∧ ∀ before context arguments output after,
        log = before ++ .delivered context arguments output :: after →
        ∃ receipt item, .accepted item ∈ before ∧ receipt.Completes item
          ∧ .published receipt ∈ before ∧ receipt.Answers context arguments
          ∧ output = receipt.outputJson := by
  have hstart : Accounted setting {} := accounted_start
  have h := (accounted_invariant setting).run hstart actions
  have hrecorded := (accounted_invariant setting).trace
    (fun session action h => (accounted_step session action h).2) hstart actions
  refine ⟨?_, hrecorded, h.counted.trans h.limit, h.sends, h.accepted_nodup, h.delivered_nodup, ?_⟩
  · intro before number maxTokens timeout after hlog
    exact h.sound before _ after hlog
  · intro before context arguments output after hlog
    obtain ⟨receipt, hpublished, hanswers, houtput⟩ := h.sound before _ after hlog
    have hsound := h.sound
    rw [hlog, justified_append] at hsound
    obtain ⟨item, haccepted, hcompletes⟩ := accepted_of_published hsound.1 hpublished
    exact ⟨receipt, item, haccepted, hcompletes, hpublished, hanswers, houtput⟩

/-! ### An invocation with a limit -/

/-- Two requests, and a thousand tokens for them. -/
def limitedSetting : Setting where
  configuration := {}
  maxSteps := 2
  toolNames := []
  terminalNames := []
  strictToolNames := []
  codec := ⟨fun _ => "null", fun _ => .ok none, fun _ => .ok none⟩
  accounting := some (Accounting.ofLimit "attempt_1" 1000 0)

/-- A request that is sent and never answered. -/
def unanswered : Action :=
  .request { systemInstructions := none, input := .null, settings := .null, tools := []
             redactor := {} }
    { actions := [.send], result := .error contractError, redactor := {} }

theorem request_accounting_limited :
    let log := ((invocation limitedSetting).run {} [unanswered, unanswered, unanswered]).log
    log.map Event.isAccounting = [true, false, false, true, true, false, false, true]
      ∧ dispatches log = 2 ∧ sends log ≤ dispatches log
      ∧ ∀ events ∈ (invocation limitedSetting).trace {} [unanswered, unanswered, unanswered],
        RecordedOnce events := by
  obtain ⟨-, hrecorded, -, hsends, -⟩ :=
    request_accounting_complete limitedSetting [unanswered, unanswered, unanswered]
  exact ⟨by decide +kernel, by decide +kernel, hsends, hrecorded⟩

end AgentFleet.Runtime
