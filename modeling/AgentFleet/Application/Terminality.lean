import AgentFleet.Application.Dispatch

/-! # Terminal intents

`complete_intent` and `resolve_approval` look at an intent's status before they write a
terminal one; `deny_intent` does not.  A call whose broker answered DENY on an intent that it
had read as RESERVED or PENDING therefore denies the intent even while another call executes
it, and even after that call has completed it.

* `DenyAllowed` is the condition on a step: no denial meets an intent that is EXECUTED or
  whose dispatch is under way.
* `terminality` says that terminal intents stay terminal in every run whose steps meet it.
* `terminality_fails` exhibits both ways in which they do not otherwise. -/

namespace AgentFleet

open Relational Transaction Transition

variable {svc : Services} {action : GatewayAction}

/-! ### Dispatches under way -/

/-- The dispatch of the intent is under way. -/
def Gateway.Dispatching (g : Gateway) (intentId : String) : Prop :=
  ∃ state ∈ g.calls, state.dispatching? = some intentId
deriving Decidable

/-- The intent has a row with one of the statuses. -/
def Records.IntentIn (r : Records) (intentId : String) (statuses : List IntentStatus) : Prop :=
  ∃ a ∈ r.toolIntents, a.intent.intentId = intentId ∧ a.status ∈ statuses
deriving Decidable

/-- An intent whose dispatch is under way is RESERVED, or was completed meanwhile. -/
def DispatchOpen (g : Gateway) : Prop :=
  ∀ intentId, g.Dispatching intentId →
    g.store.records.IntentIn intentId [.reserved, .executed]

/-- The intent that a call is about to deny. -/
def CallState.denying? : CallState → Option String
  | .denying ctx _ => some ctx.intent.intentId
  | _ => none

/-- The intent on which a step performs `deny_intent`. -/
def Gateway.denies? (g : Gateway) : GatewayAction → Option String
  | .advance call _ => g.calls[call]?.bind CallState.denying?
  | _ => none

/-- A step that performs `deny_intent` performs it on an intent that is not EXECUTED and whose
dispatch is not under way. -/
def DenyAllowed (g : Gateway) (action : GatewayAction) : Prop :=
  ∀ intentId ∈ g.denies? action,
    ¬ g.store.records.IntentIn intentId [.executed] ∧ ¬ g.Dispatching intentId
deriving Decidable

/-- What terminality allows between an earlier and a later row of an intent. -/
structure TerminalKept (a b : StoredToolIntent) : Prop where
  executed : a.status = .executed → b = a
  denied : a.status = .denied → b.status = .denied

theorem TerminalKept.refl (a : StoredToolIntent) : TerminalKept a a := ⟨fun _ => rfl, id⟩

theorem TerminalKept.trans (a b c : StoredToolIntent) (h : TerminalKept a b)
    (h' : TerminalKept b c) : TerminalKept a c := by
  refine ⟨fun ha => ?_, fun ha => h'.denied (h.denied ha)⟩
  have hb : b = a := h.executed ha
  exact (h'.executed (hb ▸ ha)).trans hb

/-- A run keeps terminal intents: the property of records at two moments. -/
def Terminal (r r' : Records) : Prop :=
  ∀ intentId a, r.intent? intentId = some a →
    ∃ b, r'.intent? intentId = some b ∧ TerminalKept a b

/-! ### Which position performs which write -/

variable {state : CallState} {amb : Ambient} {intentId : String} {r r' : Records}
  {a : StoredToolIntent} {op : StoreOp} {g g' : Gateway} {seen : Observation}

theorem deny_position (performs : state.op? svc amb = some (.denyIntent intentId)) :
    state.denying? = some intentId := by
  cases state with
  | denying =>
      cases performs
      rfl
  | _ => cases performs

theorem complete_position {result : JsonObject}
    (performs : state.op? svc amb = some (.completeIntent intentId result)) :
    state.dispatching? = some intentId := by
  cases state with
  | completing =>
      cases performs
      rfl
  | _ => cases performs

theorem EnvironmentOp.ne_deny (op : EnvironmentOp) (intentId : String) :
    op.toStoreOp ≠ .denyIntent intentId := by
  cases op <;> exact StoreOp.noConfusion

theorem EnvironmentOp.ne_complete (op : EnvironmentOp) (intentId : String)
    (result : JsonObject) : op.toStoreOp ≠ .completeIntent intentId result := by
  cases op <;> exact StoreOp.noConfusion

/-! ### Dispatches stay open -/

theorem Records.IntentIn.unique {statuses : List IntentStatus} (h : r.IntentIn intentId statuses)
    (ha : a ∈ r.toolIntents) (hid : a.intent.intentId = intentId) : a.status ∈ statuses := by
  obtain ⟨b, hb, hbid, hstatus⟩ := h
  rwa [Table.eq_of_clash ha hb (.inl (hid.trans hbid.symm))]

/-- What one transaction can do to a row, in terms of the statuses it meets. -/
theorem Effect.intent_move (h : Effect svc amb op r r') (ha : a ∈ r.toolIntents) :
    ∃ b ∈ r'.toolIntents, IntentMove op a b := by
  obtain ⟨b, hb, hab⟩ := h.evolves.intents a ha
  refine ⟨b, hb, ?_⟩
  rcases h.intent_origin hb with ⟨c, hc, hmove⟩ | ⟨-, -, hnew⟩
  · have hca : c = a := Table.eq_of_clash hc ha
      (.inl ((congrArg ToolIntent.intentId hmove.intent_eq).symm.trans
        (congrArg ToolIntent.intentId hab.intent)))
    exact hca ▸ hmove
  · exact absurd (congrArg ToolIntent.intentId hab.intent).symm (hnew a ha)

/-- A transaction that may be performed keeps terminal rows. -/
theorem IntentMove.terminal {b : StoredToolIntent} (h : IntentMove op a b)
    (hdeny : op = .denyIntent a.intent.intentId → a.status ≠ .executed)
    (hcomplete : ∀ result, op = .completeIntent a.intent.intentId result → a.status ≠ .denied) :
    TerminalKept a b := by
  cases h with
  | same heq => exact heq ▸ .refl _
  | settled _ pending _ => constructor <;> intro hs <;> cases pending.symm.trans hs
  | completed _ result op_eq open_ =>
      exact ⟨fun hs => absurd hs open_, fun hs => absurd hs (hcomplete result op_eq)⟩
  | denied _ op_eq status => exact ⟨fun hs => absurd hs (hdeny op_eq), fun _ => status⟩

/-- The two facts about a step on which terminality rests: no denial meets an EXECUTED intent
or an open dispatch, and a completion comes from an open dispatch. -/
structure Permitted (g : Gateway) (op : StoreOp) : Prop where
  deny : ∀ intentId, op = .denyIntent intentId →
    ¬ g.store.records.IntentIn intentId [.executed] ∧ ¬ g.Dispatching intentId
  complete : ∀ intentId result, op = .completeIntent intentId result → g.Dispatching intentId

/-- Every transaction of an allowed step is permitted. -/
theorem permitted_of_allowed {call : ℕ} (allowed : DenyAllowed g (.advance call amb))
    (position : g.calls[call]? = some state) (performs : state.op? svc amb = some op) :
    Permitted g op where
  deny := by
    rintro intentId rfl
    refine allowed intentId ?_
    rw [Gateway.denies?, position]
    exact deny_position performs
  complete := by
    rintro intentId result rfl
    exact ⟨state, List.mem_of_getElem? position, complete_position performs⟩

theorem EnvironmentOp.permitted (g : Gateway) (op : EnvironmentOp) :
    Permitted g op.toStoreOp where
  deny intentId h := absurd h (op.ne_deny intentId)
  complete intentId result h := absurd h (op.ne_complete intentId result)

/-- A permitted transaction moves every row as terminality allows, and no open dispatch's row
to DENIED. -/
theorem Permitted.moves (hopen : DispatchOpen g) (h : Permitted g op)
    (effect : Effect svc amb op g.store.records r') (ha : a ∈ g.store.records.toolIntents) :
    ∃ b ∈ r'.toolIntents, b.intent = a.intent ∧ TerminalKept a b
      ∧ (g.Dispatching a.intent.intentId → b.status ∈ [.reserved, .executed]) := by
  obtain ⟨b, hb, hmove⟩ := effect.intent_move ha
  have hkept : TerminalKept a b := by
    refine hmove.terminal (fun hop hs => ?_) (fun result hop hs => ?_)
    · exact (h.deny _ hop).1 ⟨a, ha, rfl, by simp [hs]⟩
    · have hin := (hopen _ (h.complete _ result hop)).unique ha rfl
      simp [hs] at hin
  refine ⟨b, hb, hmove.intent_eq, hkept, fun hdispatching => ?_⟩
  have hin := (hopen _ hdispatching).unique ha rfl
  cases hmove with
  | same heq => exact heq ▸ hin
  | settled _ pending => simp [pending] at hin
  | completed _ _ _ _ status => simp [status]
  | denied _ op_eq => exact absurd hdispatching (h.deny _ op_eq).2

/-- An intent whose dispatch is under way after a step was under way before it, or was won. -/
theorem dispatching_of_step (hs : GatewayStep svc g action g' seen) (h : g'.Dispatching intentId) :
    g.Dispatching intentId
      ∨ ∃ intentHash, Dispatched g.store.records intentId intentHash g'.store.records := by
  obtain ⟨x, hx, hdispatching⟩ := h
  cases hs with
  | idle | environment op amb => exact .inl ⟨x, hx, hdispatching⟩
  | entered =>
      rcases List.mem_append.mp hx with hx | hx
      · exact .inl ⟨x, hx, hdispatching⟩
      · rw [List.mem_singleton.mp hx] at hdispatching
        cases hdispatching
  | moved action call state state' position move =>
      rcases mem_setCall hx with hx | rfl
      · exact .inl ⟨x, hx, hdispatching⟩
      · cases move with
        | finished =>
            exact .inl ⟨_, List.mem_of_getElem? position, hdispatching⟩
        | _ => cases hdispatching
  | started call amb ctx position =>
      rcases mem_setCall hx with hx | rfl
      · exact .inl ⟨x, hx, hdispatching⟩
      · exact .inl ⟨_, List.mem_of_getElem? position, hdispatching⟩
  | transacted call state op amb result store position performs ran =>
      rcases mem_setCall hx with hx | rfl
      · exact .inl ⟨x, hx, hdispatching⟩
      · rcases resume_dispatching performs ran hdispatching with
          ⟨-, hsame⟩ | ⟨ctx, -, -, rfl, hd⟩
        · exact .inl ⟨state, List.mem_of_getElem? position, hsame⟩
        · exact .inr ⟨_, hd⟩

/-- An allowed step moves every row as terminality allows. -/
theorem moves_of_step (hopen : DispatchOpen g) (allowed : DenyAllowed g action)
    (hs : GatewayStep svc g action g' seen) (ha : a ∈ g.store.records.toolIntents) :
    ∃ b ∈ g'.store.records.toolIntents, b.intent = a.intent ∧ TerminalKept a b
      ∧ (g.Dispatching a.intent.intentId → b.status ∈ [.reserved, .executed]) := by
  have same : ∃ b ∈ g.store.records.toolIntents, b.intent = a.intent ∧ TerminalKept a b
      ∧ (g.Dispatching a.intent.intentId → b.status ∈ [.reserved, .executed]) :=
    ⟨a, ha, rfl, .refl a, fun h => (hopen _ h).unique ha rfl⟩
  cases hs with
  | transacted call state op amb result store position performs ran =>
      exact (permitted_of_allowed allowed position performs).moves hopen (effect_of_body ran) ha
  | environment op amb =>
      exact (op.permitted g).moves hopen (effect_of_step svc g.store ⟨op.toStoreOp, amb⟩) ha
  | _ => exact same

/-- An allowed step keeps open dispatches open. -/
theorem dispatchOpen_step (hopen : DispatchOpen g) (allowed : DenyAllowed g action)
    (hs : GatewayStep svc g action g' seen) : DispatchOpen g' := by
  intro intentId h
  rcases dispatching_of_step hs h with hold | ⟨intentHash, hd⟩
  · obtain ⟨a, ha, rfl, -⟩ := hopen intentId hold
    obtain ⟨b, hb, hintent, -, hstatus⟩ := moves_of_step hopen allowed hs ha
    exact ⟨b, hb, by rw [hintent], hstatus hold⟩
  · obtain ⟨stored, hstored, -, hreserved, -⟩ := hd.stored
    obtain ⟨hmem, hid⟩ := Records.intent?_mem hstored
    obtain ⟨_, _, -, hrecords⟩ := hd.claimed
    exact ⟨stored, by rw [hrecords]; exact hmem, hid, by simp [hreserved]⟩

/-- An allowed step keeps terminal intents. -/
theorem terminal_step (hopen : DispatchOpen g) (allowed : DenyAllowed g action)
    (hs : GatewayStep svc g action g' seen) : Terminal g.store.records g'.store.records := by
  intro intentId a ha
  obtain ⟨hmem, rfl⟩ := Records.intent?_mem ha
  obtain ⟨b, hb, hintent, hkept, -⟩ := moves_of_step hopen allowed hs hmem
  exact ⟨b, Records.intent?_eq_some hb (by rw [hintent]), hkept⟩

theorem Terminal.refl (r : Records) : Terminal r r := fun _ a ha => ⟨a, ha, .refl a⟩

theorem Terminal.trans {r'' : Records} (h : Terminal r r') (h' : Terminal r' r'') :
    Terminal r r'' := by
  intro intentId a ha
  obtain ⟨b, hb, hab⟩ := h intentId a ha
  obtain ⟨c, hc, hbc⟩ := h' intentId b hb
  exact ⟨c, hc, hab.trans _ _ _ hbc⟩

theorem dispatchOpen_start (store : Store) : DispatchOpen (Gateway.start store) := by
  rintro intentId ⟨state, hmem, -⟩
  cases hmem

/-- In a run whose denials meet no executed intent and no open dispatch, an EXECUTED intent
keeps its status and its result and a DENIED one stays DENIED. -/
theorem terminality (svc : Services) (store : Store) (before after : List GatewayAction)
    (guarded : (gatewayMachine svc).Guarded DenyAllowed (Gateway.start store) (before ++ after)) :
    Terminal ((gatewayMachine svc).run (Gateway.start store) before).store.records
      ((gatewayMachine svc).run (Gateway.start store) (before ++ after)).store.records := by
  obtain ⟨hbefore, hafter⟩ := guarded.append
  have hstep : ∀ g action, DispatchOpen g → DenyAllowed g action →
      DispatchOpen ((gatewayMachine svc).next g action) :=
    fun g action hopen allowed => dispatchOpen_step hopen allowed (gateway_step svc g action)
  have hopen := hbefore.run hstep (dispatchOpen_start store)
  rw [Machine.run_append]
  exact hafter.rel (R := fun g g' => Terminal g.store.records g'.store.records) hstep
    (fun g => .refl _) (fun _ _ _ => .trans)
    (fun g action hopen allowed => terminal_step hopen allowed (gateway_step svc g action)) hopen

/-! ### A denial that meets a dispatch -/

/-- Call 0 reserves the intent, wins it and starts to execute it. -/
def startExecution : List GatewayAction :=
  [.enter (writeRequest "key_1") "intent_1", advanceCall 0 "evt_1", .decide 0 (decided .allow),
    advanceCall 0 "evt_1", advanceCall 0 "evt_1", advanceCall 0 "evt_1", advanceCall 0 "evt_1"]

/-- Call 1 reads the reserved intent and is answered DENY. -/
def decideDenial : List GatewayAction :=
  [.enter (writeRequest "key_1") "intent_2", advanceCall 1 "evt_1", .decide 1 (decided .deny),
    advanceCall 1 "evt_1"]

/-- Call 1 denies the intent. -/
def performDenial : List GatewayAction := [advanceCall 1 "evt_1"]

/-- Call 0 completes the intent. -/
def performCompletion : List GatewayAction := [.finish 0 (.ok []), advanceCall 0 "evt_1"]

/-- The intent denied under its execution. -/
def deniedEarly : List GatewayAction := startExecution ++ decideDenial ++ performDenial

/-- The intent completed before its denial. -/
def completedEarly : List GatewayAction := startExecution ++ decideDenial ++ performCompletion

/-- The status of the intent after the actions. -/
def statusAfter (actions : List GatewayAction) : Option IntentStatus :=
  ((afterActions actions).store.records.intent? "intent_1").map StoredToolIntent.status

theorem terminal_status (h : Terminal r r') {status : IntentStatus}
    (hstatus : status ∈ [IntentStatus.executed, .denied])
    (hr : (r.intent? intentId).map StoredToolIntent.status = some status) :
    (r'.intent? intentId).map StoredToolIntent.status = some status := by
  obtain ⟨a, ha, rfl⟩ := Option.map_eq_some_iff.mp hr
  obtain ⟨b, hb, hkept⟩ := h intentId a ha
  rw [hb, Option.map_some]
  rcases List.mem_pair.mp hstatus with hs | hs
  · rw [hkept.executed hs]
  · rw [hkept.denied hs, hs]

/-- Without the denial the executed intent stays executed. -/
theorem terminality_sample :
    (gatewayMachine sampleServices).Guarded DenyAllowed (Gateway.start sampleStore)
        (completedEarly ++ [.crash 1])
      ∧ statusAfter completedEarly = some .executed
      ∧ Terminal (afterActions completedEarly).store.records
          (afterActions (completedEarly ++ [.crash 1])).store.records := by
  have guarded : (gatewayMachine sampleServices).Guarded DenyAllowed (Gateway.start sampleStore)
      (completedEarly ++ [.crash 1]) := by decide
  exact ⟨guarded, by decide, terminality sampleServices sampleStore _ _ guarded⟩

/-- A denied intent becomes EXECUTED, when call 1 denies it under call 0's execution; and an
executed intent becomes DENIED, when call 1 denies it after call 0 has completed. -/
theorem terminality_fails :
    (statusAfter deniedEarly = some .denied
      ∧ statusAfter (deniedEarly ++ performCompletion) = some .executed
      ∧ ¬ Terminal (afterActions deniedEarly).store.records
          (afterActions (deniedEarly ++ performCompletion)).store.records)
    ∧ statusAfter completedEarly = some .executed
      ∧ statusAfter (completedEarly ++ performDenial) = some .denied
      ∧ ¬ Terminal (afterActions completedEarly).store.records
          (afterActions (completedEarly ++ performDenial)).store.records := by
  have hdenied : statusAfter deniedEarly = some .denied := by decide
  have hexecuted : statusAfter (deniedEarly ++ performCompletion) = some .executed := by decide
  have hexecuted' : statusAfter completedEarly = some .executed := by decide
  have hdenied' : statusAfter (completedEarly ++ performDenial) = some .denied := by decide
  refine ⟨⟨hdenied, hexecuted, fun h => ?_⟩, hexecuted', hdenied', fun h => ?_⟩
  · have hkept := terminal_status h (by simp) hdenied
    cases hexecuted.symm.trans hkept
  · have hkept := terminal_status h (by simp) hexecuted'
    cases hdenied'.symm.trans hkept

end AgentFleet
