/-
The log is the end of the chronicle.

The chronicle of a run is all that its requests have said, each event with the time
of the desk when its request was made (`World.chronicle`). Events are numbered in
the order of the chronicle, from one on and without a gap, and the log
(`LeverageModule::flush_events`) has the last of them, as many as it may hold: what
one request adds, `World.Chronicled` keeps, and so a run does.

The version of the allow list is another way to count: only the two requests of the
owner that change it say that it was changed (`Operation.Quiet` holds of everything
else), so it is how often the chronicle says so.
-/
import LeveredBasket.Proofs.Leverage.Atomicity
import LeveredBasket.Proofs.Leverage.Replay

set_option autoImplicit false

namespace LeveredBasket

open Lending (Bank MarketParams)

/-- Whether an event says that the allow list was changed. -/
def EventPayload.changesAllowList : EventPayload → Bool
  | allowListUpdated .. | anyBasketAllowedUpdated _ => true
  | moduleInitialized .. | issuanceModuleRegistered .. | moduleRemoved .. | collateralEntered ..
  | leverageIncreased _ | leverageDecreased _ | fullyDelevered .. | positionsSynced ..
  | issueHookBorrowed _ | redeemHookRepaid _ => false

/-- The events of a log: when each happened and what it was, and its number. -/
def EventLog.entries (l : EventLog) : List ((Instant × EventPayload) × Nat) :=
  l.events.map fun e => ((e.time, e.payload), e.id.toNat)

namespace Leverage

/-- **All that is said, and when**: what each request says is dated with the time of the desk. -/
def World.chronicle : List Request → World → List (Instant × EventPayload)
  | [], _ => []
  | r :: rest, w =>
    ((r.announces w).map fun p => (w.desk.clock, p)) ++ (r.after w).elim [] (chronicle rest)

/-- **The log is the end of this chronicle**, and the version of the allow list is how often the
chronicle says that it was changed. -/
structure World.Chronicled (chronicle : List (Instant × EventPayload)) (w : World) : Prop where
  log : w.desk.log.entries = latest w.desk.settings.maxEvents.toNat (chronicle.zipIdx 1)
  next : w.desk.log.nextId.toNat = chronicle.length + 1
  version : w.desk.allowList.version.toNat = chronicle.countP fun e => e.2.changesAllowList

/-- **The version counts what a request says of the allow list.** -/
def World.Versioned (w : World) (said : List EventPayload) (w' : World) : Prop :=
  w'.desk.allowList.version.toNat =
    w.desk.allowList.version.toNat + said.countP EventPayload.changesAllowList

/-- **The operation says nothing about the allow list.** -/
abbrev Operation.Quiet {α : Type} (x : Operation α) : Prop :=
  x.Leads (fun s => ∀ p ∈ s.events, p.changesAllowList = false) fun _ _ => True

end Leverage

/-! ## Logs -/

namespace EventLog

variable {l l' : EventLog} {time : Instant} {payloads : List EventPayload}

/-- Events are numbered on from where the log is. -/
theorem entries_push (h : payloads.foldlM (fun (l : EventLog) p => l.push? time p) l = some l') :
    l'.entries = l.entries ++ (payloads.map fun p => (time, p)).zipIdx l.nextId.toNat ∧
      l'.nextId.toNat = l.nextId.toNat + payloads.length := by
  induction payloads generalizing l with
  | nil =>
    obtain rfl := Option.some.inj h
    exact ⟨(List.append_nil _).symm, rfl⟩
  | cons p rest ih =>
    obtain ⟨l₁, hl₁, hrest⟩ := Option.bind_eq_some_iff.1 h
    obtain ⟨next, hnext, rfl⟩ := Option.map_eq_some_iff.1 hl₁
    have hnext : next.toNat = l.nextId.toNat + 1 := Word.ofNat?_eq_some.1 hnext
    obtain ⟨hentries, hid⟩ := ih hrest
    refine ⟨?_, ?_⟩
    · rw [hentries, EventLog.entries, EventLog.entries, List.map_append, List.append_assoc, hnext]
      rfl
    · rw [hid, hnext, List.length_cons]
      omega

/-- **A log keeps the latest events**, with their numbers. -/
theorem entries_append {limit : Nat} (h : l.append? limit time payloads = some l') :
    l'.entries =
        latest limit (l.entries ++ (payloads.map fun p => (time, p)).zipIdx l.nextId.toNat) ∧
      l'.nextId.toNat = l.nextId.toNat + payloads.length := by
  obtain ⟨l₁, hl₁, rfl⟩ := Option.map_eq_some_iff.1 h
  obtain ⟨hentries, hid⟩ := entries_push hl₁
  refine ⟨?_, hid⟩
  rw [← hentries, latest, EventLog.entries, EventLog.entries, EventLog.recent, List.length_map,
    List.map_drop]

/-- As long as there are numbers for them, events can be put in the log. -/
theorem exists_append {limit : Nat} (h : l.nextId.toNat + payloads.length < 1 <<< 64) :
    ∃ l', l.append? limit time payloads = some l' := by
  have hpush : ∃ l', payloads.foldlM (fun (l : EventLog) p => l.push? time p) l = some l' := by
    induction payloads generalizing l with
    | nil => exact ⟨l, rfl⟩
    | cons p rest ih =>
      rw [List.length_cons] at h
      cases hnext : l.nextId.succ? with
      | none =>
        have := Word.ofNat?_eq_none.1 hnext
        omega
      | some next =>
        have hid : next.toNat = l.nextId.toNat + 1 := Word.ofNat?_eq_some.1 hnext
        have hroom : next.toNat + rest.length < 1 <<< 64 := by omega
        obtain ⟨l', hl'⟩ := ih (l := ⟨l.events ++ [⟨l.nextId, time, p⟩], next⟩) hroom
        refine ⟨l', ?_⟩
        rw [List.foldlM_cons, push?, hnext, Option.map_some]
        exact hl'
  obtain ⟨l', hl'⟩ := hpush
  exact ⟨_, Option.map_eq_some_iff.2 ⟨l', hl', rfl⟩⟩

/-- And no longer than that. -/
theorem append_eq_none {limit : Nat} (h : 1 <<< 64 ≤ l.nextId.toNat + payloads.length) :
    l.append? limit time payloads = none := by
  cases happend : l.append? limit time payloads with
  | none => rfl
  | some l' =>
    have hid := (entries_append happend).2
    have hlt := l'.nextId.isLt
    omega

end EventLog

/-- A change of the allow list moves its version by one. -/
theorem AllowList.setAllowed?_version {l l' : AllowList} {basket : Address} {allowed : Bool}
    (h : l.setAllowed? basket allowed = some l') : l'.version.toNat = l.version.toNat + 1 := by
  obtain ⟨version, hversion, rfl⟩ := Option.map_eq_some_iff.1 h
  exact Word.ofNat?_eq_some.1 hversion

theorem AllowList.setAnyAllowed?_version {l l' : AllowList} {anyAllowed : Bool}
    (h : l.setAnyAllowed? anyAllowed = some l') : l'.version.toNat = l.version.toNat + 1 := by
  obtain ⟨version, hversion, rfl⟩ := Option.map_eq_some_iff.1 h
  exact Word.ofNat?_eq_some.1 hversion

namespace Leverage

/-! ## What operations say nothing about -/

namespace Operation

variable {α ε : Type} {payload : EventPayload}

/-- A call on the chain says nothing at all. -/
theorem quiet_onChain (refusal : ε → LeverageError) (x : Action Chain ε α) :
    Quiet (onChain refusal x) := by
  intro s hs
  rw [onChain, Action.ends_mapError, Action.ends_within]
  exact (Outcome.yields_self _).imp (fun _ _ _ => hs) fun _ _ _ => trivial

theorem quiet_compute (x : Except MathError α) : Quiet (compute x) :=
  .ofExcept fun _ _ _ _ => trivial

theorem quiet_require (p : Prop) [Decidable p] (e : LeverageError) :
    Quiet (Action.require p e) := .require p fun _ _ => trivial

theorem quiet_emit (h : payload.changesAllowList = false) : Quiet (emit payload) := by
  intro s hs p hp
  rcases List.mem_append.1 hp with hp | hp
  · exact hs p hp
  · rw [List.mem_singleton.1 hp]
    exact h

/-- To look something up is to say nothing. -/
theorem quiet_of_eq {x : Operation α} (hx : ∀ s, (x.run s).Yields fun _ s' => s' = s) :
    Quiet x := fun s hs => (hx s).yields fun _ _ h => h ▸ hs

/-- An operation that says one thing. -/
theorem quiet_of_said {x : Operation α} (hx : ∀ s, (x.run s).Yields fun _ s' =>
    ∃ p, s'.events = s.events ++ [p] ∧ p.changesAllowList = false) : Quiet x := by
  intro s hs
  refine (hx s).yields fun _ s' h => ?_
  obtain ⟨p, hevents, hp⟩ := h
  rw [hevents]
  exact quiet_emit hp s hs

theorem quiet_requireIssuer (caller basket : Address) : Quiet (requireIssuer caller basket) :=
  quiet_of_eq (requireIssuer_yields caller basket)

theorem quiet_recordOf (d : Desk) (basket : Address) : Quiet (recordOf d basket) :=
  quiet_of_eq fun s => (recordOf_yields d basket s).yields fun _ _ h => h.1

theorem quiet_enteredRecord (d : Desk) (caller basket : Address) :
    Quiet (enteredRecord d caller basket) :=
  quiet_of_eq fun s => (enteredRecord_yields d caller basket s).yields fun _ _ h => h.1

theorem quiet_supplyOf (basket : Address) : Quiet (supplyOf basket) :=
  quiet_of_eq (supplyOf_yields basket)

theorem quiet_balancesOf (r : Record) (basket : Address) : Quiet (balancesOf r basket) := by
  intro s hs
  rw [ends_balancesOf]
  exact ⟨fun _ _ => hs, fun _ _ => trivial⟩

theorem quiet_writeExternal (d : Desk) (basket component : Address) (unit : PositionUnit) :
    Quiet (writeExternal d basket component unit) :=
  .bind (quiet_onChain _ _) fun _ => .pure _

theorem quiet_writeDebt (d : Desk) (basket : Address) (r : Record) (borrow supply : Amount) :
    Quiet (writeDebt d basket r borrow supply) :=
  .bind (quiet_compute _) fun _ => .bind (quiet_writeExternal _ _ _ _) fun _ => .pure _

theorem quiet_writePositions (d : Desk) (basket : Address) (r : Record) (supply : Amount) :
    Quiet (writePositions d basket r supply) := by
  intro s hs
  refine (writePositions_yields d basket r supply s).yields fun _ s' h => ?_
  obtain ⟨-, -, hevents⟩ := Session.books_eq h.1
  rw [hevents]
  exact hs

theorem quiet_trade (p : TradePlan) (route : Bytes) : Quiet (trade p route) := by
  intro s hs
  refine (keepsBooks_trade p route s rfl).yields fun _ s' h => ?_
  obtain ⟨-, -, hevents⟩ := Session.books_eq h
  rw [hevents]
  exact hs

theorem quiet_chargeFee (d : Desk) (basket asset : Address) (amount : Amount) :
    Quiet (chargeFee d basket asset amount) := by
  intro s hs
  refine (keepsBooks_chargeFee d basket asset amount s rfl).yields fun _ s' h => ?_
  obtain ⟨-, -, hevents⟩ := Session.books_eq h
  rw [hevents]
  exact hs

/-! ## What each operation says -/

theorem quiet_enter (caller basket : Address) (d : Desk) : Quiet (enter caller basket d) := by
  refine quiet_of_said fun s => (enter_yields caller basket d s).yields ?_
  rintro _ s' ⟨r, notional, unit, -, -, -, hevents⟩
  exact ⟨_, hevents, rfl⟩

theorem quiet_enrol (caller basket : Address) (params : MarketParams) (d : Desk) :
    Quiet (enrol caller basket params d) := by
  refine quiet_of_said fun s => (enrol_yields caller basket params d s).yields ?_
  rintro _ s' ⟨b, m, issuer, -, -, -, hbooks⟩
  obtain ⟨-, -, hevents⟩ := Session.books_eq hbooks
  exact ⟨_, hevents, rfl⟩

theorem quiet_registerIssuer (caller basket issuer : Address) (d : Desk) :
    Quiet (registerIssuer caller basket issuer d) := by
  refine quiet_of_said fun s => (registerIssuer_yields caller basket issuer d s).yields ?_
  rintro _ s' ⟨r, -, hbooks⟩
  obtain ⟨-, -, hevents⟩ := Session.books_eq hbooks
  exact ⟨_, hevents, rfl⟩

theorem quiet_letGo (caller basket : Address) (d : Desk) : Quiet (letGo caller basket d) := by
  refine quiet_of_said fun s => (letGo_yields caller basket d s).yields ?_
  rintro withdrawn s' ⟨r, b, -, -, -, -, -, hevents⟩
  exact ⟨_, hevents, rfl⟩

theorem quiet_lever (caller basket : Address) (borrowUnits minReceiveUnits : Amount)
    (adapterName : String) (route : Bytes) (d : Desk) :
    Quiet (lever caller basket borrowUnits minReceiveUnits adapterName route d) := by
  refine .bind (quiet_enteredRecord d caller basket) fun r => .bind (quiet_onChain _ _) fun _ => ?_
  refine .bind (quiet_of_eq fun s => (planPerToken_yields d basket _ _ _ _ _ s).yields
    fun _ _ h => h.1) fun p => .bind (quiet_onChain _ _) fun borrowed => ?_
  refine .bind (quiet_trade p route) fun received => .bind (quiet_chargeFee d _ _ _) fun fee => ?_
  refine .bind (quiet_compute _) fun net => ?_
  have hreport : Quiet (do
      let report ← writePositions d basket r p.supply
      emit (.leverageIncreased ⟨basket, r.params.loanAsset, r.params.collateralAsset,
        p.adapterName, borrowed.assets, received, fee⟩)
      pure (⟨borrowed.assets, received, fee, net, report.collateralUnit, report.borrowUnit⟩ :
        LeverReport)) :=
    .bind (quiet_writePositions d basket r _) fun _ => .bind (quiet_emit rfl) fun _ => .pure _
  exact .ite (fun _ => hreport) fun _ => .bind (quiet_onChain _ _) fun _ => hreport

theorem quiet_repayCapped (r : Record) (basket : Address) (available : Amount) :
    Quiet (repayCapped r basket available) :=
  .bind (quiet_balancesOf r basket) fun _ => .ite (fun _ => .pure _) fun _ =>
    .bind (quiet_onChain _ _) fun _ => .pure _

theorem quiet_sellCollateral (d : Desk) (r : Record) (p : TradePlan) (route : Bytes) :
    Quiet (sellCollateral d r p route) :=
  .bind (quiet_onChain _ _) fun _ => .bind (quiet_trade p route) fun _ =>
    .bind (quiet_chargeFee d _ _ _) fun _ => .bind (quiet_compute _) fun _ => .pure _

theorem quiet_finishDelever (d : Desk) (r : Record) (p : TradePlan)
    (received fee repaid : Amount) : Quiet (finishDelever d r p received fee repaid) := by
  have hresidual : Quiet (writeResidual r p.basket p.supply) :=
    .bind (.read _) fun _ => .bind (quiet_compute _) fun _ =>
      .bind (.bind (quiet_onChain _ _) fun _ => .pure _) fun _ => .pure _
  refine .bind hresidual fun residual => .bind (quiet_writePositions d _ r _) fun report => ?_
  refine .bind (.read _) fun account => .bind (quiet_emit rfl) fun _ => ?_
  exact .ite (fun _ => .bind (quiet_emit rfl) fun _ => .pure _) fun _ => .pure _

theorem quiet_delever (caller basket : Address) (redeemUnits minRepayUnits : Amount)
    (adapterName : String) (route : Bytes) (d : Desk) :
    Quiet (delever caller basket redeemUnits minRepayUnits adapterName route d) := by
  refine .bind (quiet_enteredRecord d caller basket) fun r => .bind (quiet_onChain _ _) fun _ => ?_
  refine .bind (quiet_of_eq fun s => (planPerToken_yields d basket _ _ _ _ _ s).yields
    fun _ _ h => h.1) fun p => .bind (quiet_sellCollateral d r p route) fun sold => ?_
  exact .bind (quiet_repayCapped r basket _) fun _ => quiet_finishDelever d r p _ _ _

theorem quiet_deleverToZero (caller basket : Address) (redeemUnits : Amount)
    (adapterName : String) (route : Bytes) (d : Desk) :
    Quiet (deleverToZero caller basket redeemUnits adapterName route d) := by
  refine .bind (quiet_enteredRecord d caller basket) fun r => .bind (quiet_onChain _ _) fun _ => ?_
  refine .bind (quiet_balancesOf r basket) fun balances => .bind (quiet_require _ _) fun _ => ?_
  refine .bind (quiet_supplyOf basket) fun supply => .bind (quiet_compute _) fun quantity => ?_
  refine .bind (quiet_of_eq fun s => (plan_yields d basket _ _ _ _ _ s).yields
    fun _ _ h => h.1) fun p => .bind (quiet_sellCollateral d r p route) fun sold => ?_
  refine .bind (quiet_require _ _) fun _ => .bind (quiet_onChain _ _) fun moved => ?_
  exact quiet_finishDelever d r p _ _ _

theorem quiet_sync (d : Desk) (basket : Address) :
    Quiet (do
      let r ← recordOf d basket
      syncPositions d basket r) := by
  refine .bind (quiet_recordOf d basket) fun r => .bind (quiet_supplyOf basket) fun supply => ?_
  refine .ite (fun _ => .pure _) fun _ => .bind (quiet_onChain _ _) fun _ => ?_
  exact .bind (quiet_writePositions d basket r supply) fun _ => .bind (quiet_emit rfl) fun _ =>
    .pure _

theorem quiet_moduleHook (caller basket : Address) (d : Desk) :
    Quiet (moduleHook caller basket d) :=
  .bind (quiet_requireIssuer caller basket) fun _ => quiet_sync d basket

/-- Component hooks end alike. -/
theorem quiet_hookEnd (d : Desk) (basket : Address) (r : Record)
    (adjust : Amount → Except MathError Amount) (payload : EventPayload)
    (h : payload.changesAllowList = false) (value : Amount) : Quiet (do
      if d.settings.syncOnHook then do
        let supply ← supplyOf basket
        let adjusted ← compute (adjust supply)
        syncDebtForSupply d basket r adjusted
      else pure ()
      emit payload
      pure value) := by
  have hsay : Quiet (do emit payload; pure value) := .bind (quiet_emit h) fun _ => .pure _
  have hsync (supply : Amount) : Quiet (syncDebtForSupply d basket r supply) := by
    refine .ite (fun _ => .pure _) fun _ => .bind (quiet_onChain _ _) fun _ => ?_
    refine .bind (quiet_balancesOf r basket) fun _ => .bind (quiet_writeDebt d _ r _ _) fun _ => ?_
    exact .bind (quiet_onChain _ _) fun _ => .bind (quiet_compute _) fun _ => quiet_emit rfl
  exact .ite (fun _ => .bind (quiet_supplyOf basket) fun _ => .bind (quiet_compute _) fun _ =>
    .bind (hsync _) fun _ => hsay) fun _ => hsay

theorem quiet_debtUnit (d : Desk) (r : Record) (basket component : Address) :
    Quiet (debtUnit d r basket component) :=
  quiet_of_eq fun s => (debtUnit_yields d r basket component s).yields fun _ _ h => h.1

theorem quiet_issueHook (caller basket : Address) (quantity : Amount) (component : Address)
    (isEquity : Bool) (d : Desk) :
    Quiet (issueHook caller basket quantity component isEquity d) := by
  refine .bind (quiet_requireIssuer caller basket) fun _ => .bind (quiet_recordOf d basket)
    fun r => .ite (fun _ => .pure _) fun _ => .bind (quiet_debtUnit d r _ _) fun unit => ?_
  refine .bind (quiet_compute _) fun notional => ?_
  have hend : Quiet _ := quiet_hookEnd d basket r (Amount.add · quantity)
    (.issueHookBorrowed ⟨basket, component, quantity, notional⟩) rfl notional
  exact .ite (fun _ => hend) fun _ => .bind (quiet_onChain _ _) fun _ => hend

theorem quiet_redeemHook (caller basket : Address) (quantity : Amount) (component : Address)
    (isEquity : Bool) (d : Desk) :
    Quiet (redeemHook caller basket quantity component isEquity d) := by
  refine .bind (quiet_requireIssuer caller basket) fun _ => .bind (quiet_recordOf d basket)
    fun r => .ite (fun _ => .pure _) fun _ => .bind (quiet_debtUnit d r _ _) fun unit => ?_
  refine .bind (quiet_compute _) fun owed => .bind (quiet_repayCapped r basket owed)
    fun repaid => ?_
  exact quiet_hookEnd d basket r (Amount.sub · quantity)
    (.redeemHookRepaid ⟨basket, component, quantity, repaid⟩) rfl repaid

end Operation

/-! ## One request -/

variable {w w' v : World} {emitted : List (Instant × EventPayload)}

theorem World.said_quiet {α : Type} {op : Desk → Operation α} (h : (op w.desk).Quiet) :
    ∀ p ∈ w.said op, p.changesAllowList = false := by
  have hends := h ⟨w.chain, w.desk.records, []⟩ fun p hp => by cases hp
  unfold World.said
  cases hrun : (op w.desk).run ⟨w.chain, w.desk.records, []⟩ with
  | done a s =>
    rw [hrun] at hends
    exact hends
  | refused e s => exact fun p hp => by cases hp
  | aborted => exact fun p hp => by cases hp

/-- A request that says nothing about the allow list leaves it alone. -/
theorem World.Versioned.of_quiet {said : List EventPayload}
    (hsaid : ∀ p ∈ said, p.changesAllowList = false)
    (h : w'.desk.allowList = w.desk.allowList) : w.Versioned said w' := by
  have hnone : said.countP EventPayload.changesAllowList = 0 := by
    rw [List.countP_eq_zero]
    exact fun p hp => by rw [hsaid p hp]; decide
  rw [World.Versioned, h, hnone, Nat.add_zero]

theorem World.operate_versioned {α : Type} {op : Desk → Operation α} (h : (op w.desk).Quiet) :
    ((World.operate op).run w).Ends (fun _ w' => w.Versioned (w.said op) w')
      fun _ w' => w.Versioned (w.said op) w' := by
  refine ends_operate (Outcome.ends_of ?_ ?_)
  · exact fun _ _ _ => .of_quiet (World.said_quiet h) rfl
  · exact fun _ _ => .of_quiet (World.said_quiet h) rfl

/-- A change of the allow list moves its version by one, and says so. -/
theorem World.changeAllowList_versioned {change : AllowList → Option AllowList}
    {payload : EventPayload} (hpayload : payload.changesAllowList = true)
    (hchange : ∀ l l', change l = some l' → l'.version.toNat = l.version.toNat + 1) (w : World) :
    ((World.changeAllowList change payload).run w).Ends (fun _ w' => w.Versioned [payload] w')
      fun _ _ => False := by
  simp only [World.changeAllowList, Action.ends_bind, Action.ends_read, Action.ends_orAbort,
    Action.ends_modify]
  intro allowList hallow desk hdesk
  obtain ⟨log, -, rfl⟩ := Option.map_eq_some_iff.1 hdesk
  rw [World.Versioned, List.countP_singleton, if_pos hpayload]
  exact hchange _ _ hallow

/-- What is said, and changes the list, only where an action goes through. -/
theorem World.Versioned.of_isDone {ε : Type} {x : Action World ε Unit} {payload : EventPayload}
    (hx : (x.run w).Ends (fun _ w' => w.Versioned [payload] w') fun _ w' => w' = w)
    (h : x.after w = some w') :
    w.Versioned (if (x.run w).isDone then [payload] else []) w' := by
  unfold Action.after at h
  cases hrun : x.run w with
  | done _ w₁ =>
    rw [hrun] at h hx
    obtain rfl := Option.some.inj h
    exact hx
  | refused e w₁ =>
    rw [hrun] at h hx
    obtain rfl := Option.some.inj h
    obtain rfl := hx
    exact rfl
  | aborted =>
    rw [hrun] at h
    cases h

theorem World.setAllowed_versioned (caller basket : Address) (allowed : Bool) (w : World) :
    ((World.setAllowed caller basket allowed).run w).Ends
      (fun _ w' => w.Versioned [.allowListUpdated basket allowed] w') fun _ w' => w' = w := by
  simp only [World.setAllowed, Action.ends_bind, Action.ends_read, Action.ends_require,
    implies_true, and_true]
  intro _ _
  exact (World.changeAllowList_versioned rfl (fun _ _ => AllowList.setAllowed?_version) w).imp
    (fun _ _ h => h) fun _ _ h => h.elim

theorem World.setAnyAllowed_versioned (caller : Address) (anyAllowed : Bool) (w : World) :
    ((World.setAnyAllowed caller anyAllowed).run w).Ends
      (fun _ w' => w.Versioned [.anyBasketAllowedUpdated anyAllowed] w') fun _ w' => w' = w := by
  simp only [World.setAnyAllowed, Action.ends_bind, Action.ends_read, Action.ends_require,
    implies_true, and_true]
  intro _
  exact (World.changeAllowList_versioned rfl (fun _ _ => AllowList.setAnyAllowed?_version) w).imp
    (fun _ _ h => h) fun _ _ h => h.elim

theorem BasketOperation.after_versioned {basket : Address} {operation : BasketOperation}
    (h : (operation.perform basket).after w = some w') :
    w.Versioned (operation.announces basket w) w' := by
  cases operation with
  | setAllowed caller allowed =>
    exact .of_isDone (World.setAllowed_versioned caller basket allowed w) h
  | enrol => exact (World.operate_versioned (Operation.quiet_enrol _ _ _ _)).state h
  | registerIssuer =>
    exact (World.operate_versioned (Operation.quiet_registerIssuer _ _ _ _)).state h
  | letGo => exact (ends_forget (World.operate_versioned (Operation.quiet_letGo _ _ _))).state h
  | enter => exact (ends_forget (World.operate_versioned (Operation.quiet_enter _ _ _))).state h
  | lever =>
    exact (ends_forget (World.operate_versioned (Operation.quiet_lever _ _ _ _ _ _ _))).state h
  | delever =>
    exact (ends_forget (World.operate_versioned (Operation.quiet_delever _ _ _ _ _ _ _))).state h
  | deleverToZero =>
    exact (ends_forget
      (World.operate_versioned (Operation.quiet_deleverToZero _ _ _ _ _ _))).state h
  | sync => exact (ends_forget (World.operate_versioned (Operation.quiet_sync _ _))).state h
  | moduleHook =>
    exact (ends_forget (World.operate_versioned (Operation.quiet_moduleHook _ _ _))).state h
  | issueHook =>
    exact (ends_forget (World.operate_versioned (Operation.quiet_issueHook _ _ _ _ _ _))).state h
  | redeemHook =>
    exact (ends_forget (World.operate_versioned (Operation.quiet_redeemHook _ _ _ _ _ _))).state h

/-- **The version counts what is said of the allow list**, whatever is asked for. -/
theorem Request.after_versioned {r : Request} (h : r.after w = some w') :
    w.Versioned (r.announces w) w' := by
  cases r with
  | chain q =>
    obtain ⟨c, -, rfl⟩ := Option.map_eq_some_iff.1 h
    exact rfl
  | desk q =>
    cases q with
    | setTime time =>
      obtain rfl := Option.some.inj h
      exact rfl
    | advanceTime delay =>
      have hends : ((DeskRequest.advanceTime delay).perform.run w).Ends
          (fun _ w' => w.Versioned [] w') fun _ w' => w.Versioned [] w' := by
        simp only [DeskRequest.perform, World.advanceTime, World.setTime, Action.ends_bind,
          Action.ends_read, Action.ends_orAbort, Action.ends_modify, Action.run_pure,
          Outcome.ends_done]
        exact fun _ _ => rfl
      exact hends.state h
    -- the two requests of the owner are not quiet: they say that the list was changed
    | setAnyAllowed caller anyAllowed =>
      exact .of_isDone (World.setAnyAllowed_versioned caller anyAllowed w) h
    | basket address operation => exact BasketOperation.after_versioned h

/-- **What one request says is put at the end of the chronicle.** -/
theorem Request.after_chronicled {r : Request} (hw : w.Chronicled emitted)
    (h : r.after w = some w') :
    w'.Chronicled (emitted ++ (r.announces w).map fun p => (w.desk.clock, p)) := by
  -- either the request says nothing and the log is as it was, or its events go behind the others:
  -- then the latest of the latest and of the new ones are the latest of all
  have hlogged := Request.after_logged h
  have hversion : w'.desk.allowList.version.toNat = w.desk.allowList.version.toNat +
      (r.announces w).countP EventPayload.changesAllowList := Request.after_versioned h
  refine ⟨?_, ?_, ?_⟩
  · obtain ⟨hnothing, hlog⟩ | hlog := hlogged.log
    · rw [hnothing, hlog, hlogged.settings, List.map_nil, List.append_nil]
      exact hw.log
    · rw [(EventLog.entries_append hlog).1, hw.log, latest_append, hw.next, hlogged.settings,
        List.zipIdx_append, Nat.add_comm 1]
  · obtain ⟨hnothing, hlog⟩ | hlog := hlogged.log
    · rw [hnothing, hlog, List.map_nil, List.append_nil]
      exact hw.next
    · rw [(EventLog.entries_append hlog).2, hw.next, List.length_append, List.length_map]
      omega
  · rw [hversion, hw.version, List.countP_append, List.countP_map]
    rfl

/-! ## Runs -/

/-- **A run adds what its requests say**, one after another. -/
theorem World.Chronicled.runs {requests : List Request} (hw : w.Chronicled emitted)
    (h : World.runs requests w = some v) :
    v.Chronicled (emitted ++ World.chronicle requests w) := by
  induction requests generalizing w emitted with
  | nil =>
    obtain rfl : w = v := Option.some.inj h
    rw [World.chronicle, List.append_nil]
    exact hw
  | cons r rest ih =>
    obtain ⟨u, hafter, hrest⟩ := Option.bind_eq_some_iff.1 h
    have hu := ih (Request.after_chronicled hw hafter) hrest
    rw [World.chronicle, hafter, Option.elim_some, ← List.append_assoc]
    exact hu

/-! ## Refusals -/

/-- What is refused is not said. -/
theorem World.said_of_refused {α : Type} {op : Desk → Operation α} {e : LeverageError}
    (h : (World.operate op).run w = .refused e w') : w.said op = [] := by
  change World.operate op w = _ at h
  unfold World.operate at h
  unfold World.said Action.run
  generalize op w.desk ⟨w.chain, w.desk.records, []⟩ = outcome at h ⊢
  cases outcome with
  | done a s =>
    dsimp only at h
    split at h
    · cases h
    · cases h
  | refused e s => rfl
  | aborted => rfl

theorem BasketOperation.announces_of_refused {basket : Address} {operation : BasketOperation}
    {e : LeverageError} (h : (operation.perform basket).run w = .refused e w') :
    operation.announces basket w = [] := by
  cases operation with
  | setAllowed caller allowed =>
    change (World.setAllowed caller basket allowed).run w = _ at h
    rw [announces, h]
    rfl
  | enrol | registerIssuer => exact World.said_of_refused h
  | letGo | enter | lever | delever | deleverToZero | sync | moduleHook | issueHook
  | redeemHook => exact World.said_of_refused (Action.run_forget_eq_refused.1 h)

/-- **A refused request says nothing.** -/
theorem DeskRequest.announces_of_refused {q : DeskRequest} {e : LeverageError}
    (h : q.perform.run w = .refused e w') : q.announces w = [] := by
  cases q with
  | setTime time => rfl
  | advanceTime delay => rfl
  | setAnyAllowed caller anyAllowed =>
    change (World.setAnyAllowed caller anyAllowed).run w = _ at h
    rw [announces, h]
    rfl
  | basket address operation => exact BasketOperation.announces_of_refused h

/-! ## From the beginning -/

theorem World.chronicled_blank (pool router feeRecipient holder owner : Address)
    (settings : Settings) :
    (blank pool router feeRecipient holder owner settings).Chronicled [] := by
  refine ⟨?_, rfl, rfl⟩
  exact (latest_of_length_le (Nat.zero_le _)).symm

/-- No request changes the settings. -/
theorem World.runs_settings {requests : List Request} (h : World.runs requests w = some v) :
    v.desk.settings = w.desk.settings := by
  refine World.runs_induction (I := fun u => u.desk.settings = w.desk.settings) rfl ?_ h
  exact fun r _ u u' hu hafter => (Request.after_logged hafter).settings.trans hu

/-- **The log holds the end of all that was said.** Let a desk be asked for whatever, one request
after another, and let `emitted` be all that its requests have said where they went through, in
order, each with the time that the desk had then. After each request the log has exactly the last of
these events, as many of them as the settings allow, with their times, and with numbers that count
all events from one on. The version of the allow list is how many of them said that it was changed.
A request that is refused now says nothing and leaves the log as it is; and one that goes through
can be put in the log, as long as there are numbers left for its events. -/
theorem World.log_of_run {pool router feeRecipient holder owner : Address} {settings : Settings}
    {requests : List Request}
    (h : World.runs requests (blank pool router feeRecipient holder owner settings) = some v) :
    let emitted :=
      World.chronicle requests (blank pool router feeRecipient holder owner settings)
    v.desk.log.entries = latest settings.maxEvents.toNat (emitted.zipIdx 1) ∧
      v.desk.log.nextId.toNat = emitted.length + 1 ∧
      v.desk.allowList.version.toNat = emitted.countP (fun e => e.2.changesAllowList) ∧
      (∀ (q : DeskRequest) e v', q.perform.run v = .refused e v' →
        q.announces v = [] ∧ v'.desk.log = v.desk.log) ∧
      ∀ payloads, emitted.length + payloads.length + 1 < 1 <<< 64 →
        ∃ d, v.desk.publish? payloads = some d := by
  intro emitted
  have hv : v.Chronicled emitted :=
    (World.chronicled_blank pool router feeRecipient holder owner settings).runs h
  have hsettings : v.desk.settings = settings := World.runs_settings h
  have hreachable : v.Reachable :=
    ⟨pool, router, feeRecipient, holder, owner, settings, requests, h⟩
  refine ⟨hsettings ▸ hv.log, hv.next, hv.version, ?_, ?_⟩
  · intro q e v' hrefused
    refine ⟨DeskRequest.announces_of_refused hrefused, ?_⟩
    rw [hreachable.orderly.refused_eq (fun _ _ => trivial) hrefused]
  · intro payloads hroom
    have hnumbers : v.desk.log.nextId.toNat + payloads.length < 1 <<< 64 := by
      rw [hv.next]
      omega
    have happend : ∃ log, v.desk.log.append? v.desk.settings.maxEvents.toNat v.desk.clock payloads =
        some log := EventLog.exists_append hnumbers
    obtain ⟨log, hlog⟩ := happend
    exact ⟨_, Option.map_eq_some_iff.2 ⟨log, hlog, rfl⟩⟩

open Deployment in
/-- The requests after which the collateral is in the market, an hour and more after the beginning,
then one to enter it again, and one to permit every basket. -/
def dating : List Request :=
  [.desk (.setTime ⟨⟨3_600_000, by decide, by decide⟩⟩)] ++ entering ++
    [.desk (.advanceTime ⟨1, by decide, by decide⟩),
      .desk (.basket Deployment.basket (.enter manager)), .desk (.setAnyAllowed owner true)]

open Deployment in
/-- With room for two events the log has the last two of four, the first of which was said a
millisecond before the second. The request to enter again was refused, and of what was said two
events are changes of the allow list. -/
theorem World.log_of_dating : ∃ v, World.runs dating (start forgetful) = some v ∧
    (World.chronicle dating (start forgetful)).length = 4 ∧
    v.desk.log.entries = latest 2 ((World.chronicle dating (start forgetful)).zipIdx 1) ∧
    v.desk.log.entries.map (fun e => (e.1.1.millis.toInt, e.2)) =
      [(3_600_000, 3), (3_600_001, 4)] ∧
    v.desk.log.nextId.toNat = 5 ∧ v.desk.allowList.version.toNat = 2 := by
  have hrun : ((World.runs dating (start forgetful)).map fun v =>
      decide (((World.chronicle dating (start forgetful)).length = 4 ∧
        (World.chronicle dating (start forgetful)).countP (fun e => e.2.changesAllowList) = 2) ∧
        v.desk.log.entries.map (fun e => (e.1.1.millis.toInt, e.2)) =
          [(3_600_000, 3), (3_600_001, 4)])) = some true := by decide +kernel
  obtain ⟨v, hv, hrun⟩ := Option.map_eq_some_iff.1 hrun
  obtain ⟨⟨hlength, hchanges⟩, hentries⟩ := of_decide_eq_true hrun
  obtain ⟨hlog, hnext, hversion, -, -⟩ := World.log_of_run hv
  refine ⟨v, hv, hlength, hlog, hentries, ?_, ?_⟩
  · exact hnext.trans (congrArg (· + 1) hlength)
  · exact hversion.trans hchanges

end Leverage

end LeveredBasket
