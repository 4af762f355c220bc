/-
What requests to a desk do to the world, and what runs do to the chain.

A refused operation leaves the world as it was. One that goes through has moved
the chain on its errand and has left the records sound. So a run of requests of
both kinds moves the chain by requests to the chain alone (`World.runs_moves`):
to know what every run keeps of the chain, it is enough to know what each request
to the chain keeps.
-/
import LeveredBasket.Deployment
import LeveredBasket.Proofs.Leverage.Conduct

set_option autoImplicit false

namespace LeveredBasket.Leverage

open Lending (LendingError MarketParams)

variable {known : Set MarketParams} {w w' : World}

/-! ## Operations, whole or not at all -/

section Operate

variable {α : Type} {op : Desk → Operation α} {Q : α → World → Prop}
variable {E : LeverageError → World → Prop}

theorem publish?_eq_some {d d' : Desk} {payloads : List EventPayload}
    (h : d.publish? payloads = some d') : ∃ log, d' = { d with log := log } := by
  obtain ⟨log, -, rfl⟩ := Option.map_eq_some_iff.1 h
  exact ⟨log, rfl⟩

/-- An operation that goes through hands over its session and puts its events in the log; one that
is refused leaves the world as it was. -/
theorem ends_operate
    (h : ((op w.desk).run ⟨w.chain, w.desk.records, []⟩).Ends
      (fun a s => ∀ log, Q a ⟨s.chain, { w.desk with records := s.records, log := log }⟩)
      fun e _ => E e w) :
    ((World.operate op).run w).Ends Q E := by
  change (op w.desk ⟨w.chain, w.desk.records, []⟩).Ends _ _ at h
  change (World.operate op w).Ends Q E
  unfold World.operate
  generalize op w.desk ⟨w.chain, w.desk.records, []⟩ = outcome at h ⊢
  cases outcome with
  | done a s =>
    dsimp only
    split
    case h_1 desk hdesk =>
      obtain ⟨log, rfl⟩ := publish?_eq_some hdesk
      exact h log
    case h_2 => trivial
  | refused e s => exact h
  | aborted => trivial

end Operate

/-! ## Desks on errands -/

/-- **The world is in order**: positions are tidy, and records make sense. -/
structure World.Orderly (known : Set MarketParams) (w : World) : Prop where
  tidy : w.chain.Tidy
  records : SoundRecords known w.desk.records

/-- The errand of an operation on a basket that starts now. -/
def World.Orderly.errand (hw : w.Orderly known) (basket : Address) : Errand :=
  ⟨known, w.desk.address, basket, w.chain, hw.tidy⟩

/-- It has only begun. -/
theorem World.Orderly.follows (hw : w.Orderly known) (basket : Address) :
    (hw.errand basket).Follows w.desk.records ⟨w.chain, w.desk.records, []⟩ :=
  ⟨Chain.Comes.refl w.chain, rfl⟩

/-- **What comes of an errand**: the chain has been moved, the records make sense, and the desk is
the same module. -/
structure Errand.Done (k : Errand) (w : World) : Prop where
  chain : k.Moved w.chain
  records : SoundRecords k.known w.desk.records
  holder : w.desk.address = k.holder

theorem Errand.Done.orderly {k : Errand} (h : k.Done w) : w.Orderly k.known :=
  ⟨h.chain.tidy, h.records⟩

/-- The errand has been done once it has been concluded. -/
theorem Errand.Closes.operate (hw : w.Orderly known) {basket : Address} {α : Type}
    {op : Desk → Operation α}
    (h : (hw.errand basket).Closes w.desk.records (op w.desk)) :
    ((World.operate op).run w).Ends (fun _ w' => (hw.errand basket).Done w')
      fun e w' => w' = w ∧ (hw.errand basket).Blames e := by
  apply ends_operate
  apply (h _ (hw.follows basket)).imp
  · rintro _ s ⟨records, hrecords, hchain, rfl⟩ log
    exact ⟨hchain, hrecords, rfl⟩
  · intro e s he
    exact ⟨rfl, he⟩

/-- What keeps the records concludes the errand. -/
theorem Errand.Conducts.closes {k : Errand} {records : FiniteMap Address Record} {α : Type}
    {x : Operation α} (hrecords : SoundRecords k.known records) (h : k.Conducts records x) :
    k.Closes records x := by
  intro s hs
  apply (h s hs).imp
  · intro a s' hs'
    exact ⟨records, hrecords, hs'⟩
  · intro e s' he
    exact he

/-- A change of the allow list is none of the chain's business. -/
theorem changeAllowList_spec {k : Errand} (h : k.Done w) (change : AllowList → Option AllowList)
    (payload : EventPayload) :
    ((World.changeAllowList change payload).run w).Ends (fun _ w' => k.Done w')
      fun _ _ => False := by
  simp only [World.changeAllowList, Action.ends_bind, Action.ends_read, Action.ends_orAbort,
    Action.ends_modify]
  intro allowList _ desk hdesk
  obtain ⟨log, rfl⟩ := publish?_eq_some hdesk
  exact ⟨h.chain, h.records, h.holder⟩

/-- A step whose value is thrown away ends as it does with the value. -/
theorem ends_forget {σ ε α : Type} {x : Action σ ε α} {s : σ} {Q : σ → Prop}
    {E : ε → σ → Prop} (h : (x.run s).Ends (fun _ s' => Q s') E) :
    ((do let _ ← x : Action σ ε Unit).run s).Ends (fun _ s' => Q s') E := by
  rw [Action.ends_bind]
  exact h

/-- **Every operation on a basket is an errand.** -/
theorem BasketOperation.perform_spec (hw : w.Orderly known) (basket : Address)
    (operation : BasketOperation)
    (hknown : ∀ p, (Request.desk (.basket basket operation)).market? = some p → p ∈ known) :
    ((operation.perform basket).run w).Ends (fun _ w' => (hw.errand basket).Done w')
      fun e w' => w' = w ∧ (hw.errand basket).Blames e := by
  have hrecords : SoundRecords (hw.errand basket).known w.desk.records := hw.records
  have hdone : (hw.errand basket).Done w := ⟨Chain.Comes.refl w.chain, hw.records, rfl⟩
  cases operation with
  | setAllowed caller allowed =>
    simp only [perform, World.setAllowed, Action.ends_bind, Action.ends_read, Action.ends_require]
    refine ⟨fun _ => ⟨fun _ => ?_, fun _ => ⟨trivial, Errand.blames_other rfl⟩⟩,
      fun _ => ⟨trivial, Errand.blames_other rfl⟩⟩
    exact (changeAllowList_spec hdone _ _).imp (fun _ _ h => h) fun _ _ h => h.elim
  | enrol caller params =>
    exact Errand.Closes.operate hw (Errand.closes_enrol rfl hrecords caller (hknown params rfl))
  | registerIssuer caller issuer =>
    exact Errand.Closes.operate hw (Errand.closes_registerIssuer rfl hrecords caller issuer)
  | letGo caller =>
    exact ends_forget (Errand.Closes.operate hw (Errand.closes_letGo rfl hrecords caller))
  | enter caller =>
    -- entering is the one operation on positions that changes the records as well
    refine ends_forget (Errand.Closes.operate hw fun s hs => ?_)
    refine (Errand.enter_spec rfl hrecords caller hs).imp ?_ fun _ _ h => h
    rintro report s' ⟨r, hr, hs', -⟩
    exact ⟨_, hrecords.insert hr, hs'⟩
  | lever caller borrowUnits minReceiveUnits adapterName route =>
    exact ends_forget (Errand.Closes.operate hw (Errand.Conducts.closes hrecords
      (Errand.attains_lever rfl hrecords caller borrowUnits minReceiveUnits adapterName
        route).leads))
  | delever caller redeemUnits minRepayUnits adapterName route =>
    exact ends_forget (Errand.Closes.operate hw (Errand.Conducts.closes hrecords
      (Errand.attains_delever rfl hrecords caller redeemUnits minRepayUnits adapterName
        route).leads))
  | deleverToZero caller redeemUnits adapterName route =>
    exact ends_forget (Errand.Closes.operate hw (Errand.Conducts.closes hrecords
      (Errand.attains_deleverToZero rfl hrecords caller redeemUnits adapterName route).leads))
  | sync =>
    exact ends_forget (Errand.Closes.operate hw (Errand.Conducts.closes hrecords
      (Errand.attains_sync rfl hrecords).leads))
  | moduleHook caller =>
    exact ends_forget (Errand.Closes.operate hw (Errand.Conducts.closes hrecords
      (Errand.attains_moduleHook rfl hrecords caller).leads))
  | issueHook caller quantity component isEquity =>
    exact ends_forget (Errand.Closes.operate hw (Errand.Conducts.closes hrecords
      (Errand.conducts_issueHook rfl hrecords caller quantity component isEquity)))
  | redeemHook caller quantity component isEquity =>
    exact ends_forget (Errand.Closes.operate hw (Errand.Conducts.closes hrecords
      (Errand.conducts_redeemHook rfl hrecords caller quantity component isEquity)))

/-- An operation on a basket leaves the world in order. -/
theorem World.Orderly.performed (hw : w.Orderly Set.univ) {basket : Address}
    {operation : BasketOperation}
    (h : (operation.perform basket).run w = .done () w') : w'.Orderly Set.univ :=
  ((operation.perform_spec hw basket fun _ _ => trivial).done h).orderly

/-! ## Runs -/

/-- A world with nothing in it is in order. -/
theorem World.orderly_blank (known : Set MarketParams)
    (pool router feeRecipient holder owner : Address) (settings : Settings) :
    (blank pool router feeRecipient holder owner settings).Orderly known := by
  refine ⟨fun a b h => ?_, SoundRecords.empty⟩
  rw [blank, Chain.create, FiniteMap.get?_empty] at h
  cases h

/-- A change of the allow list changes neither the chain nor the records. -/
theorem World.changeAllowList_aside (change : AllowList → Option AllowList)
    (payload : EventPayload) (w : World) :
    ((World.changeAllowList change payload).run w).Ends
      (fun _ w' => w'.chain = w.chain ∧ w'.desk.records = w.desk.records) fun _ _ => False := by
  simp only [World.changeAllowList, Action.ends_bind, Action.ends_read, Action.ends_orAbort,
    Action.ends_modify]
  intro allowList _ desk hdesk
  obtain ⟨log, rfl⟩ := publish?_eq_some hdesk
  exact ⟨trivial, rfl⟩

/-- Neither does the owner by listing a basket or delisting it. -/
theorem World.setAllowed_aside (caller basket : Address) (allowed : Bool) (w : World) :
    ((World.setAllowed caller basket allowed).run w).Ends
      (fun _ w' => w'.chain = w.chain ∧ w'.desk.records = w.desk.records)
      fun _ w' => w'.chain = w.chain ∧ w'.desk.records = w.desk.records := by
  simp only [World.setAllowed, Action.ends_bind, Action.ends_read, Action.ends_require,
    implies_true, and_true]
  intro _ _
  exact (World.changeAllowList_aside _ _ w).imp (fun _ _ h => h) fun _ _ h => h.elim

/-- Requests to the desk that are not about a basket change neither the chain nor the records. -/
theorem DeskRequest.after_aside {r : DeskRequest}
    (hr : ∀ basket operation, r ≠ .basket basket operation) (h : r.perform.after w = some w') :
    w'.chain = w.chain ∧ w'.desk.records = w.desk.records := by
  cases r with
  | setTime time =>
    obtain rfl := Option.some.inj h
    exact ⟨rfl, rfl⟩
  | advanceTime delay =>
    have hkeeps : (DeskRequest.advanceTime delay).perform.Keeps
        (fun v => v.chain = w.chain ∧ v.desk.records = w.desk.records) fun _ => True := by
      intro v hv
      simp only [perform, World.advanceTime, World.setTime, Action.ends_bind, Action.ends_read,
        Action.ends_orAbort, Action.ends_modify, Action.run_pure, Outcome.ends_done]
      exact fun _ _ => hv
    exact hkeeps.after ⟨rfl, rfl⟩ h
  | setAnyAllowed caller anyAllowed =>
    have hends : ((World.setAnyAllowed caller anyAllowed).run w).Ends
        (fun _ w' => w'.chain = w.chain ∧ w'.desk.records = w.desk.records)
        fun _ w' => w'.chain = w.chain ∧ w'.desk.records = w.desk.records := by
      simp only [World.setAnyAllowed, Action.ends_bind, Action.ends_read, Action.ends_require,
        implies_true, and_true]
      intro _
      exact (World.changeAllowList_aside _ _ w).imp (fun _ _ h => h) fun _ _ h => h.elim
    exact hends.state h
  | basket basket operation => exact absurd rfl (hr basket operation)

/-- What a request to the desk does to the chain is done by requests of an errand for the basket
that it names. -/
theorem DeskRequest.after_spec (hw : w.Orderly known) {r : DeskRequest}
    (hknown : ∀ p, (Request.desk r).market? = some p → p ∈ known)
    (h : r.perform.after w = some w') : w'.Orderly known ∧
      (w'.chain = w.chain ∨ ∃ basket operation, r = .basket basket operation ∧
        (hw.errand basket).Moved w'.chain) := by
  by_cases hr : ∃ basket operation, r = .basket basket operation
  · obtain ⟨basket, operation, rfl⟩ := hr
    have hdone : (hw.errand basket).Done w' := by
      -- a refused operation has done no errand, but left the world where it was
      refine Outcome.Ends.state (I := (hw.errand basket).Done)
        ((operation.perform_spec hw basket hknown).imp (fun _ _ h => h) ?_) h
      rintro _ _ ⟨rfl, -⟩
      exact ⟨Chain.Comes.refl _, hw.records, rfl⟩
    exact ⟨hdone.orderly, .inr ⟨basket, operation, rfl, hdone.chain⟩⟩
  · obtain ⟨hchain, hrecords⟩ :=
      after_aside (fun basket operation h => hr ⟨basket, operation, h⟩) h
    exact ⟨⟨hchain ▸ hw.tidy, hrecords ▸ hw.records⟩, .inl hchain⟩

/-- If the pool is what refuses a request to the desk, it refuses a request of an errand that starts
now, on a chain that the errand has come to. -/
theorem DeskRequest.refused_by_pool (hw : w.Orderly known) {r : DeskRequest}
    (hknown : ∀ p, (Request.desk r).market? = some p → p ∈ known) {e : LendingError}
    (h : r.perform.run w = .refused (.lending e) w') :
    ∃ basket c q b, Chain.Moves (hw.errand basket).Serves w.chain c ∧
      (hw.errand basket).Serves (.pool q) ∧ q.perform.run c.toBank = .refused e b := by
  cases r with
  | setTime time => cases h
  | advanceTime delay =>
    have hends : ((DeskRequest.advanceTime delay).perform.run w).Ends (fun _ _ => True)
        fun _ _ => False := by
      simp [perform, World.advanceTime, World.setTime]
    exact (hends.refused h).elim
  | setAnyAllowed caller anyAllowed =>
    have hends : ((DeskRequest.setAnyAllowed caller anyAllowed).perform.run w).Ends
        (fun _ _ => True) fun e _ => ∀ e', e ≠ .lending e' := by
      simp [perform, World.setAnyAllowed, World.changeAllowList]
    exact absurd rfl (hends.refused h e)
  | basket basket operation =>
    obtain ⟨-, hblames⟩ := (operation.perform_spec hw basket hknown).refused h
    obtain ⟨c, q, b, hc, hq⟩ := hblames e rfl
    exact ⟨basket, c, q, b, Chain.Passes.moves hc fun _ h => h, hq⟩

/-- **A run moves the chain by requests to the chain**: by those that are made, and by those that
serve an errand for a basket that the desk is asked about. -/
theorem World.runs_moves {P : ChainRequest → Prop} {requests : List Request}
    (hw : w.Orderly known)
    (hchain : ∀ q, .chain q ∈ requests → P q)
    (hdesk : ∀ basket operation, .desk (.basket basket operation) ∈ requests →
      ∀ k : Errand, k.known = known → k.basket = basket → ∀ q, k.Serves q → P q)
    (hknown : ∀ r ∈ requests, ∀ p, r.market? = some p → p ∈ known)
    (h : runs requests w = some w') : w'.Orderly known ∧ Chain.Moves P w.chain w'.chain := by
  refine runs_induction (I := fun v => v.Orderly known ∧ Chain.Moves P w.chain v.chain)
    ⟨hw, .refl _⟩ ?_ h
  rintro r hr v v' ⟨hv, hmoves⟩ hafter
  cases r with
  | chain q =>
    obtain ⟨c, hc, rfl⟩ := Option.map_eq_some_iff.1 hafter
    exact ⟨⟨ChainRequest.after_tidy hv.tidy hc, hv.records⟩, hmoves.tail (hchain q hr) hc⟩
  | desk q =>
    obtain ⟨hv', hsame | ⟨basket, operation, rfl, hmoved⟩⟩ :=
      DeskRequest.after_spec hv (hknown _ hr) hafter
    · exact ⟨hv', hsame ▸ hmoves⟩
    · refine ⟨hv', hmoves.trans ?_⟩
      exact Chain.Passes.moves hmoved (hdesk basket operation hr _ rfl rfl)

/-- Every world that can come about is in order, whichever markets are asked about. -/
theorem World.Reachable.orderly (h : w.Reachable) : w.Orderly Set.univ := by
  obtain ⟨pool, router, feeRecipient, holder, owner, settings, requests, hrun⟩ := h
  exact (runs_moves (P := fun _ => True) (orderly_blank _ _ _ _ _ _ _) (fun _ _ => trivial)
    (fun _ _ _ _ _ _ _ _ => trivial) (fun _ _ _ _ => trivial) hrun).1

/-- Every chain that can come about comes about by requests to the chain. -/
theorem World.Reachable.moves (h : w.Reachable) : ∃ pool router feeRecipient,
    Chain.Moves (fun _ => True) (.create pool router feeRecipient) w.chain := by
  obtain ⟨pool, router, feeRecipient, holder, owner, settings, requests, hrun⟩ := h
  exact ⟨pool, router, feeRecipient, (runs_moves (orderly_blank Set.univ _ _ _ _ _ _)
    (fun _ _ => trivial) (fun _ _ _ _ _ _ _ _ => trivial) (fun _ _ _ _ => trivial) hrun).2⟩

end LeveredBasket.Leverage

/-! ## The reference deployment, asked for -/

namespace LeveredBasket.Deployment

open Leverage (Request)

/-- A number in its width; zero if it is too wide. -/
def number {bits : Nat} (n : Nat) : Word bits := (Word.ofNat? bits n).getD 0

/-- The requests that set the chain up. -/
def furnishing : List ChainRequest :=
  [.token (.register usdc (number 6)), .token (.register wsteth Token.usualDecimals),
    .pool (.createMarket params 0), .pool (.setPrice oracle price),
    .venue (.setRate usdc wsteth (number 1_000_000_000_000) (number 3_000)),
    .venue (.setRate wsteth usdc (number 3_000) (number 1_000_000_000_000)),
    .registry (.addModule holder), .registry (.addModule orchestrator),
    .registry (.setIntegration holder Settings.usualIssuanceName orchestrator),
    .registry (.setAdapter holder adapterName (.fixedRate router)),
    .token (.mint usdc lender liquidity), .pool (.supply params lender liquidity),
    .basket basket (.create manager Amount.one [(wsteth, oneUnit)]),
    .basket basket (.addModule orchestrator), .basket basket (.confirmModule orchestrator),
    .basket basket (.addModule holder)]

/-- The requests after which the collateral is in the market. -/
def entering : List Request :=
  furnishing.map .chain ++ [.desk (.basket basket (.setAllowed owner true)),
    .desk (.basket basket (.enrol manager params)), .desk (.basket basket (.enter manager))]

/-- The requests after which the basket is levered. -/
def levering : List Request :=
  entering ++ [.desk (.basket basket (.lever manager thousandUsdc 0 adapterName []))]

/-- The requests after which the levered basket has in its wallet what it owes. -/
def paying : List Request :=
  levering ++ [.chain (.token (.mint usdc basket thousandUsdc))]

end LeveredBasket.Deployment
