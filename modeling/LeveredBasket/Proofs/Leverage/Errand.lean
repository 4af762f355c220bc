/-
What a desk may do to the chain on account of a basket.

An operation is an errand: it starts from some chain, for one basket, and asks of
the chain only what `Errand.Serves` lists. So whatever state its session is in,
the chain has been moved there by such requests, none of them refused
(`Errand.Follows`), and what requests keep, operations keep. If the pool is to
blame for a refusal, it is for refusing one of those requests (`Errand.Blames`).

A step of an operation is conducted if it stays on the errand and remembers what
was remembered (`Errand.Conducts`). There is one rule for each kind of step.
-/
import LeveredBasket.Proofs.Effects
import Mathlib.Data.Set.Function

set_option autoImplicit false

namespace LeveredBasket.Leverage

open Exchange (ExchangeError TradeCall)
open Lending (Bank LendingError MarketParams PoolRequest)

/-! ## Records -/

/-- **A record that makes sense**: its market is known and goes by its name, and lends one asset
against another. -/
structure Record.Sound (known : Set MarketParams) (r : Record) : Prop where
  known : r.params ∈ known
  market : r.market = r.params.id
  distinct : r.params.collateralAsset ≠ r.params.loanAsset

theorem Record.Sound.entered {known : Set MarketParams} {r : Record} (h : r.Sound known)
    (entered : Bool) : ({ r with entered := entered } : Record).Sound known :=
  ⟨h.known, h.market, h.distinct⟩

theorem Record.Sound.issuers {known : Set MarketParams} {r : Record} (h : r.Sound known)
    (issuers : List Address) : ({ r with issuers := issuers } : Record).Sound known :=
  ⟨h.known, h.market, h.distinct⟩

/-- All records make sense. -/
def SoundRecords (known : Set MarketParams) (records : FiniteMap Address Record) : Prop :=
  ∀ basket r, records.get? basket = some r → r.Sound known

namespace SoundRecords

variable {known : Set MarketParams} {records : FiniteMap Address Record} {basket : Address}

theorem empty : SoundRecords known .empty := by
  intro basket r h
  rw [FiniteMap.get?_empty] at h
  cases h

theorem insert (h : SoundRecords known records) {r : Record} (hr : r.Sound known) :
    SoundRecords known (records.insert basket r) := by
  intro a q hq
  rw [FiniteMap.get?_insert] at hq
  split at hq
  · obtain rfl := Option.some.inj hq
    exact hr
  · exact h a q hq

theorem erase (h : SoundRecords known records) : SoundRecords known (records.erase basket) := by
  intro a q hq
  by_cases ha : a = basket
  · rw [ha, FiniteMap.get?_erase_self] at hq
    cases hq
  · rw [FiniteMap.get?_erase_of_ne records ha] at hq
    exact h a q hq

end SoundRecords

/-- What the pool said, if it is the pool that has refused. -/
def LeverageError.fromPool? : LeverageError → Option LendingError
  | .lending e => some e
  | _ => none

/-! ## Errands -/

/-- **An errand**: on whose account a desk acts, as which module, and from which chain on. The
markets it may name are known. -/
structure Errand where
  known : Set MarketParams
  /-- The module that the desk is to baskets. -/
  holder : Address
  basket : Address
  start : Chain
  tidy : start.Tidy

namespace Errand

/-- **What a desk asks of the chain**: that the pool act for the basket, that the basket's
positions be written, its tokens moved and traded, and that the desk itself be confirmed and
hooked in. -/
inductive Serves (k : Errand) : ChainRequest → Prop
  | accrue {params : MarketParams} (h : params ∈ k.known) : k.Serves (.pool (.accrue params))
  | supplyCollateral {params : MarketParams} (h : params ∈ k.known) (amount : Amount) :
    k.Serves (.pool (.supplyCollateral params k.basket amount))
  | withdrawCollateral {params : MarketParams} (h : params ∈ k.known) (amount : Amount) :
    k.Serves (.pool (.withdrawCollateral params k.basket amount k.basket))
  | borrow {params : MarketParams} (h : params ∈ k.known) (amount : Amount) :
    k.Serves (.pool (.borrow params k.basket amount k.basket))
  | repay {params : MarketParams} (h : params ∈ k.known) (amount : Lending.RepayAmount) :
    k.Serves (.pool (.repay params k.basket amount))
  | writeDefault (component : Address) (unit : PositionUnit) :
    k.Serves (.basket k.basket (.writeDefault component unit))
  | writeExternal (component : Address) (unit : PositionUnit) :
    k.Serves (.basket k.basket (.writeExternal component k.holder unit))
  | transfer (asset recipient : Address) (amount : Amount) :
    k.Serves (.basket k.basket (.transfer asset recipient amount))
  | approve (asset spender : Address) (amount : Amount) :
    k.Serves (.basket k.basket (.approve asset spender amount))
  | trade (call : TradeCall) : k.Serves (.trade k.basket call)
  | confirmModule : k.Serves (.basket k.basket (.confirmModule k.holder))
  | registerHook (orchestrator : Address) :
    k.Serves (.basket k.basket (.registerHook orchestrator k.holder))
  | unregisterHook (orchestrator : Address) :
    k.Serves (.basket k.basket (.unregisterHook orchestrator k.holder))

variable {k : Errand} {r : ChainRequest}

/-- A desk names no market but known ones. -/
theorem Serves.known (h : k.Serves r) {params : MarketParams} (hr : r.market? = some params) :
    params ∈ k.known := by
  cases h with
  | accrue h | supplyCollateral h | withdrawCollateral h | borrow h | repay h =>
    obtain rfl := Option.some.inj hr
    exact h
  | _ => cases hr

/-- A desk pays with nobody's tokens but the basket's. -/
theorem Serves.payer (h : k.Serves r) {a : Address} (hr : r.payer? = some a) : a = k.basket := by
  cases h <;> first | exact (Option.some.inj hr).symm | cases hr

/-- A basket's supply, if there is such a basket. -/
def supplyOn (c : Chain) (address : Address) : Option Amount :=
  (c.baskets.get? address).map (·.supply)

theorem supplyOn_setBasket {c : Chain} {address : Address} {b : Basket}
    (hb : c.baskets.get? address = some b) (b' : Basket) (hsupply : b'.supply = b.supply)
    (a : Address) :
    supplyOn (c.setBasket address b') a = supplyOn c a := by
  unfold supplyOn
  rw [Chain.get?_setBasket]
  split
  case isTrue ha => simp [ha, hb, hsupply]
  case isFalse => rfl

/-- Positions have no supply to do with. -/
theorem supplyOn_wrote {c c' : Chain} {address : Address} {p : Position}
    (h : Chain.Wrote address p c c') (a : Address) : supplyOn c' a = supplyOn c a := by
  obtain ⟨b, ps, hb, -, rfl⟩ := h
  exact supplyOn_setBasket hb { b with positions := ps } rfl a

/-- What a desk asks of its basket leaves all supplies alone. -/
theorem Serves.keeps_supply {q : BasketRequest} (h : k.Serves (.basket k.basket q)) (a : Address)
    (supply : Option Amount) :
    (q.perform k.basket).Keeps (fun c => supplyOn c a = supply) fun _ => True := by
  have hwrite (p : Position) : (do
      let _ ← Chain.writePosition k.basket p : Chain.Call Unit).Keeps
      (fun c => supplyOn c a = supply) fun _ => True := by
    refine .bind (Chain.keeps_writePosition fun c c' hwrote hc => ?_) fun _ => .pure _
    exact (supplyOn_wrote hwrote a).trans hc
  cases h with
  | writeDefault component unit => exact hwrite _
  | writeExternal component unit => exact hwrite _
  | transfer asset recipient amount =>
    refine .bind (Chain.keeps_theBasket k.basket) fun _ c hc => ?_
    rw [Chain.ends_onTokens]
    exact Outcome.ends_of (fun _ _ => hc) fun _ _ => ⟨hc, trivial⟩
  | approve asset spender amount =>
    exact .bind (Chain.keeps_theBasket k.basket) fun _ _ hc => hc
  | confirmModule =>
    intro c hc
    simp only [BasketRequest.perform, Chain.confirmModule, Action.ends_bind, Chain.ends_theBasket,
      Action.ends_require, Action.ends_modify]
    refine ⟨fun b hb => ⟨fun _ => ?_, fun _ => ⟨hc, trivial⟩⟩, fun _ => ⟨hc, trivial⟩⟩
    exact (supplyOn_setBasket hb (b.setStatus k.holder .initialized) rfl a).trans hc
  | registerHook orchestrator =>
    refine .bind (.read _) fun _ => .bind (.require _ trivial) fun _ => ?_
    exact .bind (.read _) fun _ _ hc => hc
  | unregisterHook orchestrator =>
    refine .bind (.read _) fun _ => .bind (.require _ trivial) fun _ c hc => ?_
    simp only [Action.ends_modify, Chain.dropHook]
    split <;> exact hc

/-- **A desk changes no basket's supply.** -/
theorem Serves.supply (h : k.Serves r) {c c' : Chain} (hc : r.after c = some c') (a : Address) :
    supplyOn c' a = supplyOn c a := by
  by_cases hr : ∃ address q, r = .basket address q
  · obtain ⟨address, q, rfl⟩ := hr
    -- the basket that is asked is the errand's own
    obtain rfl : address = k.basket := by
      cases h <;> rfl
    exact (h.keeps_supply a (supplyOn c a)).after rfl hc
  · unfold supplyOn
    rw [ChainRequest.after_baskets (fun address q hq => hr ⟨address, q, hq⟩) hc]

/-! ## On the errand -/

/-- The chain has been moved by requests of the errand, none of them refused. -/
def Moved (k : Errand) (c : Chain) : Prop := Chain.Passes k.Serves k.start c

/-- **The session is on the errand**, and remembers `records`. -/
structure Follows (k : Errand) (records : FiniteMap Address Record) (s : Session) : Prop where
  chain : k.Moved s.chain
  records : s.records = records

/-- **If the pool is to blame** for a refusal, it has refused a request of the errand. -/
def Blames (k : Errand) (e : LeverageError) : Prop :=
  ∀ e', e.fromPool? = some e' → ∃ c q b, k.Moved c ∧ k.Serves (.pool q) ∧
    q.perform.run c.toBank = .refused e' b

/-- **The step stays on the errand** and remembers what was remembered. -/
abbrev Conducts (k : Errand) (records : FiniteMap Address Record) {α : Type} (x : Operation α) :
    Prop :=
  x.Leads (k.Follows records) fun e _ => k.Blames e

/-- The step stays on the errand and attains `P`. -/
abbrev Attains (k : Errand) (records : FiniteMap Address Record) {α : Type}
    (P : α → Session → Prop) (x : Operation α) : Prop :=
  Action.Reaches (k.Follows records) (fun e _ => k.Blames e) P x

/-- What an operation that changes the records comes to. -/
def Concludes (k : Errand) (s : Session) : Prop :=
  ∃ records, SoundRecords k.known records ∧ k.Follows records s

/-- The rest of an operation concludes it. -/
abbrev Closes (k : Errand) (records : FiniteMap Address Record) {α : Type} (x : Operation α) :
    Prop :=
  ∀ s, k.Follows records s → (x.run s).Ends (fun _ s' => k.Concludes s') fun e _ => k.Blames e

variable {c : Chain} {records : FiniteMap Address Record} {s : Session}

theorem Moved.tidy (h : k.Moved c) : c.Tidy := by
  apply h.keeps k.tidy
  intro r d d' _ hd hafter
  exact ChainRequest.after_tidy hd (ChainRequest.after_of_through hafter)

/-- Supplies are what they were at the start. -/
theorem Moved.supply (h : k.Moved c) (a : Address) : supplyOn c a = supplyOn k.start a := by
  apply Chain.Comes.keeps (I := fun d => supplyOn d a = supplyOn k.start a) h rfl
  intro r d d' hr hd hthrough
  exact (hr.supply (ChainRequest.after_of_through hthrough) a).trans hd

theorem Follows.chain_eq (h : k.Follows records s) (events : List EventPayload) :
    k.Follows records { s with events := events } := ⟨h.chain, h.records⟩

end Errand

/-! ## Steps of an operation -/

namespace Operation

section Ends

variable {ε α : Type} {s : Session} {basket : Address} {E : LeverageError → Session → Prop}

@[simp]
theorem ends_compute {x : Except MathError α} {Q : α → Session → Prop} :
    ((compute x).run s).Ends Q E ↔
      (∀ a, x = .ok a → Q a s) ∧ (∀ e, x = .error e → E (.math e) s) := by
  cases x <;> simp [compute, Except.mapError]

@[simp]
theorem ends_ledger {x : Chain.Call α} {Q : α → Session → Prop} :
    ((ledger x).run s).Ends Q E ↔
      (x.run s.chain).Ends (fun a c => Q a { s with chain := c })
        fun e c => E (.ledger e) { s with chain := c } := by
  rw [ledger, onChain, Action.ends_mapError, Action.ends_within]

@[simp]
theorem ends_balancesOf {r : Record} {Q : Balances → Session → Prop} :
    ((balancesOf r basket).run s).Ends Q E ↔
      (∀ bal, r.balances s.chain basket = .ok bal → Q bal s) ∧
        (∀ e, r.balances s.chain basket = .error e → E e s) := Action.ends_ofExcept

end Ends

end Operation

namespace Errand

open Operation (ledger lending exchange compute emit keep balancesOf supplyOf walletOf)

variable {ε α : Type} {k : Errand} {records : FiniteMap Address Record}

/-- A refusal that is not the pool's. -/
theorem blames_other {e : LeverageError} (h : e.fromPool? = none) : k.Blames e := by
  intro e' he
  rw [h] at he
  cases he

theorem conducts_require (p : Prop) [Decidable p] {e : LeverageError}
    (h : e.fromPool? = none) : k.Conducts records (.require p e) :=
  .require p fun _ _ => blames_other h

theorem conducts_orRefuse (x : Option α) {e : LeverageError}
    (h : e.fromPool? = none) : k.Conducts records (.orRefuse e x) := by
  intro s hs
  rw [Action.ends_orRefuse]
  exact ⟨fun _ _ => hs, fun _ => blames_other h⟩

/-- A value that is looked up is found, and nothing else. -/
theorem attains_orRefuse (x : Option α) {e : LeverageError} (h : e.fromPool? = none) :
    k.Attains records (fun a _ => x = some a) (.orRefuse e x) := by
  intro s hs
  rw [Action.ends_orRefuse]
  exact ⟨fun a ha => ⟨hs, ha⟩, fun _ => blames_other h⟩

/-- What an exchange refuses to say is not the pool's refusal. -/
theorem conducts_quoted (x : Except ExchangeError α) :
    k.Conducts records (.ofExcept (x.mapError .exchange)) := by
  intro s hs
  cases x with
  | ok a => exact hs
  | error e => exact blames_other rfl

theorem conducts_compute (x : Except MathError α) : k.Conducts records (compute x) := by
  intro s hs
  rw [Operation.ends_compute]
  exact ⟨fun _ _ => hs, fun _ _ => blames_other rfl⟩

theorem conducts_emit (payload : EventPayload) : k.Conducts records (emit payload) := by
  intro s hs
  rw [emit, Action.ends_modify]
  exact hs.chain_eq _

/-- A call on the chain is conducted if it leaves the chain alone or does what a request of the
errand does that goes through. -/
theorem conducts_onChain {refusal : ε → LeverageError} {x : Action Chain ε α}
    (hx : ∀ c a c', x.run c = .done a c' → c' = c ∨ ∃ r, k.Serves r ∧ r.through c = some c')
    (he : ∀ c e c', k.Moved c → x.run c = .refused e c' → k.Blames (refusal e)) :
    k.Conducts records (Operation.onChain refusal x) := by
  intro s hs
  rw [Operation.onChain, Action.ends_mapError, Action.ends_within, Outcome.ends_iff]
  constructor
  · intro a c' hrun
    refine ⟨?_, hs.records⟩
    rcases hx s.chain a c' hrun with rfl | ⟨r, hr, hthrough⟩
    · exact hs.chain
    · exact hs.chain.tail hr hthrough
  · intro e c' hrun
    exact he s.chain e c' hs.chain hrun

/-- Looking at the ledger changes nothing. -/
theorem conducts_ledger_read {x : Chain.Call α}
    (hx : ∀ c a c', x.run c = .done a c' → c' = c) : k.Conducts records (ledger x) :=
  conducts_onChain (fun c a c' h => .inl (hx c a c' h)) fun _ _ _ _ _ => blames_other rfl

theorem conducts_ledger {x : Chain.Call α} {r : ChainRequest} (hr : k.Serves r)
    (hx : ∀ c, r.through c = x.through c) : k.Conducts records (ledger x) :=
  conducts_onChain (fun c _ _ h => .inr ⟨r, hr, (hx c).trans (Action.through_of_done h)⟩)
    fun _ _ _ _ _ => blames_other rfl

theorem conducts_trade (call : TradeCall) :
    k.Conducts records (exchange (Chain.invokeTrade k.basket call)) :=
  conducts_onChain (fun _ _ _ h => .inr ⟨_, .trade call, Action.through_of_done h⟩)
    fun _ _ _ _ _ => blames_other rfl

/-- A call on the pool is a request to the pool, refused as that is. -/
theorem conducts_lending {x : Bank.Call α} {q : PoolRequest} (hq : k.Serves (.pool q))
    (hx : q.perform = do let _ ← x) : k.Conducts records (lending x) := by
  refine conducts_onChain (fun c a c' h => .inr ⟨_, hq, ?_⟩) fun c e c' hc hrun e' he' => ?_
  · rw [← Action.through_of_done h, ChainRequest.through, Chain.onBank, Chain.onBank,
      Action.through_within, Action.through_within, hx, Action.through_forget]
  · obtain rfl : e = e' := Option.some.inj he'
    -- the call was refused on the chain, so it is refused on its bank
    have hbank : ∃ b, x.run c.toBank = .refused e b := by
      have hends : ((Chain.onBank x).run c).Ends (fun _ _ => True)
          fun e _ => ∃ b, x.run c.toBank = .refused e b := by
        rw [Chain.ends_onBank, Outcome.ends_iff]
        exact ⟨fun _ _ _ => trivial, fun e b h => ⟨b, h⟩⟩
      exact hends.refused hrun
    obtain ⟨b, hb⟩ := hbank
    refine ⟨c, q, b, hc, hq, ?_⟩
    rw [hx, Action.run_bind, hb]

theorem conducts_accrue {params : MarketParams} (h : params ∈ k.known) :
    k.Conducts records (lending (Bank.accrue params)) :=
  conducts_lending (.accrue h) bind_pure_unit.symm

/-- Where there is no such market, the pool says so to any request. -/
theorem blames_marketNotCreated {c : Chain} (hc : k.Moved c) {params : MarketParams}
    (h : params ∈ k.known) (hnone : c.pool.markets.get? params.id = none) :
    k.Blames (.lending (.marketNotCreated params.id)) := by
  rintro e' he'
  obtain rfl := Option.some.inj he'
  refine ⟨c, _, c.toBank, hc, .accrue h, ?_⟩
  simp [PoolRequest.perform, Bank.accrue, Bank.market, Action.run_bind, hnone]

end Errand

end LeveredBasket.Leverage
