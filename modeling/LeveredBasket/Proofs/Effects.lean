/-
What requests to the chain leave alone.

Only requests to the pool touch the pool. Whatever they do to tokens, requests
take them from the payer they name (`ChainRequest.payer?`), so that a statement
about tokens which survives those takings survives the request
(`ChainRequest.after_outside`). No request puts two positions in one place.

A chain moves to another if a list of requests takes it there; what each of the
requests keeps, the move keeps.
-/
import LeveredBasket.Proofs.Baskets
import LeveredBasket.Proofs.Run
import Mathlib.Logic.Relation

set_option autoImplicit false

namespace LeveredBasket

open Exchange (ExchangeError TradeCall Venue)
open TokenBook (Stable)

/-! ## Tokens and the pool -/

section Outside

variable {payers : Address → Prop} {J : TokenBook → Prop} {pool : Lending.Pool}

/-- The pool is the given one, and `J` holds of the tokens. -/
def Chain.Outside (pool : Lending.Pool) (J : TokenBook → Prop) (c : Chain) : Prop :=
  c.pool = pool ∧ J c.tokens

theorem Chain.Outside.onTokens {ε α : Type} {x : Action TokenBook ε α}
    (hx : x.Keeps J fun _ => True) :
    (Chain.onTokens x).Keeps (Chain.Outside pool J) fun _ => True := by
  rintro c ⟨hpool, hc⟩
  rw [Chain.ends_onTokens]
  apply (hx c.tokens hc).imp
  · intro a t ht
    exact ⟨hpool, ht⟩
  · rintro e t ⟨ht, -⟩
    exact ⟨⟨hpool, ht⟩, trivial⟩

theorem Chain.Outside.wrote {address : Address} {p : Position} {c c' : Chain}
    (hc : Chain.Outside pool J c) (h : Chain.Wrote address p c c') : Chain.Outside pool J c' := by
  obtain ⟨b, ps, -, -, rfl⟩ := h
  exact hc

theorem TokenBook.Stable.keeps_tokenRequest (hJ : Stable payers J) (r : TokenRequest)
    (hp : ∀ a, (ChainRequest.token r).payer? = some a → payers a) :
    r.perform.Keeps J fun _ => True := by
  cases r with
  | register => exact fun _ hb => hJ.register hb
  | mint asset holder amount => exact hJ.keeps_mint asset holder amount
  | burn asset holder amount => exact hJ.keeps_burn (hp holder rfl) asset amount
  | transfer asset sender recipient amount =>
    exact hJ.keeps_transfer (hp sender rfl) asset recipient amount
  | approve => exact fun _ hb => hJ.approve hb
  | transferFrom asset spender owner recipient amount =>
    exact hJ.keeps_transferFrom (hp owner rfl) asset spender recipient amount

/-- A swap takes what is sent from its caller and mints what is received. -/
theorem TokenBook.Stable.keeps_swap (hJ : Stable payers J) {caller : Address}
    (hp : payers caller) (v : Venue) (call : TradeCall) :
    (v.swap caller call).Keeps J fun _ => True := by
  refine .bind (.require _ trivial) fun _ => ?_
  refine .bind (.orRefuse trivial _) fun order => ?_
  refine .bind (.ofExcept fun _ _ => trivial) fun out => ?_
  -- the caller pays the router, and nobody pays for what is received
  refine .bind (fun b hb => Action.ends_mapError.2 ?_) fun _ => ?_
  · exact hJ.keeps_transferFrom hp order.sendAsset v.router v.router order.sendQuantity b hb
  refine .bind (fun b hb => Action.ends_mapError.2 ?_) fun _ => .pure _
  exact hJ.keeps_mint order.receiveAsset order.recipient out b hb

theorem TokenBook.Stable.keeps_venueRequest (hJ : Stable payers J) (r : VenueRequest)
    (hp : ∀ a, (ChainRequest.venue r).payer? = some a → payers a) :
    r.perform.Keeps (Chain.Outside pool J) fun _ => True := by
  cases r with
  | setRate => exact fun _ hc => hc
  | swap caller call =>
    refine .bind (.read _) fun venue => .bind ?_ fun _ => .pure _
    exact Chain.Outside.onTokens (hJ.keeps_swap (hp caller rfl) venue call)

theorem TokenBook.Stable.keeps_trade (hJ : Stable payers J) {address : Address}
    (hp : payers address) (call : TradeCall) :
    (Chain.invokeTrade address call).Keeps (Chain.Outside pool J) fun _ => True := by
  refine .bind (.read _) fun known => .bind (.require _ trivial) fun _ => ?_
  refine .bind (.read _) fun venue => .bind ?_ fun _ => .pure _
  exact Chain.Outside.onTokens (hJ.keeps_swap hp venue call)

theorem Chain.Outside.setStatus (address holder : Address) (status : ModuleStatus) :
    (Chain.setStatus address holder status).Keeps (Chain.Outside pool J) fun _ => True :=
  .bind (Chain.keeps_theBasket address) fun _ _ hc => hc

/-- **A request to a basket** mints, moves the basket's tokens or approves, and otherwise is none of
the tokens' business. -/
theorem Chain.Outside.basketRequest {address : Address} (r : BasketRequest)
    (hminted : ∀ {b b' asset holder amount}, TokenBook.Minted asset holder amount b b' → J b → J b')
    (htransfer : ∀ asset recipient amount, r = .transfer asset recipient amount →
      (TokenBook.transfer asset address recipient amount).Keeps J fun _ => True)
    (happrove : ∀ asset spender amount, r = .approve asset spender amount →
      ∀ b, J b → J (b.approve asset address spender amount)) :
    (r.perform address).Keeps (Chain.Outside pool J) fun _ => True := by
  have hwrite (p : Position) : (do let _ ← Chain.writePosition address p : Chain.Call Unit).Keeps
      (Chain.Outside pool J) fun _ => True := by
    refine .bind (Chain.keeps_writePosition fun c c' hwrote hc => ?_) fun _ => .pure _
    exact hc.wrote hwrote
  have hedit (p : Position) : (Chain.editPosition address p).Keeps (Chain.Outside pool J)
      fun _ => True := by
    apply Chain.keeps_editPosition
    intro c c' hwrote hc
    exact hc.wrote hwrote
  cases r with
  | create manager supply components =>
    -- what was minted before a refusal stays, so both ends have to be looked at
    rintro c ⟨hpool, hc⟩
    simp only [BasketRequest.perform, Chain.createBasket, Action.ends_bind, Action.ends_modify]
    refine (Chain.fund_spec hminted components _ c hc).imp ?_ ?_
    · rintro b _ ⟨-, t, ht, rfl⟩
      exact ⟨hpool, ht⟩
    · rintro _ _ ⟨t, ht, rfl⟩
      exact ⟨⟨hpool, ht⟩, trivial⟩
  | addModule holder => exact Chain.Outside.setStatus address holder .pending
  | detachModule holder => exact Chain.Outside.setStatus address holder .none
  | confirmModule holder =>
    refine .bind (Chain.keeps_theBasket address) fun b => ?_
    exact .bind (.require _ trivial) fun _ _ hc => hc
  | setSupply supply =>
    intro c hc
    simp only [BasketRequest.perform, Action.ends_modify, Chain.setSupply]
    split <;> exact hc
  | editDefault component unit => exact hedit _
  | editExternal component holder unit => exact hedit _
  | writeDefault component unit => exact hwrite _
  | writeExternal component holder unit => exact hwrite _
  | transfer asset recipient amount =>
    refine .bind (Chain.keeps_theBasket address) fun _ => ?_
    exact Chain.Outside.onTokens (htransfer asset recipient amount rfl)
  | approve asset spender amount =>
    exact .bind (Chain.keeps_theBasket address) fun _ c hc =>
      ⟨hc.1, happrove asset spender amount rfl c.tokens hc.2⟩
  | registerHook orchestrator hook =>
    refine .bind (.read _) fun _ => .bind (.require _ trivial) fun _ => ?_
    exact .bind (.read _) fun _ _ hc => hc
  | unregisterHook orchestrator hook =>
    refine .bind (.read _) fun _ => .bind (.require _ trivial) fun _ c hc => ?_
    simp only [Action.ends_modify, Chain.dropHook]
    split <;> exact hc

theorem TokenBook.Stable.keeps_basketRequest (hJ : Stable payers J) (address : Address)
    (r : BasketRequest) (hp : ∀ a, (ChainRequest.basket address r).payer? = some a → payers a) :
    (r.perform address).Keeps (Chain.Outside pool J) fun _ => True := by
  apply Chain.Outside.basketRequest r hJ.minted
  · rintro asset recipient amount rfl
    exact hJ.keeps_transfer (hp address rfl) asset recipient amount
  · intro asset spender amount _ b hb
    exact hJ.approve hb

/-- **A request that is not to the pool leaves the pool alone**, and of the tokens whatever
survives what its payer pays. -/
theorem TokenBook.Stable.after_outside (hJ : Stable payers J) {r : ChainRequest} {c c' : Chain}
    (hr : ∀ q, r ≠ .pool q) (hp : ∀ a, r.payer? = some a → payers a) (hc : J c.tokens)
    (h : r.after c = some c') : c'.pool = c.pool ∧ J c'.tokens := by
  have hstart : Chain.Outside c.pool J c := ⟨rfl, hc⟩
  cases r with
  | token q => exact (Chain.Outside.onTokens (hJ.keeps_tokenRequest q hp)).after hstart h
  | pool q => exact absurd rfl (hr q)
  | venue q => exact (hJ.keeps_venueRequest q hp).after hstart h
  | registry q =>
    obtain rfl := Option.some.inj h
    exact hstart
  | basket address q => exact (hJ.keeps_basketRequest address q hp).after hstart h
  | trade address call => exact (hJ.keeps_trade (hp address rfl) call).after hstart h

/-- What a request to the pool leaves is what its call leaves of the bank. -/
theorem ChainRequest.after_pool {q : Lending.PoolRequest} {c c' : Chain}
    (h : (ChainRequest.pool q).after c = some c') :
    ∃ b, q.perform.after c.toBank = some b ∧ c' = { c with toBank := b } := by
  simp only [ChainRequest.after, Chain.onBank, Action.after_within, Option.map_eq_some_iff] at h
  obtain ⟨b, hb, rfl⟩ := h
  exact ⟨b, hb, rfl⟩

/-- Only requests to the pool touch the pool. -/
theorem ChainRequest.pool_after {r : ChainRequest} {c c' : Chain} (hr : ¬∃ q, r = .pool q)
    (h : r.after c = some c') : c'.pool = c.pool :=
  ((TokenBook.stable_true fun _ => True).after_outside (fun q hq => hr ⟨q, hq⟩)
    (fun _ _ => trivial) trivial h).1

/-- **A request is a call on the bank, or leaves the pool as it is.** -/
theorem ChainRequest.after_bank {r : ChainRequest} {c c' : Chain} (h : r.after c = some c') :
    (∃ q, r = .pool q ∧ q.perform.after c.toBank = some c'.toBank) ∨ c'.pool = c.pool := by
  by_cases hr : ∃ q, r = .pool q
  · obtain ⟨q, rfl⟩ := hr
    obtain ⟨b, hb, rfl⟩ := ChainRequest.after_pool h
    exact .inl ⟨q, rfl, hb⟩
  · exact .inr (ChainRequest.pool_after hr h)

end Outside

/-! ## Baskets -/

namespace Chain

variable {c c' : Chain} {address : Address}

theorem Tidy.setBasket (hc : c.Tidy) {b : Basket} (hb : Positions.Tidy b.positions) :
    (c.setBasket address b).Tidy := by
  intro a b' hb'
  rw [get?_setBasket] at hb'
  split at hb'
  · obtain rfl := Option.some.inj hb'
    exact hb
  · exact hc a b' hb'

theorem Tidy.wrote {p : Position} (hc : c.Tidy) (h : Wrote address p c c') : c'.Tidy := by
  obtain ⟨b, ps, hb, hps, rfl⟩ := h
  exact hc.setBasket (hps.tidy (hc address b hb))

theorem Tidy.setStatus (address holder : Address) (status : ModuleStatus) :
    (Chain.setStatus address holder status).Keeps Tidy fun _ => True := by
  intro c hc
  simp only [Chain.setStatus, Action.ends_bind, ends_theBasket, Action.ends_modify]
  exact ⟨fun b hb => hc.setBasket (hc address b hb), fun _ => ⟨hc, trivial⟩⟩

/-- A call on tokens is of no concern to baskets and hooks. -/
theorem onTokens_keeps {ε α : Type} (x : Action TokenBook ε α)
    (baskets : FiniteMap Address Basket) (hooks : FiniteMap (Address × Address) (List Address)) :
    (onTokens x).Keeps (fun c => c.baskets = baskets ∧ c.hooks = hooks) fun _ => True := by
  intro c hc
  rw [ends_onTokens]
  exact Outcome.ends_of (fun _ _ => hc) fun _ _ => ⟨hc, trivial⟩

end Chain

namespace ChainRequest

variable {c c' : Chain} {r : ChainRequest}

/-- **Only requests to baskets change baskets and hooks.** -/
theorem after_ledger (hr : ∀ address q, r ≠ .basket address q) (h : r.after c = some c') :
    c'.baskets = c.baskets ∧ c'.hooks = c.hooks := by
  have hswap (caller : Address) (call : TradeCall) : (do
      let venue ← .read (·.venue)
      let _ ← Chain.onTokens (venue.swap caller call) : Action Chain ExchangeError Unit).Keeps
      (fun d => d.baskets = c.baskets ∧ d.hooks = c.hooks) fun _ => True :=
    .bind (.read _) fun _ => .bind (Chain.onTokens_keeps _ _ _) fun _ => .pure _
  cases r with
  | token q => exact (Chain.onTokens_keeps q.perform c.baskets c.hooks).after ⟨rfl, rfl⟩ h
  | pool q =>
    obtain ⟨b, -, rfl⟩ := after_pool h
    exact ⟨rfl, rfl⟩
  | venue q =>
    cases q with
    | setRate =>
      obtain rfl := Option.some.inj h
      exact ⟨rfl, rfl⟩
    | swap caller call => exact (hswap caller call).after ⟨rfl, rfl⟩ h
  | registry q =>
    obtain rfl := Option.some.inj h
    exact ⟨rfl, rfl⟩
  | basket address q => exact absurd rfl (hr address q)
  | trade address call =>
    have htrade : (Chain.invokeTrade address call).Keeps
        (fun d => d.baskets = c.baskets ∧ d.hooks = c.hooks) fun _ => True :=
      .bind (.read _) fun _ => .bind (.require _ trivial) fun _ => hswap address call
    exact htrade.after ⟨rfl, rfl⟩ h

theorem after_baskets (hr : ∀ address q, r ≠ .basket address q) (h : r.after c = some c') :
    c'.baskets = c.baskets := (after_ledger hr h).1

theorem keeps_tidy (address : Address) (q : BasketRequest) :
    (q.perform address).Keeps Chain.Tidy fun _ => True := by
  have hwrite (p : Position) : (do let _ ← Chain.writePosition address p : Chain.Call Unit).Keeps
      Chain.Tidy fun _ => True := by
    refine .bind (Chain.keeps_writePosition fun c c' hwrote hc => ?_) fun _ => .pure _
    exact hc.wrote hwrote
  have hedit (p : Position) : (Chain.editPosition address p).Keeps Chain.Tidy fun _ => True := by
    apply Chain.keeps_editPosition
    intro c c' hwrote hc
    exact hc.wrote hwrote
  cases q with
  | create manager supply components =>
    intro c hc
    simp only [BasketRequest.perform, Chain.createBasket, Action.ends_bind, Action.ends_modify]
    refine (Chain.fund_spec (J := fun _ => True) (fun _ _ => trivial) components _ c trivial).imp
      ?_ ?_
    · rintro b _ ⟨hb, t, -, rfl⟩
      exact Chain.Tidy.setBasket (c := { c with tokens := t }) hc (hb Positions.tidy_nil)
    · rintro _ _ ⟨t, -, rfl⟩
      exact ⟨hc, trivial⟩
  | addModule holder => exact Chain.Tidy.setStatus address holder .pending
  | detachModule holder => exact Chain.Tidy.setStatus address holder .none
  | confirmModule holder =>
    intro c hc
    simp only [BasketRequest.perform, Chain.confirmModule, Action.ends_bind, Chain.ends_theBasket,
      Action.ends_require, Action.ends_modify]
    refine ⟨fun b hb => ⟨fun _ => hc.setBasket (hc address b hb), fun _ => ⟨hc, trivial⟩⟩,
      fun _ => ⟨hc, trivial⟩⟩
  | setSupply supply =>
    intro c hc
    simp only [BasketRequest.perform, Action.ends_modify, Chain.setSupply]
    split
    case h_1 b hb => exact hc.setBasket (hc address b hb)
    case h_2 => exact hc
  | editDefault component unit => exact hedit _
  | editExternal component holder unit => exact hedit _
  | writeDefault component unit => exact hwrite _
  | writeExternal component holder unit => exact hwrite _
  | transfer asset recipient amount =>
    refine .bind (Chain.keeps_theBasket address) fun _ c hc => ?_
    rw [Chain.ends_onTokens]
    exact Outcome.ends_of (fun _ _ => hc) fun _ _ => ⟨hc, trivial⟩
  | approve asset spender amount => exact .bind (Chain.keeps_theBasket address) fun _ _ hc => hc
  | registerHook orchestrator hook =>
    refine .bind (.read _) fun _ => .bind (.require _ trivial) fun _ => ?_
    exact .bind (.read _) fun _ _ hc => hc
  | unregisterHook orchestrator hook =>
    refine .bind (.read _) fun _ => .bind (.require _ trivial) fun _ c hc => ?_
    simp only [Action.ends_modify, Chain.dropHook]
    split <;> exact hc

/-- **Every request leaves positions tidy.** -/
theorem after_tidy (hc : c.Tidy) (h : r.after c = some c') : c'.Tidy := by
  by_cases hr : ∃ address q, r = .basket address q
  · obtain ⟨address, q, rfl⟩ := hr
    exact (keeps_tidy address q).after hc h
  · have hsame := after_baskets (fun address q hq => hr ⟨address, q, hq⟩) h
    intro a b hb
    rw [hsame] at hb
    exact hc a b hb

end ChainRequest

/-! ## Moves -/

namespace Chain

/-- **One chain comes of another** by steps of which each is what a request leaves, as `step` says,
and `P` holds of the request. -/
def Comes (step : Chain → ChainRequest → Option Chain) (P : ChainRequest → Prop) :
    Chain → Chain → Prop :=
  Relation.ReflTransGen fun c c' => ∃ r, P r ∧ step c r = some c'

/-- **One chain moves to another**, by requests of which `P` holds. -/
abbrev Moves (P : ChainRequest → Prop) : Chain → Chain → Prop := Comes ChainRequest.after P

/-- **One chain passes to another**, by requests of which `P` holds, and all of them go through. -/
abbrev Passes (P : ChainRequest → Prop) : Chain → Chain → Prop := Comes ChainRequest.through P

variable {step : Chain → ChainRequest → Option Chain} {P : ChainRequest → Prop} {c d : Chain}

theorem Comes.refl (c : Chain) : Comes step P c c := Relation.ReflTransGen.refl

theorem Comes.tail {c' : Chain} {r : ChainRequest} (h : Comes step P c d) (hr : P r)
    (hd : step d r = some c') : Comes step P c c' :=
  Relation.ReflTransGen.tail h ⟨r, hr, hd⟩

theorem Comes.trans {c' : Chain} (h : Comes step P c d) (h' : Comes step P d c') :
    Comes step P c c' :=
  Relation.ReflTransGen.trans h h'

/-- What each of the requests keeps, all of them keep. -/
theorem Comes.keeps {I : Chain → Prop} (h : Comes step P c d) (hc : I c)
    (hstep : ∀ r e e', P r → I e → step e r = some e' → I e') : I d := by
  induction h with
  | refl => exact hc
  | tail _ hstep' ih =>
    obtain ⟨r, hr, he⟩ := hstep'
    exact hstep r _ _ hr ih he

/-- Requests that go through move the chain. -/
theorem Passes.moves {P' : ChainRequest → Prop} (h : Passes P c d) (hP : ∀ r, P r → P' r) :
    Moves P' c d := by
  apply h.keeps (.refl c)
  intro r e e' hr he hthrough
  exact he.tail (hP r hr) (ChainRequest.after_of_through hthrough)

end Chain

end LeveredBasket
