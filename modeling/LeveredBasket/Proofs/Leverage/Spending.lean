/-
A trade takes no more than it was given.

Before a trade (`LeverageModule::execute_trade`) the basket allows the adapter's
spender to pull what is to be sent, and nobody anything else. The venue pulls on
the strength of that allowance alone, whatever the call says that the adapter makes
of an order: any assets, any recipient, any quantity. So at most the quantity is
gone of the asset that is sent, and of no other asset anything
(`Chain.Brokered.traded`). What has arrived is read off the wallet, and fee,
deposit and repayment are paid out of that.

What the venue does not pull is still allowed afterwards. No step takes it back, so
that an adapter which asks for less than it was given leaves an allowance behind
(`TokenBook.AllowsOnly`, `Adapter.asks`).
-/
import LeveredBasket.Proofs.Leverage.FullDelever
import LeveredBasket.Proofs.Leverage.Redemption

set_option autoImplicit false

namespace LeveredBasket

open Exchange (Adapter SwapOrder TradeCall Venue)

/-! ## What is allowed, and what is paid -/

namespace TokenBook

/-- **Nobody may move tokens of the owner's.** -/
def AllowsNothing (b : TokenBook) (owner : Address) : Prop :=
  ∀ asset spender, b.allowance asset owner spender = 0

/-- **The owner allows this and nothing else**: one spender to move so much of one asset. -/
def AllowsOnly (b : TokenBook) (owner asset spender : Address) (amount : Amount) : Prop :=
  ∀ a s, b.allowance a owner s = if a = asset ∧ s = spender then amount else 0

/-- **The owner has paid at most so much**: of one asset, and allows what it allowed. -/
structure Paid (owner asset : Address) (amount : Amount) (b b' : TokenBook) : Prop where
  balance : ∀ a, (b.balance a owner).toNat ≤
    (b'.balance a owner).toNat + countIf (asset = a) amount.toNat
  allowance : ∀ a s, b'.allowance a owner s = b.allowance a owner s

/-- **A spender has moved so much of the owner's**, as it was allowed to, and is allowed so much
less. -/
structure Spent (asset spender owner : Address) (amount : Amount) (b b' : TokenBook) : Prop where
  allowed : amount.toNat ≤ (b.allowance asset owner spender).toNat
  balance : ∀ a, (b.balance a owner).toNat ≤
    (b'.balance a owner).toNat + countIf (asset = a) amount.toNat
  allowance : ∀ a s, b'.allowance a owner s =
    if a = asset ∧ s = spender then (b.allowance asset owner spender).truncatedSub amount
    else b.allowance a owner s

end TokenBook

/-- **What the venue is asked to pull** where `quantity` is to be sent: all of it if the adapter
writes the order out, and otherwise what the order says that it passes on. -/
def Exchange.Adapter.asks (a : Adapter) (quantity : Amount) (route : Bytes) : Amount :=
  match a with
  | .writesOrder _ _ => quantity
  | .passesRoute _ _ => ((SwapOrder.ofPayload? route).map (·.sendQuantity)).getD 0

/-- **A trade has been made for the owner.** Of what is sent at most `quantity` is gone, of what is
received there is at least `net` more, and of nothing else there is less. What has not been asked
for is still allowed to be moved, and nothing else. -/
structure TokenBook.Traded (owner send receive spender : Address) (quantity asked net : Amount)
    (b b' : TokenBook) : Prop where
  covered : asked.toNat ≤ quantity.toNat
  allowance : b'.AllowsOnly owner send spender (quantity.truncatedSub asked)
  balance : ∀ a, (b.balance a owner).toNat + countIf (receive = a) net.toNat ≤
    (b'.balance a owner).toNat + countIf (send = a) quantity.toNat

/-- **A swap has been made**: the router has pulled what the order sends of the caller's, which was
allowed to it, and so much has been paid out to whom the order names. -/
structure TokenBook.Swapped (router caller : Address) (o : SwapOrder) (out : Amount)
    (b b' : TokenBook) : Prop where
  allowed : o.sendQuantity.toNat ≤ (b.allowance o.sendAsset caller router).toNat
  balance : ∀ a x, (b'.balance a x).toNat +
      countIf (a = o.sendAsset ∧ x = caller) o.sendQuantity.toNat =
    (b.balance a x).toNat + countIf (a = o.sendAsset ∧ x = router) o.sendQuantity.toNat +
      countIf (a = o.receiveAsset ∧ x = o.recipient) out.toNat
  supply : ∀ a, (b'.supply a).toNat = (b.supply a).toNat + countIf (a = o.receiveAsset) out.toNat
  allowance : ∀ a x s, b'.allowance a x s =
    if a = o.sendAsset ∧ (x, s) = (caller, router) then
      (b.allowance o.sendAsset caller router).truncatedSub o.sendQuantity
    else b.allowance a x s

/-- **A basket has traded on an order**: the adapter's spender was allowed what the order sends, the
adapter has made a call of the order, and the basket has made that call. -/
def Chain.Exchanged (basket : Address) (a : Adapter) (o : SwapOrder) (c c' : Chain) : Prop :=
  ∃ call c₁, a.call o = .ok call ∧
    (Chain.invokeApprove basket o.sendAsset a.spender o.sendQuantity).run c = .done () c₁ ∧
    (Chain.invokeTrade basket call).run c₁ = .done () c'

/-- **A trade and the fee on it.** What the wallet has above what was there `before` counts as
received, and has to be enough. At the rate of the fee the recipient has been sent a share of that,
and the rest is what is left. -/
structure Chain.Brokered (rate : BasisPoints) (basket : Address) (a : Adapter) (o : SwapOrder)
    (before received fee net : Amount) (c c' : Chain) (t : TokenBook) : Prop where
  exchanged : Chain.Exchanged basket a o c c'
  arrived : received = (c'.tokens.balance o.receiveAsset basket).truncatedSub before
  enough : o.minReceiveQuantity.toNat ≤ received.toNat
  share : rate.apply received = .ok fee
  charged : TokenBook.Transferred o.receiveAsset basket c.registry.feeRecipient fee c'.tokens t
  net : net.toNat + fee.toNat = received.toNat

/-- The order that the adapter is given. -/
def Leverage.TradePlan.order (p : Leverage.TradePlan) (route : Bytes) : SwapOrder :=
  ⟨p.sendAsset, p.receiveAsset, p.basket, p.sendQuantity, p.minReceive, route⟩

/-- The session with these tokens. -/
def Leverage.Session.withTokens (s : Leverage.Session) (t : TokenBook) : Leverage.Session :=
  s.withBank { s.chain.toBank with tokens := t }

/-! ## Payments -/

namespace TokenBook

variable {asset spender owner recipient : Address} {amount quantity : Amount} {b b' : TokenBook}

theorem Paid.refl (owner asset : Address) (amount : Amount) (b : TokenBook) :
    Paid owner asset amount b b :=
  ⟨fun _ => Nat.le_add_right _ _, fun _ _ => rfl⟩

/-- To pay is to have no more than the amount less, also if one pays oneself. -/
theorem Transferred.paid (h : Transferred asset owner recipient amount b b') :
    Paid owner asset amount b b' :=
  ⟨h.sent, fun a s => h.allowance a owner s⟩

theorem Paid.allowsOnly (h : Paid owner asset amount b b') {a s : Address}
    (hb : b.AllowsOnly owner a s quantity) : b'.AllowsOnly owner a s quantity := by
  intro a' s'
  rw [h.allowance]
  exact hb a' s'

/-- Where no token knows of an allowance of the owner's there is none. -/
theorem allowsNothing_of_entries
    (h : ∀ t ∈ b.tokens.entries, ∀ a ∈ t.2.allowances.entries, a.1.1 ≠ owner) :
    b.AllowsNothing owner := by
  intro asset spender
  unfold TokenBook.allowance TokenBook.token FiniteMap.getD
  cases hasset : b.tokens.get? asset with
  | none => rfl
  | some t =>
    have hentry : (asset, t) ∈ b.tokens.entries := FiniteMap.mem_entries_of_get? hasset
    have hnone : t.allowances.get? (owner, spender) = none := FiniteMap.lookup_eq_none
      fun a ha hpair => h _ hentry a ha (congrArg Prod.fst hpair.symm)
    change (t.allowances.get? (owner, spender)).getD 0 = 0
    rw [hnone]
    rfl

/-- Whoever allows only so much allows nothing just if that is nothing. -/
theorem AllowsOnly.allowsNothing_iff (hb : b.AllowsOnly owner asset spender amount) :
    b.AllowsNothing owner ↔ amount = 0 := by
  constructor
  · intro hnone
    have hzero := hnone asset spender
    rw [hb, if_pos ⟨rfl, rfl⟩] at hzero
    exact hzero
  · rintro rfl a s
    rw [hb, ite_self]

/-- Who has allowed nothing allows only what it allows next. -/
theorem AllowsNothing.approve (hb : b.AllowsNothing owner) (asset spender : Address)
    (amount : Amount) :
    (b.approve asset owner spender amount).AllowsOnly owner asset spender amount := by
  intro a s
  rw [allowance_approve]
  simp only [Prod.mk.injEq, true_and, hb a s]

/-- **Of one allowance no more is moved than it is**, and nothing of anything else. -/
theorem Spent.of_allowsOnly {a s : Address} (h : Spent a s owner amount b b')
    (hb : b.AllowsOnly owner asset spender quantity) :
    amount.toNat ≤ quantity.toNat ∧
      b'.AllowsOnly owner asset spender (quantity.truncatedSub amount) ∧
      ∀ x, (b.balance x owner).toNat ≤
        (b'.balance x owner).toNat + countIf (asset = x) quantity.toNat := by
  have hallowed := h.allowed
  have hleft := h.allowance
  rw [hb a s] at hallowed hleft
  by_cases hsame : a = asset ∧ s = spender
  · obtain ⟨rfl, rfl⟩ := hsame
    rw [if_pos ⟨rfl, rfl⟩] at hallowed hleft
    refine ⟨hallowed, fun a' s' => ?_, fun x => ?_⟩
    · rw [hleft a' s', hb a' s']
      split <;> rfl
    · exact (h.balance x).trans (Nat.add_le_add_left (countIf_mono hallowed) _)
  · -- what may not be moved at all is moved by nothing
    rw [if_neg hsame] at hallowed hleft
    obtain rfl : amount = 0 := Word.ext (Nat.le_zero.1 hallowed)
    refine ⟨Nat.zero_le _, fun a' s' => ?_, fun x => ?_⟩
    · rw [hleft a' s', hb a' s']
      by_cases hpair : a' = a ∧ s' = s
      · obtain ⟨rfl, rfl⟩ := hpair
        rw [if_pos ⟨rfl, rfl⟩, if_neg hsame]
        rfl
      · rw [if_neg hpair]
        rfl
    · have hpaid := h.balance x
      rw [Word.toNat_zero, countIf_zero] at hpaid
      exact hpaid.trans (Nat.le_add_right _ _)

/-- Who receives tokens allows what it allowed. -/
theorem AllowsNothing.transferred {sender : Address} (hb : b.AllowsNothing owner)
    (h : Transferred asset sender recipient amount b b') : b'.AllowsNothing owner :=
  fun a s => (h.allowance a owner s).trans (hb a s)

/-- **Somebody who is given what is to be sent, and afterwards pays no more than has arrived, has
nothing less** than before. -/
theorem Traded.le_balance {b₁ b₂ b₃ : TokenBook} {pool send receive : Address}
    {asked net : Amount} (hgiven : Transferred send pool owner quantity b b₁)
    (h : Traded owner send receive spender quantity asked net b₁ b₂)
    (hpaid : Paid owner receive amount b₂ b₃) (hle : amount.toNat ≤ net.toNat)
    (hne : owner ≠ pool) (a : Address) :
    (b.balance a owner).toNat ≤ (b₃.balance a owner).toNat := by
  have hreceived := hgiven.received hne.symm a
  have htraded := h.balance a
  have hleft := hpaid.balance a
  have hless : countIf (receive = a) amount.toNat ≤ countIf (receive = a) net.toNat :=
    countIf_mono hle
  omega

end TokenBook

/-! ## Swaps (`FixedRateVenue::swap`) -/

/-- **What a swap has moved of the caller's**, on the strength of what the caller allows the
router. -/
theorem TokenBook.Swapped.spent {router caller : Address} {o : SwapOrder} {out : Amount}
    {b b' : TokenBook} (h : Swapped router caller o out b b') :
    Spent o.sendAsset router caller o.sendQuantity b b' := by
  refine ⟨h.allowed, fun a => ?_, fun a s => ?_⟩
  · have hbalance := h.balance a caller
    have hcount : countIf (a = o.sendAsset ∧ caller = caller) o.sendQuantity.toNat =
        countIf (o.sendAsset = a) o.sendQuantity.toNat := by simp [eq_comm]
    omega
  · rw [h.allowance]
    simp only [Prod.mk.injEq, true_and]

/-- **A swap** is made as its order says, for what the venue quotes. -/
theorem Exchange.Venue.swap_yields (v : Venue) (caller : Address) (call : TradeCall)
    (b : TokenBook) : ((v.swap caller call).run b).Yields fun out b' => call.target = v.router ∧
      ∃ o, SwapOrder.ofPayload? call.payload = some o ∧
        v.quote o.sendAsset o.receiveAsset o.sendQuantity = .ok out ∧
        TokenBook.Swapped v.router caller o out b b' := by
  simp only [Outcome.Yields, swap, Action.ends_bind, Action.ends_require, Action.ends_orRefuse,
    Action.ends_ofExcept, Action.ends_mapError, Action.run_pure, Outcome.ends_done, implies_true,
    and_true]
  intro htarget o ho out hout
  refine (TokenBook.transferFrom_spec _ _ _ _ _ b).yields ?_
  rintro _ _ ⟨hallowed, b₁, htransferred, rfl⟩
  refine (TokenBook.mint_spec _ _ out _).yields ?_
  rintro _ b' hminted
  refine ⟨htarget, o, ho, hout, hallowed, fun a x => ?_, fun a => ?_, fun a x s => ?_⟩
  · have hsent := htransferred.balance a x
    have hpaid := hminted.balance a x
    rw [TokenBook.balance_approve] at hpaid
    omega
  · rw [hminted.supply, TokenBook.supply_approve, htransferred.supply]
  · rw [hminted.allowance, TokenBook.allowance_approve, htransferred.allowance]

/-- A basket's trade is a swap for it, and changes nothing but tokens. -/
theorem Chain.invokeTrade_yields (basket : Address) (call : TradeCall) (c : Chain) :
    ((Chain.invokeTrade basket call).run c).Yields fun _ c' => call.target = c.venue.router ∧
      ∃ o out t, SwapOrder.ofPayload? call.payload = some o ∧
        c.venue.quote o.sendAsset o.receiveAsset o.sendQuantity = .ok out ∧
        TokenBook.Swapped c.venue.router basket o out c.tokens t ∧
        c' = { c with tokens := t } := by
  simp only [Outcome.Yields, Chain.invokeTrade, Action.ends_bind, Action.ends_read,
    Action.ends_require, Chain.ends_onTokens, Action.run_pure, Outcome.ends_done, implies_true,
    and_true]
  intro _
  refine (Venue.swap_yields c.venue basket call c.tokens).yields ?_
  rintro out t ⟨htarget, o, ho, hout, hswapped⟩
  exact ⟨htarget, o, out, t, ho, hout, hswapped, rfl⟩

/-- An approval by a basket changes an allowance of its own. -/
theorem Chain.invokeApprove_yields (basket asset spender : Address) (amount : Amount) (c : Chain) :
    ((Chain.invokeApprove basket asset spender amount).run c).Yields fun _ c' =>
      c' = { c with tokens := c.tokens.approve asset basket spender amount } := by
  simp only [Outcome.Yields, Chain.invokeApprove, Action.ends_bind, Chain.ends_theBasket,
    Action.ends_modify, implies_true, and_self]

/-- **A trade on an order is the swap that the adapter's call says.** -/
theorem Chain.Exchanged.swapped {basket : Address} {a : Adapter} {o : SwapOrder} {c c' : Chain}
    (h : Chain.Exchanged basket a o c c') : ∃ call o' out t, a.call o = .ok call ∧
      call.target = c.venue.router ∧ SwapOrder.ofPayload? call.payload = some o' ∧
      c.venue.quote o'.sendAsset o'.receiveAsset o'.sendQuantity = .ok out ∧
      TokenBook.Swapped c.venue.router basket o' out
        (c.tokens.approve o.sendAsset basket a.spender o.sendQuantity) t ∧
      c' = { c with tokens := t } := by
  obtain ⟨call, c₁, hcall, happrove, htrade⟩ := h
  obtain rfl := (Chain.invokeApprove_yields _ _ _ _ c).done happrove
  obtain ⟨htarget, o', out, t, ho', hout, hswapped, rfl⟩ :=
    (Chain.invokeTrade_yields basket call _).done htrade
  exact ⟨call, o', out, t, hcall, htarget, ho', hout, hswapped, rfl⟩

/-- An adapter that writes orders out calls its router, and says just what the order does. -/
theorem Exchange.Adapter.call_writesOrder {router spender : Address} {o : SwapOrder}
    {call : TradeCall} (h : (writesOrder router spender).call o = .ok call) :
    o.sendAsset ≠ o.receiveAsset ∧ call.target = router ∧
      SwapOrder.ofPayload? call.payload = some o := by
  unfold Adapter.call at h
  dsimp only at h
  split at h
  case isTrue => cases h
  case isFalse hne =>
    obtain rfl := Except.ok.inj h
    exact ⟨hne, rfl, SwapOrder.ofPayload?_payload o⟩

/-- **Through such an adapter a trade is the swap that was ordered**, and the adapter is one for the
venue that there is. -/
theorem Chain.Exchanged.written {basket router spender : Address} {o : SwapOrder} {c c' : Chain}
    (h : Chain.Exchanged basket (.writesOrder router spender) o c c') :
    o.sendAsset ≠ o.receiveAsset ∧ router = c.venue.router ∧ ∃ out t,
      c.venue.quote o.sendAsset o.receiveAsset o.sendQuantity = .ok out ∧
      TokenBook.Swapped router basket o out
        (c.tokens.approve o.sendAsset basket spender o.sendQuantity) t ∧
      c' = { c with tokens := t } := by
  obtain ⟨call, o', out, t, hcall, htarget, ho', hout, hswapped, rfl⟩ := h.swapped
  obtain ⟨hne, hrouter, ho⟩ := Adapter.call_writesOrder hcall
  obtain rfl : o = o' := Option.some.inj (ho.symm.trans ho')
  rw [← htarget, hrouter] at hswapped
  exact ⟨hne, hrouter.symm.trans htarget, out, t, hout, hswapped, rfl⟩

/-- The venue is asked to pull what the adapter makes of the order. -/
theorem Exchange.Adapter.asks_eq {a : Adapter} {order o : SwapOrder} {call : TradeCall}
    (hcall : a.call order = .ok call) (ho : SwapOrder.ofPayload? call.payload = some o) :
    o.sendQuantity = a.asks order.sendQuantity order.route := by
  cases a with
  | writesOrder target spender =>
    rw [(call_writesOrder hcall).2.2] at ho
    rw [← Option.some.inj ho]
    rfl
  | passesRoute target spender =>
    obtain rfl := Except.ok.inj hcall
    rw [Adapter.asks, ho]
    rfl

/-- **A trade takes no more than it was given**, whatever the adapter makes of the order. What is
left of what has arrived is in the wallet on top of what was there. -/
theorem Chain.Brokered.traded {rate : BasisPoints} {basket : Address} {a : Adapter} {o : SwapOrder}
    {before received fee net : Amount} {c c' : Chain} {t : TokenBook}
    (h : Chain.Brokered rate basket a o before received fee net c c' t)
    (hbefore : before = c.tokens.balance o.receiveAsset basket)
    (hdistinct : o.sendAsset ≠ o.receiveAsset) (hnone : c.tokens.AllowsNothing basket) :
    TokenBook.Traded basket o.sendAsset o.receiveAsset a.spender o.sendQuantity
      (a.asks o.sendQuantity o.route) net c.tokens t := by
  obtain ⟨call, o', out, t₁, hcall, -, ho', -, hswapped, rfl⟩ := h.exchanged.swapped
  have hallows := hnone.approve o.sendAsset a.spender o.sendQuantity
  obtain ⟨hcovered, hleft, hsent⟩ := hswapped.spent.of_allowsOnly hallows
  rw [Exchange.Adapter.asks_eq hcall ho'] at hcovered hleft
  refine ⟨hcovered, h.charged.paid.allowsOnly hleft, fun x => ?_⟩
  have hpaid : (t₁.balance x basket).toNat ≤
    (t.balance x basket).toNat + countIf (o.receiveAsset = x) fee.toNat := h.charged.sent x
  have hgone := hsent x
  rw [TokenBook.balance_approve] at hgone
  have hnet := h.net
  by_cases hx : o.receiveAsset = x
  · -- of what is received nothing is sent, so the wallet has what it had and what has arrived
    rw [countIf_neg (hx ▸ hdistinct), ← hx, ← hbefore] at hgone
    have harrived := congrArg Word.toNat h.arrived
    change received.toNat = (t₁.balance o.receiveAsset basket).toNat - before.toNat at harrived
    rw [countIf_pos hx] at hpaid ⊢
    rw [← hx] at hpaid ⊢
    rw [← hbefore]
    omega
  · rw [countIf_neg hx] at hpaid ⊢
    omega

namespace Leverage

open Lending (Bank Market)

namespace Operation

variable {α : Type} {d : Desk} {basket : Address} {r : Record} {p : TradePlan} {route : Bytes}
variable {s : Session}

/-! ## Plans and trades -/

/-- **A plan** is what was asked for, the adapter of that name, and what is there. -/
theorem plan_made (d : Desk) (basket send receive : Address) (quantity minimum : Amount)
    (adapterName : String) (s : Session) :
    ((plan d basket send receive quantity minimum adapterName).run s).Yields fun p s' =>
      s' = s ∧ ∃ adapter b, s.chain.registry.adapter d.address adapterName = .ok adapter ∧
        s.chain.baskets.get? basket = some b ∧ p = ⟨basket, adapterName, adapter, send, receive,
          b.supply, quantity, minimum, s.chain.tokens.balance receive basket⟩ := by
  simp only [Outcome.Yields, plan, walletOf, Action.ends_bind, Action.ends_require,
    Action.ends_read, Action.ends_ofExcept, ends_supplyOf, Action.run_pure, Outcome.ends_done,
    implies_true, and_true]
  intro _ adapter hadapter b hb
  exact ⟨trivial, adapter, b, Except.mapError_eq_ok.1 hadapter, hb, rfl⟩

/-- Per token, what is sent is rounded down, and what has to come back is rounded up. -/
theorem planPerToken_made (d : Desk) (basket send receive : Address) (units minimum : Amount)
    (adapterName : String) (s : Session) :
    ((planPerToken d basket send receive units minimum adapterName).run s).Yields fun p s' =>
      s' = s ∧ ∃ adapter b quantity least,
        s.chain.registry.adapter d.address adapterName = .ok adapter ∧
        s.chain.baskets.get? basket = some b ∧ Amount.preciseMul units b.supply = .ok quantity ∧
        Amount.preciseMulUp minimum b.supply = .ok least ∧
        p = ⟨basket, adapterName, adapter, send, receive, b.supply, quantity, least,
          s.chain.tokens.balance receive basket⟩ := by
  simp only [Outcome.Yields, planPerToken, Action.ends_bind, ends_supplyOf, ends_compute,
    implies_true, and_true]
  intro b hb quantity hquantity least hleast
  refine (plan_made d basket send receive quantity least adapterName s).yields ?_
  rintro _ _ ⟨rfl, adapter, b', hadapter, hb', rfl⟩
  obtain rfl := Option.some.inj (hb.symm.trans hb')
  exact ⟨rfl, adapter, b, quantity, least, hadapter, hb, hquantity, hleast, rfl⟩

/-- **A trade** is one on the order of the plan. What counts as received is what the wallet has more
than when the trade was planned, and it is enough. -/
theorem trade_yields (p : TradePlan) (route : Bytes) (s : Session) :
    ((trade p route).run s).Yields fun received s' => ∃ c,
      Chain.Exchanged p.basket p.adapter (p.order route) s.chain c ∧ s' = { s with chain := c } ∧
      received = (c.tokens.balance p.receiveAsset p.basket).truncatedSub p.balanceBefore ∧
      p.minReceive.toNat ≤ received.toNat := by
  simp only [Outcome.Yields, trade, exchange, onChain, walletOf, Action.ends_bind,
    Action.ends_read, Action.ends_require, Action.ends_ofExcept, Action.ends_mapError,
    Action.ends_within, ends_ledger, Action.run_pure, Outcome.ends_done, implies_true, and_true]
  refine (Outcome.yields_self _).yields fun _ c₁ happrove call hcall => ?_
  rw [Except.mapError_eq_ok] at hcall
  refine (Outcome.yields_self _).yields fun _ c htrade henough => ?_
  exact ⟨c, ⟨call, c₁, hcall, happrove, htrade⟩, rfl, rfl, henough⟩

/-- **A fee** is the protocol's share, and goes to the fee recipient. -/
theorem chargeFee_yields (d : Desk) (basket asset : Address) (amount : Amount) (s : Session) :
    ((chargeFee d basket asset amount).run s).Yields fun fee s' => ∃ t, s' = s.withTokens t ∧
      (s.chain.registry.fee d.address d.settings.feeIndex).apply amount = .ok fee ∧
      TokenBook.Transferred asset basket s.chain.registry.feeRecipient fee s.chain.tokens t := by
  simp only [Outcome.Yields, chargeFee, Chain.invokeTransfer, Action.ends_bind, Action.ends_read,
    Action.ends_require, Action.ends_ite, ends_compute, ends_ledger, Chain.ends_theBasket,
    Chain.ends_onTokens, Action.run_pure, Outcome.ends_done, implies_true, and_true]
  intro _ fee hfee
  refine ⟨?_, fun _ b _ => ?_⟩
  · rintro rfl
    exact ⟨s.chain.tokens, rfl, hfee, .none _ _ _ _⟩
  · refine (TokenBook.transfer_spec _ _ _ _ _).yields ?_
    rintro _ t htransferred
    exact ⟨t, rfl, hfee, htransferred⟩

/-- **A trade and its fee**, one after the other. -/
theorem yields_brokered {k : Amount → Amount → Amount → Operation α} {Q : α → Session → Prop}
    (hk : ∀ received fee net c t,
      Chain.Brokered (s.chain.registry.fee d.address d.settings.feeIndex) p.basket p.adapter
        (p.order route) p.balanceBefore received fee net s.chain c t →
      ((k received fee net).run (s.withTokens t)).Yields Q) :
    ((do
      let received ← trade p route
      let fee ← chargeFee d p.basket p.receiveAsset received
      let net ← compute (received.sub fee)
      k received fee net : Operation α).run s).Yields Q := by
  refine Action.yields_bind (trade_yields p route s) ?_
  rintro received _ ⟨c, hexchanged, rfl, hreceived, henough⟩
  refine Action.yields_bind (chargeFee_yields d p.basket p.receiveAsset received _) ?_
  rintro fee _ ⟨t, rfl, hshare, hcharged⟩
  refine Action.yields_bind (compute_yields _ _) ?_
  rintro net _ ⟨hnet, rfl⟩
  obtain ⟨-, -, -, t₁, -, -, -, -, -, rfl⟩ := hexchanged.swapped
  exact hk received fee net _ t
    ⟨hexchanged, hreceived, henough, hshare, hcharged, Amount.sub_eq_ok.1 hnet⟩

end Operation

end Leverage

end LeveredBasket
