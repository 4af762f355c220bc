/-
Tokens are conserved, and allowances are used up.

Whatever is asked of a chain or of a desk, the balances of an asset add up to its
supply (`World.Reachable.conserved`). So a transfer always has room at the receiving
end, what is burned is a part of the supply, and minting is the only call on tokens
that can end a run.

An allowance is set by an approval, and from there on only draws make it smaller:
transfers that the spender makes on the strength of it (`TokenBook::transfer_from`),
in his own name or as the venue's router (`FixedRateVenue::swap`). A draw that is
made takes the amount from the owner and gives it to the recipient
(`ChainRequest.draw_made`). Each request to the chain that goes through sets an
allowance, draws on one, or leaves them all alone (`ChainRequest.granted_after`).
Along a list of requests this adds up (`Chain.granted_runs`), and a run of requests
of both kinds comes down to such lists (`World.Unfolds`).
-/
import LeveredBasket.Proofs.Lending.Standing
import LeveredBasket.Proofs.Leverage.Worlds

set_option autoImplicit false

namespace LeveredBasket

open Exchange (ExchangeError SwapOrder TradeCall Venue)
open Leverage (Errand)

/-! ## Grants, approvals and draws -/

/-- **A grant**: of which asset, whose tokens, and who may move them. -/
@[ext]
structure Grant where
  asset : Address
  owner : Address
  spender : Address
deriving DecidableEq

/-- How much the spender may still move. -/
def TokenBook.granted (b : TokenBook) (g : Grant) : Amount := b.allowance g.asset g.owner g.spender

/-- **A draw** on a grant: who receives, and how much. -/
structure Draw where
  grant : Grant
  recipient : Address
  amount : Amount
  /-- For the draw of a swap something is paid out: of which asset, and to whom. -/
  inReturn : Option (Address × Address)

/-- What is paid out for a draw is minted, and nothing else changes. -/
def Draw.Paid (d : Draw) (b b' : TokenBook) : Prop :=
  match d.inReturn with
  | none => b' = b
  | some (asset, recipient) => ∃ out, TokenBook.Minted asset recipient out b b'

/-- **The draw is made**: the grant covers it, the owner is debited and the recipient credited with
the amount, and so much less is granted. -/
structure Draw.Made (d : Draw) (b b' : TokenBook) : Prop where
  covered : d.amount.toNat ≤ (b.granted d.grant).toNat
  moved : ∃ b₁, TokenBook.Transferred d.grant.asset d.grant.owner d.recipient d.amount b b₁ ∧
    d.Paid (b₁.approve d.grant.asset d.grant.owner d.grant.spender
      ((b.granted d.grant).truncatedSub d.amount)) b'

/-- What a call on the venue asks to draw: the router is to have what the order sends. -/
def Exchange.Venue.draw? (v : Venue) (caller : Address) (call : TradeCall) : Option Draw :=
  (SwapOrder.ofPayload? call.payload).map fun o =>
    ⟨⟨o.sendAsset, caller, v.router⟩, v.router, o.sendQuantity, some (o.receiveAsset, o.recipient)⟩

/-- How much a draw takes of this grant. -/
def Grant.share (g : Grant) : Option Draw → Nat
  | some d => countIf (g = d.grant) d.amount.toNat
  | none => 0

namespace ChainRequest

/-- The grant that a request sets, and how high. -/
def approval? : ChainRequest → Option (Grant × Amount)
  | token (.approve asset owner spender amount) => some (⟨asset, owner, spender⟩, amount)
  | basket address (.approve asset spender amount) => some (⟨asset, address, spender⟩, amount)
  | _ => none

/-- The draw that a request asks for. Whether it is made is another matter. -/
def draw? (c : Chain) : ChainRequest → Option Draw
  | token (.transferFrom asset spender owner recipient amount) =>
    some ⟨⟨asset, owner, spender⟩, recipient, amount, none⟩
  | venue (.swap caller call) => c.venue.draw? caller call
  | trade address call => c.venue.draw? address call
  | _ => none

/-- The request sets the grant: it is an approval of it, and goes through. -/
def Sets (g : Grant) (c : Chain) (r : ChainRequest) : Prop :=
  ∃ amount c', r.approval? = some (g, amount) ∧ r.through c = some c'

/-- **The request was tried**: either the draw that it asks for is made, or it is refused and no
token has moved. -/
def Tried (c c' : Chain) (r : ChainRequest) : Prop :=
  (∃ d, r.draw? c = some d ∧ r.through c = some c' ∧ d.Made c.tokens c'.tokens) ∨
    r.through c = none ∧ c'.tokens = c.tokens

/-- How much the request draws on the grant: what it asks for if it goes through, and nothing if it
does not. -/
def drawn (g : Grant) (c : Chain) (r : ChainRequest) : Nat :=
  ((r.through c).map fun _ => g.share (r.draw? c)).getD 0

end ChainRequest

namespace Chain

/-- The chain after one request after another, each as `step` says. -/
def runs (step : Chain → ChainRequest → Option Chain) : List ChainRequest → Chain → Option Chain
  | [], c => some c
  | r :: rest, c => step c r >>= runs step rest

/-- **How much a list of requests draws** on a grant. -/
def drawn (g : Grant) : List ChainRequest → Chain → Nat
  | [], _ => 0
  | r :: rest, c => r.drawn g c + ((r.after c).map (drawn g rest)).getD 0

/-- **No request of the list sets the grant.** -/
def Unset (g : Grant) : List ChainRequest → Chain → Prop
  | [], _ => True
  | r :: rest, c => ¬r.Sets g c ∧ ∀ c', r.after c = some c' → Unset g rest c'

/-- **The requests use up what is granted.** Each one that asks for a draw and goes through makes
it: so much is taken from the owner and given to the recipient. And from an approval that goes
through on, as long as there is no other of the same grant, all that has been drawn on the grant is
what has been approved less what is still allowed. -/
structure UsesUpGrants (calls : List ChainRequest) (c₀ : Chain) : Prop where
  made : ∀ before r rest, calls = before ++ r :: rest →
    ∀ c c' d, runs ChainRequest.after before c₀ = some c → r.draw? c = some d →
    r.through c = some c' → d.Made c.tokens c'.tokens
  usedUp : ∀ before approval between rest, calls = before ++ approval :: between ++ rest →
    ∀ c c₁ c₂, runs ChainRequest.after before c₀ = some c → approval.through c = some c₁ →
    runs ChainRequest.after between c₁ = some c₂ →
    ∀ g amount, approval.approval? = some (g, amount) → Unset g between c₁ →
    drawn g between c₁ + (c₂.tokens.granted g).toNat = amount.toNat

end Chain

namespace Leverage

/-- **What a run comes down to**: a request to the chain is made as it is, and in place of an
operation of the desk stand requests of an errand, of which all go through, that leave the chain as
the operation does. -/
inductive World.Unfolds : List Request → World → List ChainRequest → World → Prop
  | nil (w : World) : Unfolds [] w [] w
  | chain {r : ChainRequest} {rest : List Request} {calls : List ChainRequest} {w w' : World}
    {c : Chain} (hafter : r.after w.chain = some c)
    (hrest : Unfolds rest { w with chain := c } calls w') :
    Unfolds (.chain r :: rest) w (r :: calls) w'
  | aside {q : DeskRequest} {rest : List Request} {calls : List ChainRequest} {w v w' : World}
    (hafter : q.perform.after w = some v) (hchain : v.chain = w.chain)
    (hrest : Unfolds rest v calls w') : Unfolds (.desk q :: rest) w calls w'
  | desk {operation : BasketOperation} {rest : List Request} {own calls : List ChainRequest}
    {w v w' : World} (k : Errand) (hafter : (operation.perform k.basket).after w = some v)
    (hholder : k.holder = w.desk.address) (hserves : ∀ r ∈ own, k.Serves r)
    (hown : Chain.runs ChainRequest.through own w.chain = some v.chain)
    (hrest : Unfolds rest v calls w') :
    Unfolds (.desk (.basket k.basket operation) :: rest) w (own ++ calls) w'

end Leverage

/-! ## Calls on tokens (`TokenBook::mint`, `TokenBook::burn`, `TokenBook::transfer_from`) -/

namespace TokenBook

/-- **The token book is sound.** Balances add up to the supply. A call ends the run only if it mints
more than the supply has room for; what is refused has changed nothing; and what is burned comes off
the supply in full. -/
structure Sound (b : TokenBook) : Prop where
  conserved : b.Conserved
  aborted_iff : ∀ r : TokenRequest, r.perform.run b = .aborted ↔ ∃ asset holder amount,
    r = .mint asset holder amount ∧ 1 <<< 128 ≤ (b.supply asset).toNat + amount.toNat
  refused : ∀ (r : TokenRequest) e b', r.perform.run b = .refused e b' → b' = b
  burned : ∀ asset holder amount b', (burn asset holder amount).run b = .done () b' →
    (b'.supply asset).toNat + amount.toNat = (b.supply asset).toNat

variable {b b' : TokenBook} {asset holder owner spender recipient : Address} {amount : Amount}

/-- Nobody has more than there is. -/
theorem Conserved.balance_le (hb : b.Conserved) (asset holder : Address) :
    (b.balance asset holder).toNat ≤ (b.supply asset).toNat :=
  ((b.token asset).balance_le_held holder).trans_eq (hb asset)

/-- **Minting ends the run just where the supply has no room**: a balance has room wherever the
supply has. -/
theorem mint_aborted_iff (hb : b.Conserved) : (mint asset holder amount).run b = .aborted ↔
    1 <<< 128 ≤ (b.supply asset).toNat + amount.toNat := by
  have hbalance := hb.balance_le asset holder
  simp only [mint, Action.run_bind, Action.run_read]
  cases hc : (b.token asset).credit? holder amount with
  | none =>
    have hfull : ¬((b.token asset).balance holder).toNat + amount.toNat < 1 <<< 128 :=
      fun hroom => Token.credit?_ne_none hroom hc
    unfold TokenBook.balance at hbalance
    simp only [Action.orAbort_none, Action.run_abort, true_iff]
    omega
  | some c =>
    have hsupply : c.supply = b.supply asset := (Token.credited_of_credit? hc).supply
    simp only [Action.orAbort_some, Action.run_pure, hsupply]
    cases hs : (b.supply asset).add? amount with
    | none => simpa using Word.ofNat?_eq_none.1 hs
    | some supply =>
      have hsum : supply.toNat = (b.supply asset).toNat + amount.toNat := Word.ofNat?_eq_some.1 hs
      have hlt := supply.isLt
      simp only [Action.orAbort_some, Action.run_pure, Action.run_modify, reduceCtorEq, false_iff]
      omega

theorem burn_ne_aborted : (burn asset holder amount).run b ≠ .aborted := by
  simp only [burn, Action.run_bind, Action.run_read]
  cases (b.token asset).debit? holder amount <;> simp

theorem transferFrom_ne_aborted (hb : b.Conserved) :
    (transferFrom asset spender owner recipient amount).run b ≠ .aborted := by
  simp only [transferFrom, Action.run_bind, Action.run_read]
  by_cases hle : amount ≤ b.allowance asset owner spender
  · simp only [Action.require_pos hle, Action.run_pure]
    cases hrun : (transfer asset owner recipient amount).run b with
    | done a b' => simp
    | refused e b' => simp
    | aborted => exact absurd hrun (transfer_ne_aborted hb)
  · simp [Action.require_neg hle]

/-- **Only minting ends a run**, and only past the width of the supply. -/
theorem Conserved.aborted_iff (hb : b.Conserved) (r : TokenRequest) :
    r.perform.run b = .aborted ↔ ∃ asset holder amount, r = .mint asset holder amount ∧
      1 <<< 128 ≤ (b.supply asset).toNat + amount.toNat := by
  cases r with
  | mint asset holder amount => simp [TokenRequest.perform, mint_aborted_iff hb]
  | register | approve => simp [TokenRequest.perform]
  | burn => simp [TokenRequest.perform, burn_ne_aborted]
  | transfer => simp [TokenRequest.perform, transfer_ne_aborted hb]
  | transferFrom => simp [TokenRequest.perform, transferFrom_ne_aborted hb]

/-- **What is burned is a part of the supply**: with what is left it makes up what there was. -/
theorem Conserved.burned (hb : b.Conserved)
    (h : (burn asset holder amount).run b = .done () b') :
    (b'.supply asset).toNat + amount.toNat = (b.supply asset).toNat := by
  have hburned := (burn_spec asset holder amount b).done h
  have hle := hb.balance_le asset holder
  have hcovered := hburned.covered
  have hsupply := hburned.supply asset
  rw [countIf_pos rfl] at hsupply
  omega

/-- A refused call on tokens has changed nothing. -/
theorem eq_of_refused {r : TokenRequest} {e : LedgerError}
    (h : r.perform.run b = .refused e b') : b' = b := by
  cases r with
  | register | approve => cases h
  | mint asset holder amount => exact ((mint_spec asset holder amount b).refused h).elim
  | burn asset holder amount => exact (burn_spec asset holder amount b).refused h
  | transfer asset sender recipient amount =>
    exact ((transfer_spec asset sender recipient amount b).refused h).1
  | transferFrom asset spender owner recipient amount =>
    exact (transferFrom_spec asset spender owner recipient amount b).refused h

/-- **Conservation makes a token book sound.** -/
theorem Conserved.sound (hb : b.Conserved) : b.Sound :=
  ⟨hb, hb.aborted_iff, fun _ _ _ h => eq_of_refused h, fun _ _ _ _ h => hb.burned h⟩

/-! ## Grants -/

theorem granted_approve (b : TokenBook) (asset owner spender : Address) (amount : Amount)
    (g : Grant) : (b.approve asset owner spender amount).granted g =
      if g = ⟨asset, owner, spender⟩ then amount else b.granted g := by
  simp [granted, allowance_approve, Grant.ext_iff]

theorem granted_register (b : TokenBook) (asset : Address) (decimals : Word 32) (g : Grant) :
    (b.register asset decimals).granted g = b.granted g := by
  unfold granted register
  apply allowance_setToken
  rfl

end TokenBook

/-! ## Draws -/

namespace Draw

variable {d : Draw} {b b' : TokenBook}

/-- Nobody's allowance pays for what is paid out. -/
theorem Paid.granted (h : d.Paid b b') (g : Grant) : b'.granted g = b.granted g := by
  unfold Paid at h
  split at h
  · rw [h]
  · obtain ⟨out, hminted⟩ := h
    exact hminted.allowance g.asset g.owner g.spender

/-- **A draw that is made** uses up so much of its grant, and nothing of any other. -/
theorem Made.granted (h : d.Made b b') (g : Grant) :
    (b.granted g).toNat = g.share (some d) + (b'.granted g).toNat := by
  obtain ⟨hcovered, b₁, htransferred, hpaid⟩ := h
  rw [hpaid.granted, TokenBook.granted_approve, Grant.share]
  by_cases hg : g = d.grant
  · subst hg
    rw [countIf_pos rfl, if_pos rfl]
    exact (Nat.add_sub_cancel' hcovered).symm
  · rw [countIf_neg hg, if_neg hg, Nat.zero_add]
    exact congrArg Word.toNat (htransferred.allowance g.asset g.owner g.spender).symm

end Draw

/-- A transfer on the strength of a grant makes the draw. -/
theorem TokenBook.transferFrom_makes (asset spender owner recipient : Address) (amount : Amount)
    (b : TokenBook) : ((transferFrom asset spender owner recipient amount).run b).Ends
      (fun _ b' => Draw.Made ⟨⟨asset, owner, spender⟩, recipient, amount, none⟩ b b')
      fun _ b' => b' = b := by
  refine (transferFrom_spec asset spender owner recipient amount b).imp ?_ fun _ _ h => h
  rintro _ b' ⟨hallowed, b₁, htransferred, hb'⟩
  exact ⟨hallowed, b₁, htransferred, hb'⟩

/-- **A swap makes the draw of its order**: the router has what is sent, and what is received is
minted. -/
theorem Exchange.Venue.swap_makes (v : Venue) (caller : Address) (call : TradeCall)
    (b : TokenBook) : ((v.swap caller call).run b).Ends
      (fun _ b' => ∃ d, v.draw? caller call = some d ∧ d.Made b b') fun _ b' => b' = b := by
  simp only [swap, Action.ends_bind, Action.ends_require, Action.ends_orRefuse,
    Action.ends_ofExcept, Action.ends_mapError, Action.run_pure, Outcome.ends_done, implies_true,
    and_true]
  intro _ o ho out _
  refine (TokenBook.transferFrom_spec _ _ _ _ _ b).imp ?_ fun _ _ h => h
  rintro _ _ ⟨hallowed, b₁, htransferred, rfl⟩
  refine (TokenBook.mint_spec _ _ out _).imp (fun _ b' hminted => ?_) fun _ _ h => h.elim
  have hdraw : v.draw? caller call = some ⟨⟨o.sendAsset, caller, v.router⟩, v.router,
      o.sendQuantity, some (o.receiveAsset, o.recipient)⟩ := by rw [draw?, ho, Option.map_some]
  exact ⟨_, hdraw, hallowed, b₁, htransferred, out, hminted⟩

/-! ## Requests -/

namespace ChainRequest

variable {ε α : Type} {c c' : Chain} {r : ChainRequest} {g : Grant} {amount : Amount}

/-- What leaves the grant as it is, and asks for no draw, draws nothing on it. -/
theorem granted_of_kept (h : c'.tokens.granted g = c.tokens.granted g) (hdraw : r.draw? c = none) :
    (c.tokens.granted g).toNat = r.drawn g c + (c'.tokens.granted g).toNat := by
  have hnone : r.drawn g c = 0 := by
    unfold drawn
    rw [hdraw]
    cases r.through c <;> rfl
  rw [h, hnone, Nat.zero_add]

/-- A request that was tried draws what has been made of it. -/
theorem granted_of_tried (h : r.Tried c c') (g : Grant) :
    (c.tokens.granted g).toNat = r.drawn g c + (c'.tokens.granted g).toNat := by
  unfold drawn
  rcases h with ⟨d, hdraw, hthrough, hmade⟩ | ⟨hnone, hkept⟩
  · rw [hdraw, hthrough]
    exact hmade.granted g
  · rw [hnone, hkept]
    exact (Nat.zero_add _).symm

/-- An action that makes the draw where it is done, and moves nothing where it is refused, makes a
request that is tried. -/
theorem tried_of_ends {x : Action Chain ε α} (hr : r.through c = x.through c)
    (hends : (x.run c).Ends (fun _ c' => ∃ d, r.draw? c = some d ∧ d.Made c.tokens c'.tokens)
      fun _ c' => c'.tokens = c.tokens)
    (h : x.after c = some c') : r.Tried c c' := by
  rcases Outcome.state?_eq_some h with ⟨a, hrun⟩ | ⟨e, hrun⟩
  · obtain ⟨d, hdraw, hmade⟩ := hends.done hrun
    exact .inl ⟨d, hdraw, hr.trans (Action.through_of_done hrun), hmade⟩
  · refine .inr ⟨?_, hends.refused hrun⟩
    rw [hr, Action.through, hrun, Outcome.through?]

theorem tried_transferFrom {asset spender owner recipient : Address}
    (h : (token (.transferFrom asset spender owner recipient amount)).after c = some c') :
    (token (.transferFrom asset spender owner recipient amount)).Tried c c' := by
  refine tried_of_ends rfl ?_ h
  rw [Chain.ends_onTokens]
  exact (TokenBook.transferFrom_makes asset spender owner recipient amount c.tokens).imp
    (fun _ _ hmade => ⟨_, rfl, hmade⟩) fun _ _ h => h

/-- What the venue is asked for, it is asked for on the tokens. -/
theorem makes_onVenue {caller : Address} {call : TradeCall} :
    ((do let _ ← Chain.onTokens (c.venue.swap caller call) : Action Chain ExchangeError Unit).run
      c).Ends
      (fun _ c' => ∃ d, c.venue.draw? caller call = some d ∧ d.Made c.tokens c'.tokens)
      fun _ c' => c'.tokens = c.tokens := by
  rw [Action.ends_bind, Chain.ends_onTokens]
  exact c.venue.swap_makes caller call c.tokens

theorem tried_swap {caller : Address} {call : TradeCall}
    (h : (venue (.swap caller call)).after c = some c') :
    (venue (.swap caller call)).Tried c c' := by
  refine tried_of_ends rfl ?_ h
  rw [VenueRequest.perform, Action.ends_bind, Action.ends_read]
  exact makes_onVenue

theorem tried_trade {address : Address} {call : TradeCall}
    (h : (trade address call).after c = some c') : (trade address call).Tried c c' := by
  refine tried_of_ends rfl ?_ h
  simp only [Chain.invokeTrade, Action.ends_bind, Action.ends_read, Action.ends_require,
    implies_true, and_true]
  exact fun _ => Action.ends_bind.1 makes_onVenue

/-- **What asks for a draw and goes through makes it.** -/
theorem draw_made {d : Draw} (hdraw : r.draw? c = some d) (h : r.through c = some c') :
    d.Made c.tokens c'.tokens := by
  have htried : r.Tried c c' := by
    have hafter := after_of_through h
    cases r with
    | token q =>
      cases q with
      | transferFrom => exact tried_transferFrom hafter
      | _ => cases hdraw
    | venue q =>
      cases q with
      | swap => exact tried_swap hafter
      | _ => cases hdraw
    | trade => exact tried_trade hafter
    | _ => cases hdraw
  rcases htried with ⟨d', hdraw', -, hmade⟩ | ⟨hnone, -⟩
  · obtain rfl : d = d' := Option.some.inj (hdraw.symm.trans hdraw')
    exact hmade
  · cases h.symm.trans hnone

/-- **A call on the tokens** draws on the grant by a transfer on the strength of it, and by nothing
else. -/
theorem granted_token {q : TokenRequest} (h : (token q).after c = some c')
    (hset : ¬(token q).Sets g c) :
    (c.tokens.granted g).toNat = (token q).drawn g c + (c'.tokens.granted g).toNat := by
  have hkept (hends : (q.perform.run c.tokens).Ends (fun _ b => b.granted g = c.tokens.granted g)
      fun _ b => b.granted g = c.tokens.granted g) : c'.tokens.granted g = c.tokens.granted g :=
    Outcome.Ends.state (I := fun d => d.tokens.granted g = c.tokens.granted g)
      (Chain.ends_onTokens.2 hends) h
  cases q with
  | register asset decimals =>
    refine granted_of_kept (hkept ?_) rfl
    rw [TokenRequest.perform, Action.ends_modify]
    exact TokenBook.granted_register _ _ _ _
  | mint asset holder amount =>
    refine granted_of_kept (hkept ?_) rfl
    exact (TokenBook.mint_spec asset holder amount c.tokens).imp
      (fun _ _ hb => hb.allowance g.asset g.owner g.spender) fun _ _ h => h.elim
  | burn asset holder amount =>
    refine granted_of_kept (hkept ?_) rfl
    exact (TokenBook.burn_spec asset holder amount c.tokens).imp
      (fun _ _ hb => hb.allowance g.asset g.owner g.spender) fun _ _ h => congrArg (·.granted g) h
  | transfer asset sender recipient amount =>
    refine granted_of_kept (hkept ?_) rfl
    exact (TokenBook.transfer_spec asset sender recipient amount c.tokens).imp
      (fun _ _ hb => hb.allowance g.asset g.owner g.spender) fun _ _ h => congrArg (·.granted g) h.1
  | approve asset owner spender amount =>
    have hother : g ≠ ⟨asset, owner, spender⟩ := by
      rintro rfl
      exact hset ⟨amount, _, rfl, rfl⟩
    refine granted_of_kept (hkept ?_) rfl
    rw [TokenRequest.perform, Action.ends_modify]
    exact (TokenBook.granted_approve _ _ _ _ _ _).trans (if_neg hother)
  | transferFrom => exact granted_of_tried (tried_transferFrom h) g

/-- The pool moves tokens by transfers, for which nobody's allowance is needed. -/
theorem granted_pool {q : Lending.PoolRequest} (h : (pool q).after c = some c') :
    c'.tokens.granted g = c.tokens.granted g := by
  obtain ⟨b, hb, rfl⟩ := after_pool h
  have hclosed : Lending.Bank.Closed fun b => b.tokens.granted g = c.tokens.granted g :=
    ⟨fun _ _ _ hb => hb, fun ht hb => (ht.allowance g.asset g.owner g.spender).trans hb⟩
  exact (q.keeps_closed hclosed fun _ _ _ hb => hb).after rfl hb

theorem granted_basket {address : Address} {q : BasketRequest}
    (h : (basket address q).after c = some c') (hset : ¬(basket address q).Sets g c) :
    c'.tokens.granted g = c.tokens.granted g := by
  by_cases hq : ∃ asset spender amount, q = .approve asset spender amount
  · obtain ⟨asset, spender, amount, rfl⟩ := hq
    -- an approval that goes through is one of another grant
    have hends : ((Chain.invokeApprove address asset spender amount).run c).Ends
        (fun _ d => (basket address (.approve asset spender amount)).through c = some d →
          d.tokens.granted g = c.tokens.granted g)
        fun _ d => d.tokens.granted g = c.tokens.granted g := by
      simp only [Chain.invokeApprove, Action.ends_bind, Chain.ends_theBasket, Action.ends_modify,
        implies_true, and_true]
      intro b _ hthrough
      have hother : g ≠ ⟨asset, address, spender⟩ := by
        rintro rfl
        exact hset ⟨amount, _, rfl, hthrough⟩
      rw [TokenBook.granted_approve, if_neg hother]
    rcases Outcome.state?_eq_some h with ⟨a, hrun⟩ | ⟨e, hrun⟩
    · exact hends.done hrun (Action.through_of_done hrun)
    · exact hends.refused hrun
  · have hkeeps : (q.perform address).Keeps
        (Chain.Outside c.pool fun t => t.granted g = c.tokens.granted g) fun _ => True := by
      apply Chain.Outside.basketRequest
      · intro b b' asset holder amount hminted hb
        exact (hminted.allowance g.asset g.owner g.spender).trans hb
      · rintro asset recipient amount - t ht
        refine (TokenBook.transfer_spec asset address recipient amount t).imp
          (fun _ t' h => (h.allowance g.asset g.owner g.spender).trans ht) ?_
        rintro _ _ ⟨rfl, -⟩
        exact ⟨ht, trivial⟩
      · intro asset spender amount happrove
        exact absurd ⟨asset, spender, amount, happrove⟩ hq
    exact (hkeeps.after ⟨rfl, rfl⟩ h).2

theorem granted_venue {q : VenueRequest} (h : (venue q).after c = some c') :
    (c.tokens.granted g).toNat = (venue q).drawn g c + (c'.tokens.granted g).toNat := by
  cases q with
  | setRate send receive numerator denominator =>
    obtain rfl := Option.some.inj h
    exact granted_of_kept rfl rfl
  | swap => exact granted_of_tried (tried_swap h) g

/-- **A request that does not set a grant uses up what it draws on it**, and nothing else. -/
theorem granted_after (h : r.after c = some c') (hset : ¬r.Sets g c) :
    (c.tokens.granted g).toNat = r.drawn g c + (c'.tokens.granted g).toNat := by
  cases r with
  | token q => exact granted_token h hset
  | pool q => exact granted_of_kept (granted_pool h) rfl
  | venue q => exact granted_venue h
  | registry q =>
    obtain rfl := Option.some.inj h
    exact granted_of_kept rfl rfl
  | basket address q => exact granted_of_kept (granted_basket h hset) rfl
  | trade => exact granted_of_tried (tried_trade h) g

/-- **An approval that goes through sets the grant** as high as it says. -/
theorem granted_approval (happroval : r.approval? = some (g, amount))
    (h : r.through c = some c') : c'.tokens.granted g = amount := by
  cases r with
  | token q =>
    cases q with
    | approve asset owner spender amount =>
      obtain ⟨rfl, rfl⟩ := Prod.mk.inj (Option.some.inj happroval)
      obtain rfl := Option.some.inj h
      exact (TokenBook.granted_approve _ _ _ _ _ _).trans (if_pos rfl)
    | _ => cases happroval
  | basket address q =>
    cases q with
    | approve asset spender amount =>
      obtain ⟨rfl, rfl⟩ := Prod.mk.inj (Option.some.inj happroval)
      obtain ⟨a, hrun⟩ := Outcome.through?_eq_some h
      have hends : ((Chain.invokeApprove address asset spender amount).run c).Yields
          fun _ d => d.tokens.granted ⟨asset, address, spender⟩ = amount := by
        simp only [Outcome.Yields, Chain.invokeApprove, Action.ends_bind, Chain.ends_theBasket,
          Action.ends_modify, implies_true, and_true]
        exact fun _ _ => (TokenBook.granted_approve _ _ _ _ _ _).trans (if_pos rfl)
      exact hends.done hrun
    | _ => cases happroval
  | _ => cases happroval

/-- **Every request leaves tokens conserved.** -/
theorem after_conserved (hc : c.tokens.Conserved) (h : r.after c = some c') :
    c'.tokens.Conserved := by
  by_cases hr : ∃ q, r = .pool q
  · obtain ⟨q, rfl⟩ := hr
    obtain ⟨b, hb, rfl⟩ := after_pool h
    have hclosed : Lending.Bank.Closed fun b => b.tokens.Conserved :=
      ⟨fun _ _ _ hb => hb, fun ht hb => ht.conserved hb⟩
    exact (q.keeps_closed hclosed fun _ _ _ hb => hb).after hc hb
  · exact ((TokenBook.stable_conserved fun _ => True).after_outside (fun q hq => hr ⟨q, hq⟩)
      (fun _ _ => trivial) hc h).2

end ChainRequest

/-! ## Lists of requests -/

namespace Chain

variable {step : Chain → ChainRequest → Option Chain} {g : Grant} {c c' d : Chain}

/-- **What is drawn on a grant is what it has become smaller by**, along any list of requests that
does not set it. -/
theorem granted_runs {calls : List ChainRequest} (hunset : Unset g calls c)
    (h : runs ChainRequest.after calls c = some c') :
    (c.tokens.granted g).toNat = drawn g calls c + (c'.tokens.granted g).toNat := by
  induction calls generalizing c with
  | nil =>
    obtain rfl := Option.some.inj h
    exact (Nat.zero_add _).symm
  | cons r rest ih =>
    obtain ⟨d, hd, hrest⟩ := Option.bind_eq_some_iff.1 h
    obtain ⟨hset, hunset⟩ := hunset
    have hstep := ChainRequest.granted_after hd hset
    have hlater := ih (hunset d hd) hrest
    simp only [drawn, hd, Option.map_some, Option.getD_some]
    omega

/-- **Requests use up what is granted**, whatever they are and wherever they start. -/
theorem usesUpGrants (calls : List ChainRequest) (c₀ : Chain) : UsesUpGrants calls c₀ := by
  constructor
  · intro _ r _ _ c c' d _ hdraw hthrough
    exact ChainRequest.draw_made hdraw hthrough
  · intro _ approval between _ _ c c₁ c₂ _ happroved hbetween g amount happroval hunset
    have hset := ChainRequest.granted_approval happroval happroved
    have hdrawn := granted_runs hunset hbetween
    rw [← hset]
    exact hdrawn.symm

/-- One list of requests after another is both together. -/
theorem runs_append (own calls : List ChainRequest) (c : Chain) :
    runs step (own ++ calls) c = runs step own c >>= runs step calls := by
  induction own generalizing c with
  | nil => rfl
  | cons r rest ih =>
    simp only [List.cons_append, runs]
    cases step c r with
    | none => rfl
    | some d => exact ih d

/-- What a chain comes of is a list of requests. -/
theorem Comes.exists_runs {P : ChainRequest → Prop} (h : Comes step P c d) :
    ∃ calls, (∀ r ∈ calls, P r) ∧ runs step calls c = some d := by
  induction h with
  | refl => exact ⟨[], fun r hr => absurd hr List.not_mem_nil, rfl⟩
  | @tail d e _ hstep ih =>
    obtain ⟨calls, hcalls, hruns⟩ := ih
    obtain ⟨r, hr, he⟩ := hstep
    refine ⟨calls ++ [r], fun q hq => ?_, ?_⟩
    · rcases List.mem_append.1 hq with hq | hq
      · exact hcalls q hq
      · exact List.mem_singleton.1 hq ▸ hr
    · rw [runs_append, hruns]
      simp [runs, he]

/-- Requests that all go through do what they would do in any case. -/
theorem runs_after {calls : List ChainRequest} (h : runs ChainRequest.through calls c = some d) :
    runs ChainRequest.after calls c = some d := by
  induction calls generalizing c with
  | nil => exact h
  | cons r rest ih =>
    obtain ⟨e, he, hrest⟩ := Option.bind_eq_some_iff.1 h
    exact Option.bind_eq_some_iff.2 ⟨e, ChainRequest.after_of_through he, ih hrest⟩

end Chain

namespace Leverage

/-! ## Runs of requests of both kinds -/

/-- In every world that can come about tokens are conserved. -/
theorem World.Reachable.conserved {w : World} (hw : w.Reachable) : w.chain.tokens.Conserved := by
  obtain ⟨pool, router, feeRecipient, hmoves⟩ := hw.moves
  exact hmoves.keeps TokenBook.conserved_empty fun _ _ _ _ hc h =>
    ChainRequest.after_conserved hc h

/-- What a run comes down to leads where the run leads. -/
theorem World.Unfolds.runs {requests : List Request} {calls : List ChainRequest} {w w' : World}
    (h : Unfolds requests w calls w') :
    Chain.runs ChainRequest.after calls w.chain = some w'.chain := by
  induction h with
  | nil => rfl
  | chain hafter _ ih => exact Option.bind_eq_some_iff.2 ⟨_, hafter, ih⟩
  | aside _ hchain _ ih => exact hchain ▸ ih
  | desk _ _ _ _ hown _ ih =>
    rw [Chain.runs_append, Chain.runs_after hown]
    exact ih

/-- **Every run comes down to some list of requests to the chain.** -/
theorem World.exists_unfolds {known : Set Lending.MarketParams} {requests : List Request}
    {w w' : World} (hw : w.Orderly known)
    (hknown : ∀ r ∈ requests, ∀ p, r.market? = some p → p ∈ known)
    (h : World.runs requests w = some w') : ∃ calls, Unfolds requests w calls w' := by
  induction requests generalizing w with
  | nil =>
    obtain rfl := Option.some.inj h
    exact ⟨[], .nil w⟩
  | cons r rest ih =>
    obtain ⟨v, hv, hrest⟩ := Option.bind_eq_some_iff.1 h
    have hrest' (hv : v.Orderly known) : ∃ calls, Unfolds rest v calls w' :=
      ih hv (fun q hq => hknown q (List.mem_cons_of_mem r hq)) hrest
    cases r with
    | chain q =>
      obtain ⟨c, hc, rfl⟩ := Option.map_eq_some_iff.1 hv
      obtain ⟨calls, hcalls⟩ := hrest' ⟨ChainRequest.after_tidy hw.tidy hc, hw.records⟩
      exact ⟨q :: calls, .chain hc hcalls⟩
    | desk q =>
      obtain ⟨horderly, hsame | ⟨basket, operation, rfl, hmoved⟩⟩ :=
        DeskRequest.after_spec hw (hknown _ List.mem_cons_self) hv
      · -- what leaves the chain as it is stands for no request to it
        obtain ⟨calls, hcalls⟩ := hrest' horderly
        exact ⟨calls, .aside hv hsame hcalls⟩
      · obtain ⟨calls, hcalls⟩ := hrest' horderly
        obtain ⟨own, hserves, hown⟩ := Chain.Comes.exists_runs hmoved
        exact ⟨own ++ calls, .desk (hw.errand basket) hv rfl hserves hown hcalls⟩

/-- **Tokens are conserved, and allowances are used up.** The token book of a world that can come
about is sound. The run that has led there comes down to requests to the chain, and however it does,
these requests lead there too and use up what is granted. -/
theorem World.runs_conserve {pool router feeRecipient holder owner : Address}
    {settings : Settings} {requests : List Request} {w : World}
    (hrun : World.runs requests (blank pool router feeRecipient holder owner settings) = some w) :
    w.chain.tokens.Sound ∧
    (∃ calls,
      Unfolds requests (blank pool router feeRecipient holder owner settings) calls w) ∧
    ∀ calls, Unfolds requests (blank pool router feeRecipient holder owner settings) calls w →
      Chain.runs ChainRequest.after calls (.create pool router feeRecipient) = some w.chain ∧
      Chain.UsesUpGrants calls (.create pool router feeRecipient) := by
  have hreachable : w.Reachable :=
    ⟨pool, router, feeRecipient, holder, owner, settings, requests, hrun⟩
  have hunfolds := exists_unfolds (orderly_blank Set.univ pool router feeRecipient holder owner
    settings) (fun _ _ _ _ => trivial) hrun
  exact ⟨hreachable.conserved.sound, hunfolds,
    fun calls hcalls => ⟨hcalls.runs, Chain.usesUpGrants calls _⟩⟩

open Deployment in
/-- So it is where ten are minted for the lender, who lets the manager move them, and the manager
moves four to the basket: the lender has them no more and the basket has them, and of ten granted
six are left. -/
theorem World.runs_conserve_of_allowing : ∃ w c₁,
    World.runs [.chain (.token (.mint usdc lender (number 10))),
      .chain (.token (.approve usdc lender manager (number 10))),
      .chain (.token (.transferFrom usdc manager lender Deployment.basket (number 4)))]
      (start .usual) = some w ∧
    w.chain.tokens.Conserved ∧
    Draw.Made ⟨⟨usdc, lender, manager⟩, Deployment.basket, number 4, none⟩ c₁.tokens
      w.chain.tokens ∧
    (w.chain.tokens.balance usdc lender).toNat = 6 ∧
    (w.chain.tokens.balance usdc Deployment.basket).toNat = 4 ∧
    (w.chain.tokens.granted ⟨usdc, lender, manager⟩).toNat = 6 ∧
    Chain.drawn ⟨usdc, lender, manager⟩
      [.token (.transferFrom usdc manager lender Deployment.basket (number 4))] c₁ +
      (w.chain.tokens.granted ⟨usdc, lender, manager⟩).toNat = 10 := by
  have hleft : (do
      let c ← (ChainRequest.token (.mint usdc lender (number 10))).after (start .usual).chain
      let c₁ ← (ChainRequest.token (.approve usdc lender manager (number 10))).through c
      let c₂ ← (ChainRequest.token
        (.transferFrom usdc manager lender Deployment.basket (number 4))).through c₁
      some (decide ((c₂.tokens.balance usdc lender).toNat = 6) &&
        decide ((c₂.tokens.balance usdc Deployment.basket).toNat = 4) &&
        decide ((c₂.tokens.granted ⟨usdc, lender, manager⟩).toNat = 6))) = some true := by
    decide +kernel
  obtain ⟨c, hmint, hleft⟩ := Option.bind_eq_some_iff.1 hleft
  obtain ⟨c₁, happroved, hleft⟩ := Option.bind_eq_some_iff.1 hleft
  obtain ⟨c₂, hdrawn, hleft⟩ := Option.bind_eq_some_iff.1 hleft
  simp only [Option.some.injEq, Bool.and_eq_true, decide_eq_true_eq] at hleft
  obtain ⟨⟨hlender, hbasket⟩, hleft⟩ := hleft
  have happrove := ChainRequest.after_of_through happroved
  have hdraw := ChainRequest.after_of_through hdrawn
  have hrun : World.runs [.chain (.token (.mint usdc lender (number 10))),
      .chain (.token (.approve usdc lender manager (number 10))),
      .chain (.token (.transferFrom usdc manager lender Deployment.basket (number 4)))]
      (start .usual) = some { start .usual with chain := c₂ } := by
    simp only [World.runs, Request.after, hmint, happrove, hdraw, Option.map_some,
      Option.bind_eq_bind, Option.bind_some]
  obtain ⟨hsound, -, hcalls⟩ := World.runs_conserve hrun
  -- the run is its own list of requests: one before the approval, and one after it
  obtain ⟨-, huses⟩ := hcalls _ (.chain hmint (.chain happrove (.chain hdraw (.nil _))))
  have hunset : Chain.Unset ⟨usdc, lender, manager⟩
      [.token (.transferFrom usdc manager lender Deployment.basket (number 4))] c₁ := by
    refine ⟨?_, fun _ _ => trivial⟩
    rintro ⟨amount, c', happroval, -⟩
    cases happroval
  have hbefore : Chain.runs ChainRequest.after [.token (.mint usdc lender (number 10)),
      .token (.approve usdc lender manager (number 10))] (start .usual).chain = some c₁ := by
    simp only [Chain.runs, hmint, happrove, Option.bind_eq_bind, Option.bind_some]
  exact ⟨_, c₁, hrun, hsound.conserved, huses.made [_, _] _ [] rfl c₁ c₂ _ hbefore rfl hdrawn,
    hlender, hbasket, hleft, huses.usedUp [_] _ [_] [] rfl c c₁ c₂
      (Option.bind_eq_some_iff.2 ⟨c, hmint, rfl⟩) happroved
      (Option.bind_eq_some_iff.2 ⟨c₂, hdraw, rfl⟩) _ (number 10) rfl hunset⟩

end Leverage

end LeveredBasket
