/-
The pool (`SimMarket`) has what it owes.

To depositors the pool owes what is not lent out, and to accounts their
collateral. All markets share one address, so an asset may be owed on account of
many of them, as collateral of one and as deposits of another. A call moves the
tokens before it books them, or after; in between there is more at the address
than is owed (`Bank.Spare`), and what there is more is exactly what the call is
about to book or to pay out. A call that stops half way leaves it there.

The markets in play must have names of their own: under the name of another, a
call would move other assets than it books. Names are digests of parameters, so
this asks that no two of the markets in play collide.
-/
import LeveredBasket.Proofs.Lending.Calls
import LeveredBasket.Proofs.Leverage.Worlds

set_option autoImplicit false

namespace LeveredBasket.Lending

/-! ## What is owed -/

namespace Market

variable {m m' : Market} {who : Address} {a : Account}

/-- What depositors own and nobody has borrowed. -/
def idle (m : Market) : Nat := m.totals.supplyAssets.toNat - m.totals.borrowAssets.toNat

/-- What the market owes in an asset. -/
def due (m : Market) (asset : Address) : Nat :=
  countIf (m.params.collateralAsset = asset) (m.held Account.collateral) +
    countIf (m.params.loanAsset = asset) m.idle

/-- What an account has more, all accounts have more. -/
theorem held_collateral_add {n : Nat}
    (h : a.collateral.toNat = (m.account who).collateral.toNat + n) :
    (m.setAccount who a).held Account.collateral = m.held Account.collateral + n := by
  have hheld := m.held_setAccount Account.collateral rfl who a
  omega

theorem held_collateral_sub {n : Nat}
    (h : a.collateral.toNat + n = (m.account who).collateral.toNat) :
    (m.setAccount who a).held Account.collateral + n = m.held Account.collateral := by
  have hheld := m.held_setAccount Account.collateral rfl who a
  omega

theorem Accrued.held {now : Word 64} (h : Accrued now m m')
    (part : Account → Amount) : m'.held part = m.held part := by
  unfold Market.held
  rw [h.accounts]

/-- The same interest on both sides leaves idle what was idle. -/
theorem Accrued.idle {now : Word 64} (h : Accrued now m m') : m'.idle = m.idle := by
  obtain ⟨i, hdebts, hdeposits⟩ := h.interest
  unfold Market.idle
  omega

end Market

/-- What the pool owes in an asset, over all its markets. -/
def Pool.due (p : Pool) (asset : Address) : Nat := p.markets.total fun _ m => m.due asset

/-! ## Custody -/

namespace Bank

variable {known : Set MarketParams} {address : Address} {b b' : Bank} {params : MarketParams}
variable {m m' : Market} {tokens : TokenBook}

/-- **The pool has what it owes**, in every asset. Its markets go by the names of their parameters,
which are known, and every token is somebody's. -/
structure Custody (known : Set MarketParams) (address : Address) (b : Bank) : Prop where
  located : b.pool.address = address
  conserved : b.tokens.Conserved
  named : ∀ id m, b.pool.markets.get? id = some m → m.params ∈ known ∧ id = m.params.id
  funded : ∀ asset, b.pool.due asset ≤ (b.tokens.balance asset address).toNat

/-- **More than it owes**: the market of these parameters is `m`, and the pool has so much of its
collateral asset to spare, and so much of its loan asset. -/
structure Spare (known : Set MarketParams) (address : Address) (params : MarketParams) (m : Market)
    (collateral loan : Nat) (b : Bank) : Prop where
  custody : b.Custody known address
  found : b.pool.markets.get? params.id = some m
  own : m.params = params
  funded : ∀ asset, b.pool.due asset + (countIf (params.collateralAsset = asset) collateral +
    countIf (params.loanAsset = asset) loan) ≤ (b.tokens.balance asset address).toNat

/-- **Where `I` holds, the call leaves custody in order**, wherever it stops. Only a call that pays
in is refused for want of tokens. -/
def Guarded (known : Set MarketParams) (address : Address) (paying : Prop) (I : Bank → Prop)
    {α : Type} (x : Call α) : Prop :=
  ∀ b, I b → (x.run b).Ends (fun _ b' => b'.Custody known address)
    fun e b' => b'.Custody known address ∧ ∀ reason, e = .transfer reason → paying

/-- Every token is somebody's. -/
abbrev TokensConserved (b : Bank) : Prop := b.tokens.Conserved

/-- A market that is looked up is the one of these parameters, because no other has its name. -/
theorem Custody.spare (hb : b.Custody known address) (hknown : Set.InjOn MarketParams.id known)
    (hparams : params ∈ known) (hm : b.pool.markets.get? params.id = some m) :
    Spare known address params m 0 0 b := by
  obtain ⟨hm', hid⟩ := hb.named params.id m hm
  refine ⟨hb, hm, (hknown hparams hm' hid).symm, fun asset => ?_⟩
  simpa using hb.funded asset

/-- What a booking does to what is owed. -/
theorem due_booked (b : Bank) (params : MarketParams) (m' : Market) (asset : Address) :
    (b.booked params m').pool.due asset +
        (b.pool.markets.get? params.id).elim 0 (fun m => m.due asset) =
      b.pool.due asset + m'.due asset :=
  b.pool.markets.total_insert (fun _ m => m.due asset) params.id m'

theorem Custody.named_booked (hb : b.Custody known address) (hparams : params ∈ known)
    (hm' : m'.params = params) {id : MarketId} {m : Market}
    (h : (b.booked params m').pool.markets.get? id = some m) :
    m.params ∈ known ∧ id = m.params.id := by
  rw [get?_booked] at h
  split at h
  case isTrue hid =>
    obtain rfl := Option.some.inj h
    rw [hm']
    exact ⟨hparams, hid⟩
  case isFalse => exact hb.named id m h

/-- Less may be spared than there is. -/
theorem Spare.mono {c c' l l' : Nat} (hb : Spare known address params m c l b) (hc : c' ≤ c)
    (hl : l' ≤ l) : Spare known address params m c' l' b := by
  refine ⟨hb.custody, hb.found, hb.own, fun asset => ?_⟩
  have hfunded := hb.funded asset
  have hcount : countIf (params.collateralAsset = asset) c' ≤ _ := countIf_mono hc
  have hcount' : countIf (params.loanAsset = asset) l' ≤ _ := countIf_mono hl
  omega

/-- **A booking** may owe what there was to spare. -/
theorem Spare.booked {c l : Nat} (hb : Spare known address params m c l b) (c' l' : Nat)
    (hm' : m'.params = m.params)
    (hheld : m'.held Account.collateral + c' ≤ m.held Account.collateral + c)
    (hidle : m'.idle + l' ≤ m.idle + l) :
    Spare known address params m' c' l' (b.booked params m') := by
  have hown : m'.params = params := hm'.trans hb.own
  have hfunded (asset : Address) : (b.booked params m').pool.due asset +
      (countIf (params.collateralAsset = asset) c' + countIf (params.loanAsset = asset) l') ≤
        (b.tokens.balance asset address).toNat := by
    -- the other markets owe what they owed, so only the booked one counts
    have hdue := due_booked b params m' asset
    have hbefore := hb.funded asset
    rw [hb.found, Option.elim, Market.due, Market.due, hown, hb.own] at hdue
    have hcount : countIf (params.collateralAsset = asset) (m'.held Account.collateral + c') ≤
      countIf (params.collateralAsset = asset) (m.held Account.collateral + c) := countIf_mono hheld
    have hcount' : countIf (params.loanAsset = asset) (m'.idle + l') ≤
      countIf (params.loanAsset = asset) (m.idle + l) := countIf_mono hidle
    simp only [countIf_add] at hcount hcount'
    omega
  have hknown : params ∈ known := by
    rw [← hb.own]
    exact (hb.custody.named _ _ hb.found).1
  have hcustody : (b.booked params m').Custody known address := by
    refine ⟨hb.custody.located, hb.custody.conserved, ?_, ?_⟩
    · intro id m₁ h
      exact hb.custody.named_booked hknown hown h
    · intro asset
      exact (Nat.le_add_right _ _).trans (hfunded asset)
  exact ⟨hcustody, get?_booked_self, hown, hfunded⟩

/-- Tokens are moved, and what is spared with them. -/
theorem Spare.moved {c c' l l' : Nat} (hb : Spare known address params m c l b)
    (htokens : tokens.Conserved)
    (hbalance : ∀ asset, (b.tokens.balance asset address).toNat +
      (countIf (params.collateralAsset = asset) c' + countIf (params.loanAsset = asset) l') ≤
        (tokens.balance asset address).toNat +
          (countIf (params.collateralAsset = asset) c + countIf (params.loanAsset = asset) l)) :
    Spare known address params m c' l' { b with tokens := tokens } := by
  have hfunded (asset : Address) : b.pool.due asset +
      (countIf (params.collateralAsset = asset) c' + countIf (params.loanAsset = asset) l') ≤
        (tokens.balance asset address).toNat := by
    have hbefore := hb.funded asset
    have hmoved := hbalance asset
    omega
  have hcustody : ({ b with tokens := tokens } : Bank).Custody known address := by
    refine ⟨hb.custody.located, htokens, hb.custody.named, ?_⟩
    intro asset
    exact (Nat.le_add_right _ _).trans (hfunded asset)
  exact ⟨hcustody, hb.found, hb.own, hfunded⟩

section Moves

variable {c l : Nat} {other : Address} {amount : Amount}

/-- What somebody else pays in of the loan asset is to spare. -/
theorem Spare.loanIn (hb : Spare known address params m c l b) (hother : other ≠ address)
    (h : TokenBook.Transferred params.loanAsset other address amount b.tokens tokens) :
    Spare known address params m c (l + amount.toNat) { b with tokens := tokens } := by
  refine hb.moved (h.conserved hb.custody.conserved) fun asset => ?_
  rw [h.received hother, countIf_add]
  omega

theorem Spare.collateralIn (hb : Spare known address params m c l b) (hother : other ≠ address)
    (h : TokenBook.Transferred params.collateralAsset other address amount b.tokens tokens) :
    Spare known address params m (c + amount.toNat) l { b with tokens := tokens } := by
  refine hb.moved (h.conserved hb.custody.conserved) fun asset => ?_
  rw [h.received hother, countIf_add]
  omega

/-- What is to spare can be paid out. -/
theorem Spare.loanOut (hb : Spare known address params m c (l + amount.toNat) b)
    (h : TokenBook.Transferred params.loanAsset address other amount b.tokens tokens) :
    Spare known address params m c l { b with tokens := tokens } := by
  refine hb.moved (h.conserved hb.custody.conserved) fun asset => ?_
  have hsent := h.sent asset
  rw [countIf_add]
  omega

theorem Spare.collateralOut (hb : Spare known address params m (c + amount.toNat) l b)
    (h : TokenBook.Transferred params.collateralAsset address other amount b.tokens tokens) :
    Spare known address params m c l { b with tokens := tokens } := by
  refine hb.moved (h.conserved hb.custody.conserved) fun asset => ?_
  have hsent := h.sent asset
  rw [countIf_add]
  omega

end Moves

/-! ## Calls, guarded -/

section Guarded

variable {α β : Type} {I : Bank → Prop} {paying : Prop} {rest : α → Call β} {e : LendingError}

theorem guarded_pure (hI : ∀ b, I b → b.Custody known address) (a : α) :
    Guarded known address paying I (pure a) := hI

theorem guarded_imp {J : Bank → Prop} {x : Call α} (h : ∀ b, I b → J b)
    (hx : Guarded known address paying J x) : Guarded known address paying I x := by
  intro b hb
  exact hx b (h b hb)

/-- After a guarded call custody is in order. -/
theorem guarded_bind {x : Call α} (hx : Guarded known address paying I x)
    (h : ∀ a, Guarded known address paying (Custody known address) (rest a)) :
    Guarded known address paying I (x >>= rest) := by
  intro b hb
  rw [Action.ends_bind]
  apply (hx b hb).imp
  · intro a b' hb'
    exact h a b' hb'
  · intro e b' he
    exact he

theorem guarded_read {f : Bank → α} (h : ∀ a, Guarded known address paying I (rest a)) :
    Guarded known address paying I (Action.read f >>= rest) := by
  intro b hb
  rw [Action.ends_bind, Action.ends_read]
  exact h (f b) b hb

theorem guarded_require {p : Prop} [Decidable p] {rest : Call β}
    (he : ∀ reason, e ≠ .transfer reason) (hI : ∀ b, I b → b.Custody known address)
    (h : p → Guarded known address paying I rest) :
    Guarded known address paying I (Action.require p e >>= fun _ => rest) := by
  intro b hb
  rw [Action.ends_bind, Action.ends_require]
  constructor
  · intro hp
    exact h hp b hb
  · intro _
    exact ⟨hI b hb, fun reason hr => absurd hr (he reason)⟩

theorem guarded_compute {x : Except MathError α} (hI : ∀ b, I b → b.Custody known address)
    (h : ∀ a, x = .ok a → Guarded known address paying I (rest a)) :
    Guarded known address paying I (compute x >>= rest) := by
  intro b hb
  rw [Action.ends_bind, ends_compute]
  constructor
  · intro a ha
    exact h a ha b hb
  · intro e _
    refine ⟨hI b hb, fun reason hr => ?_⟩
    cases hr

/-- From the market's look-up on, nothing is to spare yet. -/
theorem guarded_market (hknown : Set.InjOn MarketParams.id known) (hparams : params ∈ known)
    {rest : Market → Call β}
    (h : ∀ m, Guarded known address paying (Spare known address params m 0 0) (rest m)) :
    Guarded known address paying (Custody known address) (market params >>= rest) := by
  intro b hb
  rw [Action.ends_bind, ends_market]
  constructor
  · intro m hm
    exact h m b (hb.spare hknown hparams hm)
  · intro _
    refine ⟨hb, fun reason hr => ?_⟩
    cases hr

/-- The address that is read is the pool's. -/
theorem guarded_address {rest : Address → Call β} {c l : Nat}
    (h : Guarded known address paying (Spare known address params m c l) (rest address)) :
    Guarded known address paying (Spare known address params m c l)
      (Action.read (·.pool.address) >>= rest) := by
  intro b hb
  rw [Action.ends_bind, Action.ends_read, hb.custody.located]
  exact h b hb

theorem guarded_book {c l : Nat} (c' l' : Nat) {rest : Call β} (hm' : m'.params = m.params)
    (hheld : m'.held Account.collateral + c' ≤ m.held Account.collateral + c)
    (hidle : m'.idle + l' ≤ m.idle + l)
    (h : Guarded known address paying (Spare known address params m' c' l') rest) :
    Guarded known address paying (Spare known address params m c l)
      (book params m' >>= fun _ => rest) := by
  intro b hb
  rw [Action.ends_bind, ends_book]
  exact h _ (hb.booked c' l' hm' hheld hidle)

theorem guarded_last {c l : Nat} (hm' : m'.params = m.params)
    (hheld : m'.held Account.collateral ≤ m.held Account.collateral + c)
    (hidle : m'.idle ≤ m.idle + l) :
    Guarded known address paying (Spare known address params m c l) (book params m') := by
  intro b hb
  rw [ends_book]
  exact (hb.booked 0 0 hm' hheld hidle).custody

section Moves

variable {c l : Nat} {other : Address} {amount : Amount} {rest : Call β}

theorem guarded_loanIn (hpaying : paying) (hother : other ≠ address)
    (h : Guarded known address paying (Spare known address params m c (l + amount.toNat)) rest) :
    Guarded known address paying (Spare known address params m c l)
      (move params.loanAsset other address amount >>= fun _ => rest) := by
  intro b hb
  refine Action.ends_bind.2 ((move_spec _ _ _ _ b).imp ?_ ?_)
  · rintro _ _ ⟨t, ht, rfl⟩
    exact h _ (hb.loanIn hother ht)
  · rintro _ _ ⟨-, rfl, -⟩
    exact ⟨hb.custody, fun _ _ => hpaying⟩

theorem guarded_collateralIn (hpaying : paying) (hother : other ≠ address)
    (h : Guarded known address paying (Spare known address params m (c + amount.toNat) l) rest) :
    Guarded known address paying (Spare known address params m c l)
      (move params.collateralAsset other address amount >>= fun _ => rest) := by
  intro b hb
  refine Action.ends_bind.2 ((move_spec _ _ _ _ b).imp ?_ ?_)
  · rintro _ _ ⟨t, ht, rfl⟩
    exact h _ (hb.collateralIn hother ht)
  · rintro _ _ ⟨-, rfl, -⟩
    exact ⟨hb.custody, fun _ _ => hpaying⟩

/-- What is to spare is there. -/
theorem Spare.covers_loan {b : Bank} (hb : Spare known address params m c (l + amount.toNat) b) :
    amount.toNat ≤ (b.tokens.balance params.loanAsset address).toNat := by
  have hfunded := hb.funded params.loanAsset
  rw [countIf_pos rfl] at hfunded
  omega

theorem Spare.covers_collateral {b : Bank}
    (hb : Spare known address params m (c + amount.toNat) l b) :
    amount.toNat ≤ (b.tokens.balance params.collateralAsset address).toNat := by
  have hfunded := hb.funded params.collateralAsset
  rw [countIf_pos rfl] at hfunded
  omega

/-- A payment of what is to spare is never refused. -/
theorem guarded_loanOut
    (h : Guarded known address paying (Spare known address params m c l) rest) :
    Guarded known address paying (Spare known address params m c (l + amount.toNat))
      (move params.loanAsset address other amount >>= fun _ => rest) := by
  intro b hb
  refine Action.ends_bind.2 ((move_spec _ _ _ _ b).imp ?_ ?_)
  · rintro _ _ ⟨t, ht, rfl⟩
    exact h _ (hb.loanOut ht)
  · rintro _ _ ⟨-, rfl, hshort⟩
    exact absurd hb.covers_loan (Nat.not_le.2 hshort)

theorem guarded_collateralOut :
    Guarded known address paying (Spare known address params m (c + amount.toNat) l)
      (move params.collateralAsset address other amount) := by
  intro b hb
  refine (move_spec _ _ _ _ b).imp ?_ ?_
  · rintro _ _ ⟨t, ht, rfl⟩
    exact (hb.collateralOut ht).custody
  · rintro _ _ ⟨-, rfl, hshort⟩
    exact absurd hb.covers_collateral (Nat.not_le.2 hshort)

/-- Collateral may be paid out before it is booked as gone, if the booking follows at once. -/
theorem guarded_seize (hpaying : paying) (hm' : m'.params = m.params)
    (hheld : m'.held Account.collateral + amount.toNat ≤ m.held Account.collateral)
    (hidle : m'.idle ≤ m.idle)
    (h : Guarded known address paying (Spare known address params m' 0 l) rest) :
    Guarded known address paying (Spare known address params m 0 l)
      (move params.collateralAsset address other amount >>= fun _ =>
        book params m' >>= fun _ => rest) := by
  intro b hb
  refine Action.ends_bind.2 ((move_spec _ _ _ _ b).imp ?_ ?_)
  · rintro _ _ ⟨t, ht, rfl⟩
    -- paying first and booking then comes to the same as booking first and paying then
    have hbooked : Spare known address params m' (0 + amount.toNat) l (b.booked params m') :=
      hb.booked _ _ hm' (by omega) (by omega)
    rw [Action.ends_bind, ends_book]
    exact h _ (hbooked.collateralOut ht)
  · rintro _ _ ⟨-, rfl, -⟩
    exact ⟨hb.custody, fun _ _ => hpaying⟩

end Moves

/-! ## Every call is guarded -/

section Calls

variable (hknown : Set.InjOn MarketParams.id known) (hparams : params ∈ known)

include hknown hparams

theorem guarded_accrue :
    Guarded known address paying (Custody known address) (accrue params) := by
  intro b hb
  refine (accrue_spec params b).imp ?_ ?_
  · rintro _ _ ⟨m, m', hm, haccrued, rfl⟩
    have hspare := hb.spare hknown hparams hm
    exact (hspare.booked 0 0 haccrued.params (haccrued.held _).le haccrued.idle.le).custody
  · rintro e _ ⟨-, he, rfl | ⟨m, debt, hm, hdebt, rfl⟩⟩
    · exact ⟨hb, fun reason hr => absurd hr (he reason)⟩
    · have hspare := hb.spare hknown hparams hm
      refine ⟨(hspare.booked 0 0 ?_ ?_ ?_).custody, fun reason hr => absurd hr (he reason)⟩
      · rfl
      · exact Nat.le_refl _
      · exact Nat.sub_le_sub_left hdebt _

theorem guarded_setRate (rate : Amount) :
    Guarded known address paying (Custody known address) (setRate params rate) := by
  refine guarded_bind (guarded_accrue hknown hparams) fun _ => ?_
  refine guarded_market hknown hparams fun m => ?_
  exact guarded_last rfl (Nat.le_refl _) (Nat.le_refl _)

theorem guarded_supply {lender : Address} (hlender : lender ≠ address) (assets : Amount) :
    Guarded known address True (Custody known address) (supply params lender assets) := by
  refine guarded_require (by simp) (fun _ hb => hb) fun _ => ?_
  refine guarded_bind (guarded_accrue hknown hparams) fun _ => ?_
  refine guarded_market hknown hparams fun m => ?_
  refine guarded_compute (fun _ hb => hb.custody) fun shares _ => guarded_address ?_
  -- from here on the deposit is at the pool, and is to spare until it is booked
  refine guarded_loanIn trivial hlender ?_
  refine guarded_compute (fun _ hb => hb.custody) fun supplyAssets hassets => ?_
  have hassets : supplyAssets.toNat = m.totals.supplyAssets.toNat + assets.toNat :=
    Amount.add_eq_ok.1 hassets
  refine guarded_book 0 0 rfl (Nat.le_refl _) ?_ ?_
  · change supplyAssets.toNat - m.totals.borrowAssets.toNat + 0 ≤
      m.totals.supplyAssets.toNat - m.totals.borrowAssets.toNat + (0 + assets.toNat)
    omega
  -- shares are not owed in any asset
  refine guarded_compute (fun _ hb => hb.custody) fun supplyShares _ => ?_
  refine guarded_book 0 0 rfl (Nat.le_refl _) (Nat.le_refl _) ?_
  refine guarded_compute (fun _ hb => hb.custody) fun held _ => ?_
  refine guarded_book 0 0 rfl ?_ (Nat.le_refl _) (guarded_pure (fun _ hb => hb.custody) _)
  exact Nat.le_of_eq (Market.held_collateral_add (m := m) (n := 0) rfl)

theorem guarded_supplyCollateral {who : Address} (hwho : who ≠ address) (amount : Amount) :
    Guarded known address True (Custody known address) (supplyCollateral params who amount) := by
  refine guarded_require (by simp) (fun _ hb => hb) fun _ => ?_
  refine guarded_market hknown hparams fun m => guarded_address ?_
  refine guarded_collateralIn trivial hwho ?_
  refine guarded_compute (fun _ hb => hb.custody) fun collateral hcollateral => ?_
  have hcollateral : collateral.toNat = (m.account who).collateral.toNat + amount.toNat :=
    Amount.add_eq_ok.1 hcollateral
  refine guarded_last rfl ?_ (Nat.le_refl _)
  rw [Market.held_collateral_add hcollateral, Nat.zero_add]

theorem guarded_withdrawCollateral (who : Address) (amount : Amount) (receiver : Address) :
    Guarded known address paying (Custody known address)
      (withdrawCollateral params who amount receiver) := by
  refine guarded_require (by simp) (fun _ hb => hb) fun _ => ?_
  refine guarded_bind (guarded_accrue hknown hparams) fun _ => ?_
  refine guarded_market hknown hparams fun m => guarded_read fun price => ?_
  refine guarded_require (by simp) (fun _ hb => hb.custody) fun hle => ?_
  have hleft : ((m.account who).collateral.truncatedSub amount).toNat + amount.toNat =
      (m.account who).collateral.toNat := Nat.sub_add_cancel hle
  -- the account gives up the collateral before it is paid out
  refine guarded_book (0 + amount.toNat) 0 rfl ?_ (Nat.le_refl _) ?_
  · rw [Nat.zero_add, Market.held_collateral_sub hleft]
    exact Nat.le_refl _
  refine guarded_compute (fun _ hb => hb.custody) fun healthy _ => ?_
  refine guarded_require (by simp) (fun _ hb => hb.custody) fun _ => guarded_address ?_
  exact guarded_collateralOut

theorem guarded_borrow (who : Address) (assets : Amount) (receiver : Address) :
    Guarded known address paying (Custody known address) (borrow params who assets receiver) := by
  refine guarded_require (by simp) (fun _ hb => hb) fun _ => ?_
  refine guarded_bind (guarded_accrue hknown hparams) fun _ => ?_
  refine guarded_market hknown hparams fun m => guarded_read fun price => ?_
  refine guarded_compute (fun _ hb => hb.custody) fun shares _ => ?_
  refine guarded_compute (fun _ hb => hb.custody) fun borrowAssets hassets => ?_
  have hassets : borrowAssets.toNat = m.totals.borrowAssets.toNat + assets.toNat :=
    Amount.add_eq_ok.1 hassets
  -- the debt comes out of what is idle; whether there is enough turns out only later
  let lent := m.idle - (m.totals.supplyAssets.toNat - borrowAssets.toNat)
  have hlent : m.totals.supplyAssets.toNat - borrowAssets.toNat + lent ≤ m.idle := by
    have hidle : m.idle = m.totals.supplyAssets.toNat - m.totals.borrowAssets.toNat := rfl
    omega
  refine guarded_book 0 lent rfl (Nat.le_refl _) hlent ?_
  refine guarded_compute (fun _ hb => hb.custody) fun borrowShares _ => ?_
  refine guarded_book 0 lent rfl (Nat.le_refl _) (Nat.le_refl _) ?_
  refine guarded_compute (fun _ hb => hb.custody) fun owed _ => ?_
  refine guarded_book 0 lent rfl ?_ (Nat.le_refl _) ?_
  · exact Nat.le_of_eq (Market.held_collateral_add (m := m) (n := 0) rfl)
  refine guarded_compute (fun _ hb => hb.custody) fun healthy _ => ?_
  refine guarded_require (by simp) (fun _ hb => hb.custody) fun _ => ?_
  -- there was enough, so what has been lent out is all of the amount
  refine guarded_require (by simp) (fun _ hb => hb.custody) fun hliquid => guarded_address ?_
  have hliquid : borrowAssets.toNat ≤ m.totals.supplyAssets.toNat := hliquid
  have hcovered : 0 + assets.toNat ≤ lent := by
    have hidle : m.idle = m.totals.supplyAssets.toNat - m.totals.borrowAssets.toNat := rfl
    omega
  refine guarded_imp (fun _ hb => hb.mono (Nat.le_refl _) hcovered) ?_
  exact guarded_loanOut (guarded_pure (fun _ hb => hb.custody) _)

omit hknown hparams in
/-- What has been paid in is at most what the total owes less. -/
theorem guarded_settle (m : Market) (moved : Movement) :
    Guarded known address paying (Spare known address params m 0 (0 + moved.assets.toNat)) (do
      settle params m moved
      pure moved) := by
  rw [settle, bind_assoc]
  refine guarded_compute (fun _ hb => hb.custody) fun borrowShares _ => ?_
  refine guarded_book 0 0 rfl (Nat.le_refl _) ?_ (guarded_pure (fun _ hb => hb.custody) _)
  -- where less is owed in total than has been paid in, the rest stays to spare
  change m.totals.supplyAssets.toNat - (m.totals.borrowAssets.toNat - moved.assets.toNat) + 0 ≤
    m.totals.supplyAssets.toNat - m.totals.borrowAssets.toNat + (0 + moved.assets.toNat)
  omega

theorem guarded_repay {who : Address} (hwho : who ≠ address) (amount : RepayAmount) :
    Guarded known address True (Custody known address) (repay params who amount) := by
  refine guarded_bind (guarded_accrue hknown hparams) fun _ => ?_
  refine guarded_market hknown hparams fun m => ?_
  refine guarded_compute (fun _ hb => hb.custody) fun moved _ => ?_
  refine guarded_require (by simp) (fun _ hb => hb.custody) fun _ => ?_
  refine guarded_require (by simp) (fun _ hb => hb.custody) fun _ => guarded_address ?_
  refine guarded_loanIn trivial hwho ?_
  refine guarded_book 0 _ rfl ?_ (Nat.le_refl _) (guarded_settle _ moved)
  exact Nat.le_of_eq (Market.held_collateral_add (m := m) (n := 0) rfl)

theorem guarded_liquidate (borrower : Address) (seized repaidShares : Amount)
    {liquidator : Address} (hliquidator : liquidator ≠ address) :
    Guarded known address True (Custody known address)
      (liquidate params borrower seized repaidShares liquidator) := by
  refine guarded_bind (guarded_accrue hknown hparams) fun _ => ?_
  refine guarded_market hknown hparams fun m => guarded_read fun price => ?_
  refine guarded_compute (fun _ hb => hb.custody) fun healthy _ => ?_
  refine guarded_require (by simp) (fun _ hb => hb.custody) fun _ => ?_
  refine guarded_compute (fun _ hb => hb.custody) fun moved _ => ?_
  refine guarded_require (by simp) (fun _ hb => hb.custody) fun _ => ?_
  refine guarded_require (by simp) (fun _ hb => hb.custody) fun hle => guarded_address ?_
  have hleft : ((m.account borrower).collateral.truncatedSub seized).toNat + seized.toNat =
      (m.account borrower).collateral.toNat := Nat.sub_add_cancel hle
  refine guarded_loanIn trivial hliquidator ?_
  refine guarded_seize trivial rfl ?_ (Nat.le_refl _) (guarded_settle _ moved)
  exact Nat.le_of_eq (Market.held_collateral_sub hleft)

end Calls

theorem Guarded.keeps {x : Call α} (h : Guarded known address True (Custody known address) x) :
    x.Keeps (Custody known address) fun _ => True := by
  intro b hb
  apply (h b hb).imp
  · intro a b' hb'
    exact hb'
  · rintro e b' ⟨hb', -⟩
    exact ⟨hb', trivial⟩

end Guarded

/-- A market that is opened owes nothing, whatever it takes the place of. -/
theorem Custody.opened (hb : b.Custody known address) (hparams : params ∈ known) (rate : Amount) :
    (b.booked params ⟨params, .opened b.pool.now, .empty, rate⟩).Custody known address := by
  refine ⟨hb.located, hb.conserved, fun _ _ h => hb.named_booked hparams rfl h, ?_⟩
  intro asset
  have hdue := due_booked b params ⟨params, .opened b.pool.now, .empty, rate⟩ asset
  have hnone : Market.due ⟨params, .opened b.pool.now, .empty, rate⟩ asset = 0 := by
    simp [Market.due, Market.held, Market.idle, Totals.opened]
  have hbefore := hb.funded asset
  rw [booked_tokens]
  omega

/-! ## Calls that come to an end

A transfer aborts where the recipient has no room. While every token is
somebody's there is always room, so that calls on the pool come to an end. -/

section Finishes

variable {I : Bank → Prop}

theorem finishes_compute {α : Type} (x : Except MathError α) : (compute x).Finishes I :=
  .ofExcept _

theorem finishes_market (params : MarketParams) : (market params).Finishes I :=
  .bind (.read _) fun _ => .orRefuse _ _

theorem finishes_book (hI : ∀ b params m, I b → I (b.booked params m)) (params : MarketParams)
    (m : Market) : (book params m).Finishes I := .modify fun b hb => hI b params m hb

theorem finishes_move (asset sender recipient : Address) (amount : Amount) :
    (move asset sender recipient amount).Finishes TokensConserved := by
  intro b hb
  refine ⟨?_, (move_spec asset sender recipient amount b).imp ?_ fun _ _ _ => trivial⟩
  · exact Action.mapError_ne_aborted (Action.within_ne_aborted (TokenBook.transfer_ne_aborted hb))
  · rintro _ _ ⟨t, ht, rfl⟩
    exact ht.conserved hb

/-- Interest moves no tokens, so that it never aborts. -/
theorem finishes_accrue (hI : ∀ b params m, I b → I (b.booked params m)) (params : MarketParams) :
    (accrue params).Finishes I := by
  refine .bind (finishes_market _) fun m => .bind (.read _) fun now => .ite (.pure _) ?_
  refine .bind (finishes_compute _) fun growth => .bind (finishes_compute _) fun interest => ?_
  refine .bind (finishes_compute _) fun debts => .bind (finishes_book hI _ _) fun _ => ?_
  exact .bind (finishes_compute _) fun deposits => finishes_book hI _ _

theorem finishes_withdrawCollateral (params : MarketParams) (who : Address) (amount : Amount)
    (receiver : Address) :
    (withdrawCollateral params who amount receiver).Finishes TokensConserved := by
  have hbooked (b : Bank) (params : MarketParams) (m : Market) (hb : b.TokensConserved) :
      (b.booked params m).TokensConserved := hb
  refine .bind (.require _ _) fun _ => .bind (finishes_accrue hbooked _) fun _ => ?_
  refine .bind (finishes_market _) fun m => .bind (.read _) fun price => ?_
  refine .bind (.require _ _) fun _ => .bind (finishes_book hbooked _ _) fun _ => ?_
  refine .bind (finishes_compute _) fun healthy => .bind (.require _ _) fun _ => ?_
  exact .bind (.read _) fun pool => finishes_move _ _ _ _

theorem finishes_borrow (params : MarketParams) (who : Address) (assets : Amount)
    (receiver : Address) : (borrow params who assets receiver).Finishes TokensConserved := by
  have hbooked (b : Bank) (params : MarketParams) (m : Market) (hb : b.TokensConserved) :
      (b.booked params m).TokensConserved := hb
  refine .bind (.require _ _) fun _ => .bind (finishes_accrue hbooked _) fun _ => ?_
  refine .bind (finishes_market _) fun m => .bind (.read _) fun price => ?_
  refine .bind (finishes_compute _) fun shares => .bind (finishes_compute _) fun debts => ?_
  refine .bind (finishes_book hbooked _ _) fun _ => ?_
  refine .bind (finishes_compute _) fun borrowShares => ?_
  refine .bind (finishes_book hbooked _ _) fun _ => .bind (finishes_compute _) fun owed => ?_
  refine .bind (finishes_book hbooked _ _) fun _ => .bind (finishes_compute _) fun healthy => ?_
  refine .bind (.require _ _) fun _ => .bind (.require _ _) fun _ => .bind (.read _) fun pool => ?_
  exact .bind (finishes_move _ _ _ _) fun _ => .pure _

end Finishes

end Bank

/-! ## Runs -/

section Runs

variable {known : Set MarketParams} {address : Address}

/-- **Every request to the pool keeps custody**, if its market is in play and somebody else pays. -/
theorem PoolRequest.keepsCustody (hknown : Set.InjOn MarketParams.id known) (r : PoolRequest)
    (hmarket : ∀ p, r.market? = some p → p ∈ known)
    (hpayer : ∀ a, r.payer? = some a → a ≠ address) :
    r.perform.Keeps (Bank.Custody known address) fun _ => True := by
  cases r with
  | createMarket params rate => exact fun _ hb => hb.opened (hmarket _ rfl) rate
  | setRate params rate => exact (Bank.guarded_setRate hknown (hmarket _ rfl) rate).keeps
  | setPrice oracle price => exact fun _ hb => ⟨hb.located, hb.conserved, hb.named, hb.funded⟩
  | advance seconds =>
    intro b hb
    simp only [perform, Action.ends_bind, Action.ends_read, Action.ends_orAbort,
      Action.ends_modify]
    intro pool hpool
    obtain ⟨now, -, rfl⟩ := Option.map_eq_some_iff.1 hpool
    exact ⟨hb.located, hb.conserved, hb.named, hb.funded⟩
  | accrue params => exact (Bank.guarded_accrue hknown (hmarket _ rfl)).keeps
  | supply params lender assets =>
    exact .bind (Bank.guarded_supply hknown (hmarket _ rfl) (hpayer _ rfl) assets).keeps
      fun _ => .pure _
  | supplyCollateral params who amount =>
    exact (Bank.guarded_supplyCollateral hknown (hmarket _ rfl) (hpayer _ rfl) amount).keeps
  | withdrawCollateral params who amount receiver =>
    exact (Bank.guarded_withdrawCollateral hknown (hmarket _ rfl) who amount receiver).keeps
  | borrow params who assets receiver =>
    exact .bind (Bank.guarded_borrow hknown (hmarket _ rfl) who assets receiver).keeps
      fun _ => .pure _
  | repay params who amount =>
    exact .bind (Bank.guarded_repay hknown (hmarket _ rfl) (hpayer _ rfl) amount).keeps
      fun _ => .pure _
  | liquidate params borrower seized repaidShares liquidator =>
    exact .bind (Bank.guarded_liquidate hknown (hmarket _ rfl) borrower seized repaidShares
      (hpayer _ rfl)).keeps fun _ => .pure _

/-- **Every request to the chain keeps custody**, on the same terms. -/
theorem after_custody (hknown : Set.InjOn MarketParams.id known) {r : ChainRequest}
    (hmarket : ∀ p, r.market? = some p → p ∈ known) (hpayer : ∀ a, r.payer? = some a → a ≠ address)
    {c c' : Chain} (hc : c.toBank.Custody known address) (h : r.after c = some c') :
    c'.toBank.Custody known address := by
  by_cases hr : ∃ q, r = .pool q
  · obtain ⟨q, rfl⟩ := hr
    obtain ⟨b, hb, rfl⟩ := ChainRequest.after_pool h
    exact (q.keepsCustody hknown hmarket hpayer).after hc hb
  · -- no other request touches the pool, and who pays is not the pool's address
    have hstable := (TokenBook.stable_conserved (· ≠ address)).and
      (TokenBook.stable_atLeast address c.pool.due)
    obtain ⟨hpool, hconserved, hleast⟩ := hstable.after_outside (fun q hq => hr ⟨q, hq⟩) hpayer
      ⟨hc.conserved, hc.funded⟩ h
    refine ⟨?_, hconserved, ?_, ?_⟩
    · rw [hpool]
      exact hc.located
    · rw [hpool]
      exact hc.named
    · rw [hpool]
      exact hleast

theorem custody_create (known : Set MarketParams) (address router feeRecipient : Address) :
    (Chain.create address router feeRecipient).toBank.Custody known address := by
  refine ⟨rfl, TokenBook.conserved_empty, fun id m hm => ?_, fun asset => Nat.zero_le _⟩
  rw [Chain.create, Pool.create, FiniteMap.get?_empty] at hm
  cases hm

end Runs

end LeveredBasket.Lending

namespace LeveredBasket.Leverage

open Lending (Bank MarketParams)

/-- **The pool has what it owes.** Let the markets in play have names of their own, and let a run
from a blank world never make the pool itself the one who pays. Whatever requests have been refused
half way, the pool then has at least what it owes in every asset, to depositors and to accounts,
over all its markets. Therefore no withdrawal of collateral and no borrowing ever fails for want of
tokens. -/
theorem World.pool_has_what_it_owes {known : Set MarketParams}
    (hknown : Set.InjOn MarketParams.id known) {pool router feeRecipient holder owner : Address}
    {settings : Settings} {requests : List Request}
    (hmarkets : ∀ r ∈ requests, ∀ p, r.market? = some p → p ∈ known)
    (hpayers : ∀ r ∈ requests, r.payer? ≠ some pool) {w : World}
    (hrun : runs requests (blank pool router feeRecipient holder owner settings) = some w) :
    (∀ asset, w.chain.pool.due asset ≤ (w.chain.tokens.balance asset pool).toNat) ∧
    (∀ params ∈ known, ∀ who amount receiver,
      (Bank.withdrawCollateral params who amount receiver).run w.chain.toBank ≠ .aborted ∧
      ∀ reason b, (Bank.withdrawCollateral params who amount receiver).run w.chain.toBank ≠
        .refused (.transfer reason) b) ∧
    ∀ params ∈ known, ∀ who assets receiver,
      (Bank.borrow params who assets receiver).run w.chain.toBank ≠ .aborted ∧
      ∀ reason b, (Bank.borrow params who assets receiver).run w.chain.toBank ≠
        .refused (.transfer reason) b := by
  -- the run is one of requests to the chain that name known markets and make others pay
  have hmoves := (runs_moves (P := fun q => (∀ p, q.market? = some p → p ∈ known) ∧
      ∀ a, q.payer? = some a → a ≠ pool) (orderly_blank known _ _ _ _ _ _) ?_ ?_ hmarkets hrun).2
  · have hcustody : w.chain.toBank.Custody known pool :=
      hmoves.keeps (Lending.custody_create known _ _ _) fun r _ _ hr hc hafter =>
        Lending.after_custody hknown hr.1 hr.2 hc hafter
    refine ⟨hcustody.funded, ?_, ?_⟩
    · intro params hparams who amount receiver
      have hguarded : Bank.Guarded known pool False _ _ :=
        Bank.guarded_withdrawCollateral hknown hparams who amount receiver
      refine ⟨(Bank.finishes_withdrawCollateral params who amount receiver _
        hcustody.conserved).1, fun reason b hrefused => ?_⟩
      exact ((hguarded _ hcustody).refused hrefused).2 reason rfl
    · intro params hparams who assets receiver
      have hguarded : Bank.Guarded known pool False _ _ :=
        Bank.guarded_borrow hknown hparams who assets receiver
      refine ⟨(Bank.finishes_borrow params who assets receiver _ hcustody.conserved).1,
        fun reason b hrefused => ?_⟩
      exact ((hguarded _ hcustody).refused hrefused).2 reason rfl
  · intro q hq
    refine ⟨fun p hp => hmarkets _ hq p hp, ?_⟩
    rintro a ha rfl
    exact hpayers _ hq ha
  · rintro basket operation hr k rfl rfl q hq
    refine ⟨fun p hp => hq.known hp, ?_⟩
    rintro a ha rfl
    exact hpayers _ hr (congrArg some (hq.payer ha).symm)

open Deployment in
/-- So it is once the basket of the reference deployment is levered: the pool then owes the basket
its collateral, and the lender what has not been borrowed. -/
theorem World.pool_has_what_it_owes_of_levering : ∃ w,
    World.runs levering (start .usual) = some w ∧
      0 < w.chain.pool.due wsteth ∧ 0 < w.chain.pool.due usdc ∧
      ∀ asset, w.chain.pool.due asset ≤ (w.chain.tokens.balance asset Deployment.pool).toNat := by
  have hmarkets : ∀ r ∈ levering, r.market? = none ∨ r.market? = some params := by decide +kernel
  have hpayers : ∀ r ∈ levering, r.payer? ≠ some Deployment.pool := by decide +kernel
  have howes : ((World.runs levering (start .usual)).map fun w =>
      decide (0 < w.chain.pool.due wsteth ∧ 0 < w.chain.pool.due usdc)) = some true := by
    decide +kernel
  obtain ⟨w, hw, howes⟩ := Option.map_eq_some_iff.1 howes
  obtain ⟨hcollateral, hidle⟩ := of_decide_eq_true howes
  refine ⟨w, hw, hcollateral, hidle, (World.pool_has_what_it_owes
    (Set.injOn_singleton MarketParams.id params) (fun r hr p hp => ?_) hpayers hw).1⟩
  rcases hmarkets r hr with hnone | hsome
  · rw [hnone] at hp
    cases hp
  · exact (Option.some.inj (hsome.symm.trans hp)).symm

end LeveredBasket.Leverage
