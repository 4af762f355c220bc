/-
What calls on tokens (`TokenBook`) do to balances, supplies and allowances.

Each call has one statement about its end. Balances are compared with what is
taken added back (`Debited`) and what is given added on (`Credited`), so that no
subtraction appears and a holder who pays himself needs no case of his own.

`TokenBook.Conserved` says that all balances of an asset add up to its supply.
Every call keeps it, and because of it the receiving side of a transfer has room
for what it receives (`transfer_ne_aborted`).
-/
import LeveredBasket.Proofs.FixedPoint
import LeveredBasket.Proofs.Outcome
import LeveredBasket.Token

set_option autoImplicit false

namespace LeveredBasket

/-- What counts where a condition holds: `n` there and nothing elsewhere. -/
def countIf (p : Prop) [Decidable p] (n : Nat) : Nat := if p then n else 0

@[simp]
theorem countIf_pos {p : Prop} [Decidable p] (h : p) (n : Nat) : countIf p n = n := if_pos h

@[simp]
theorem countIf_neg {p : Prop} [Decidable p] (h : ¬p) (n : Nat) : countIf p n = 0 := if_neg h

@[simp]
theorem countIf_zero (p : Prop) [Decidable p] : countIf p 0 = 0 := by
  unfold countIf
  split <;> rfl

theorem countIf_add (p : Prop) [Decidable p] (m n : Nat) :
    countIf p (m + n) = countIf p m + countIf p n := by
  unfold countIf
  split <;> rfl

theorem countIf_mono {p : Prop} [Decidable p] {m n : Nat} (h : m ≤ n) :
    countIf p m ≤ countIf p n := by
  unfold countIf
  split <;> omega

/-! ## One token -/

namespace Token

variable {t t' : Token} {holder : Address} {amount : Amount}

/-- What all holders have together. -/
def held (t : Token) : Nat := t.balances.total fun _ a => a.toNat

/-- Nobody has more than everybody. -/
theorem balance_le_held (t : Token) (x : Address) : (t.balance x).toNat ≤ t.held :=
  t.balances.le_total_getD (fun _ a => a.toNat) x rfl

/-- **`t'` is `t` with `amount` taken from the holder**, who had it. -/
structure Debited (holder : Address) (amount : Amount) (t t' : Token) : Prop where
  covered : amount.toNat ≤ (t.balance holder).toNat
  balance : ∀ x, (t'.balance x).toNat + countIf (x = holder) amount.toNat = (t.balance x).toNat
  held : t'.held + amount.toNat = t.held
  supply : t'.supply = t.supply
  allowances : t'.allowances = t.allowances

/-- **`t'` is `t` with `amount` given to the holder.** -/
structure Credited (holder : Address) (amount : Amount) (t t' : Token) : Prop where
  balance : ∀ x, (t'.balance x).toNat = (t.balance x).toNat + countIf (x = holder) amount.toNat
  held : t'.held = t.held + amount.toNat
  supply : t'.supply = t.supply
  allowances : t'.allowances = t.allowances

/-- A holder's balance after it was written, and anybody else's. -/
theorem balance_write (t : Token) (holder x : Address) (a : Amount) :
    ({ t with balances := t.balances.insert holder a } : Token).balance x =
      if x = holder then a else t.balance x := t.balances.getD_insert holder x a 0

theorem held_write (t : Token) (holder : Address) (a : Amount) :
    ({ t with balances := t.balances.insert holder a } : Token).held + (t.balance holder).toNat =
      t.held + a.toNat := t.balances.total_insert_getD (fun _ a => a.toNat) holder a rfl

theorem debited_of_debit? (h : t.debit? holder amount = some t') : Debited holder amount t t' := by
  obtain ⟨left, hleft, rfl⟩ := Option.map_eq_some_iff.1 h
  have hle : amount.toNat ≤ (t.balance holder).toNat := by
    unfold Word.sub? at hleft
    split at hleft
    case isTrue hle => exact hle
    case isFalse => cases hleft
  have hleft' : left.toNat + amount.toNat = (t.balance holder).toNat := by
    have hsub : (t.balance holder).sub amount = .ok left := by simp [Amount.sub, hleft]
    exact Amount.sub_eq_ok.1 hsub
  refine ⟨hle, fun x => ?_, ?_, rfl, rfl⟩
  · rw [balance_write]
    by_cases hx : x = holder
    · simp [hx, hleft']
    · simp [hx]
  · have hheld := held_write t holder left
    omega

/-- A holder who has the amount can be debited. -/
theorem debit?_ne_none (h : amount.toNat ≤ (t.balance holder).toNat) :
    t.debit? holder amount ≠ none := by
  have hle : amount ≤ t.balance holder := h
  simp [debit?, Word.sub?, hle]

theorem lt_of_debit?_eq_none (h : t.debit? holder amount = none) :
    (t.balance holder).toNat < amount.toNat := by
  by_contra hle
  exact debit?_ne_none (Nat.le_of_not_lt hle) h

theorem credited_of_credit? (h : t.credit? holder amount = some t') :
    Credited holder amount t t' := by
  obtain ⟨sum, hsum, rfl⟩ := Option.map_eq_some_iff.1 h
  have hsum' : sum.toNat = (t.balance holder).toNat + amount.toNat := Word.ofNat?_eq_some.1 hsum
  refine ⟨fun x => ?_, ?_, rfl, rfl⟩
  · rw [balance_write]
    by_cases hx : x = holder
    · simp [hx, hsum']
    · simp [hx]
  · have hheld := held_write t holder sum
    omega

/-- A balance that stays within its width can be credited. -/
theorem credit?_ne_none (h : (t.balance holder).toNat + amount.toNat < 1 <<< 128) :
    t.credit? holder amount ≠ none := by
  simp only [credit?, Word.add?, ne_eq, Option.map_eq_none_iff, Word.ofNat?_eq_none]
  omega

/-- An allowance is what it was set to last, whether it is kept or, if none, struck out. -/
theorem allowance_approve (t : Token) (owner spender : Address) (amount : Amount)
    (o s : Address) : (t.approve owner spender amount).allowance o s =
      if (o, s) = (owner, spender) then amount else t.allowance o s := by
  unfold allowance approve FiniteMap.getD
  by_cases hpair : (o, s) = (owner, spender)
  · rw [if_pos hpair, hpair]
    by_cases hzero : amount = 0
    · simp [hzero]
    · simp [hzero]
  · rw [if_neg hpair]
    by_cases hzero : amount = 0
    · simp [hzero, FiniteMap.get?_erase_of_ne _ hpair]
    · simp [hzero, FiniteMap.get?_insert_of_ne _ hpair]

end Token

/-! ## Token books -/

namespace TokenBook

variable {b b' : TokenBook} {asset sender recipient holder owner spender : Address}
variable {amount : Amount}

theorem token_setToken (b : TokenBook) (asset a : Address) (t : Token) :
    (b.setToken asset t).token a = if a = asset then t else b.token a :=
  b.tokens.getD_insert asset a t .untouched

section SetToken

variable {t : Token}

/-- A token put in the place of one with the same balances changes no balance. -/
theorem balance_setToken (h : t.balances = (b.token asset).balances) (a x : Address) :
    (b.setToken asset t).balance a x = b.balance a x := by
  unfold TokenBook.balance
  rw [token_setToken]
  by_cases ha : a = asset
  · rw [if_pos ha, ha, Token.balance, h, Token.balance]
  · rw [if_neg ha]

theorem held_setToken (h : t.balances = (b.token asset).balances) (a : Address) :
    ((b.setToken asset t).token a).held = (b.token a).held := by
  rw [token_setToken]
  by_cases ha : a = asset
  · rw [if_pos ha, ha, Token.held, h, Token.held]
  · rw [if_neg ha]

theorem supply_setToken (h : t.supply = (b.token asset).supply) (a : Address) :
    (b.setToken asset t).supply a = b.supply a := by
  unfold TokenBook.supply
  rw [token_setToken]
  by_cases ha : a = asset
  · rw [if_pos ha, ha, h]
  · rw [if_neg ha]

theorem allowance_setToken (h : t.allowances = (b.token asset).allowances)
    (a owner spender : Address) :
    (b.setToken asset t).allowance a owner spender = b.allowance a owner spender := by
  unfold TokenBook.allowance
  rw [token_setToken]
  by_cases ha : a = asset
  · rw [if_pos ha, ha, Token.allowance, h, Token.allowance]
  · rw [if_neg ha]

end SetToken

/-- **`b'` is `b` after a transfer.** -/
structure Transferred (asset sender recipient : Address) (amount : Amount)
    (b b' : TokenBook) : Prop where
  covered : amount.toNat ≤ (b.balance asset sender).toNat
  balance : ∀ a x, (b'.balance a x).toNat + countIf (a = asset ∧ x = sender) amount.toNat =
    (b.balance a x).toNat + countIf (a = asset ∧ x = recipient) amount.toNat
  held : ∀ a, (b'.token a).held = (b.token a).held
  supply : ∀ a, b'.supply a = b.supply a
  allowance : ∀ a o s, b'.allowance a o s = b.allowance a o s

theorem transferred_of_steps {d c : Token} (hd : (b.token asset).debit? sender amount = some d)
    (hc : d.credit? recipient amount = some c) :
    Transferred asset sender recipient amount b (b.setToken asset c) := by
  have hd := Token.debited_of_debit? hd
  have hc := Token.credited_of_credit? hc
  refine ⟨hd.covered, fun a x => ?_, fun a => ?_, ?_, ?_⟩
  · unfold TokenBook.balance
    rw [token_setToken]
    by_cases ha : a = asset
    · have hdx := hd.balance x
      have hcx := hc.balance x
      simp only [ha, if_true, true_and]
      omega
    · simp [ha]
  · rw [token_setToken]
    by_cases ha : a = asset
    · have hheld := hd.held
      have hheld' := hc.held
      rw [if_pos ha, ha]
      omega
    · rw [if_neg ha]
  · exact supply_setToken (hc.supply.trans hd.supply)
  · exact allowance_setToken (hc.allowances.trans hd.allowances)

/-- Nothing is transferred by doing nothing. -/
theorem Transferred.none (asset sender recipient : Address) (b : TokenBook) :
    Transferred asset sender recipient 0 b b := by
  refine ⟨Nat.zero_le _, fun a x => ?_, fun _ => rfl, fun _ => rfl, fun _ _ _ => rfl⟩
  rw [Word.toNat_zero, countIf_zero, countIf_zero]

/-- Whoever does not send has no less afterwards. -/
theorem Transferred.le_balance {x : Address} (h : Transferred asset sender recipient amount b b')
    (hx : sender ≠ x) (a : Address) : (b.balance a x).toNat ≤ (b'.balance a x).toNat := by
  have hbalance := h.balance a x
  rw [countIf_neg fun hs => hx hs.2.symm] at hbalance
  omega

/-- A transfer of one asset leaves what there is of another. -/
theorem Transferred.balance_of_ne {a : Address}
    (h : Transferred asset sender recipient amount b b') (ha : a ≠ asset) (x : Address) :
    b'.balance a x = b.balance a x := by
  have hbalance := h.balance a x
  rw [countIf_neg fun h => ha h.1, countIf_neg fun h => ha h.1] at hbalance
  exact Word.ext hbalance

/-- Who receives from another has the amount more. -/
theorem Transferred.received (h : Transferred asset sender recipient amount b b')
    (hne : sender ≠ recipient) (a : Address) : (b'.balance a recipient).toNat =
      (b.balance a recipient).toNat + countIf (asset = a) amount.toNat := by
  have hbalance := h.balance a recipient
  rw [countIf_neg fun hs => hne hs.2.symm] at hbalance
  simpa [eq_comm] using hbalance

/-- Who sends has at most the amount less. -/
theorem Transferred.sent (h : Transferred asset sender recipient amount b b') (a : Address) :
    (b.balance a sender).toNat ≤
      (b'.balance a sender).toNat + countIf (asset = a) amount.toNat := by
  have hbalance := h.balance a sender
  have hcount : countIf (a = asset ∧ sender = sender) amount.toNat =
      countIf (asset = a) amount.toNat := by simp [eq_comm]
  omega

/-- What a transfer takes from its sender, if the recipient is another. -/
theorem Transferred.balance_sender (h : Transferred asset sender recipient amount b b') :
    (b'.balance asset sender).toNat + countIf (sender ≠ recipient) amount.toNat =
      (b.balance asset sender).toNat := by
  have hbalance := h.balance asset sender
  rw [countIf_pos ⟨rfl, rfl⟩] at hbalance
  by_cases hsame : sender = recipient
  · rw [countIf_pos ⟨rfl, hsame⟩] at hbalance
    rw [countIf_neg (not_not_intro hsame)]
    omega
  · rw [countIf_neg fun h => hsame h.2] at hbalance
    rw [countIf_pos hsame]
    omega

/-- What it gives its recipient, if the sender is another. -/
theorem Transferred.balance_recipient (h : Transferred asset sender recipient amount b b') :
    (b'.balance asset recipient).toNat =
      (b.balance asset recipient).toNat + countIf (recipient ≠ sender) amount.toNat := by
  have hbalance := h.balance asset recipient
  rw [countIf_pos (p := asset = asset ∧ recipient = recipient) ⟨rfl, rfl⟩] at hbalance
  by_cases hsame : recipient = sender
  · rw [countIf_pos ⟨rfl, hsame⟩] at hbalance
    rw [countIf_neg (not_not_intro hsame)]
    omega
  · rw [countIf_neg fun h => hsame h.2] at hbalance
    rw [countIf_pos hsame]
    omega

/-- A transfer that is refused changes nothing, and the sender's balance was short. -/
theorem transfer_spec (asset sender recipient : Address) (amount : Amount) (b : TokenBook) :
    ((transfer asset sender recipient amount).run b).Ends
      (fun _ b' => Transferred asset sender recipient amount b b')
      fun _ b' => b' = b ∧ (b.balance asset sender).toNat < amount.toNat := by
  simp only [transfer, Action.ends_bind, Action.ends_read, Action.ends_orRefuse,
    Action.ends_orAbort, Action.ends_modify]
  exact ⟨fun d hd c hc => transferred_of_steps hd hc,
    fun hd => ⟨trivial, Token.lt_of_debit?_eq_none hd⟩⟩

/-- **`b'` is `b` with new tokens for the holder.** -/
structure Minted (asset holder : Address) (amount : Amount) (b b' : TokenBook) : Prop where
  balance : ∀ a x, (b'.balance a x).toNat =
    (b.balance a x).toNat + countIf (a = asset ∧ x = holder) amount.toNat
  held : ∀ a, (b'.token a).held = (b.token a).held + countIf (a = asset) amount.toNat
  supply : ∀ a, (b'.supply a).toNat = (b.supply a).toNat + countIf (a = asset) amount.toNat
  allowance : ∀ a o s, b'.allowance a o s = b.allowance a o s

theorem mint_spec (asset holder : Address) (amount : Amount) (b : TokenBook) :
    ((mint asset holder amount).run b).Ends (fun _ b' => Minted asset holder amount b b')
      fun _ _ => False := by
  simp only [mint, Action.ends_bind, Action.ends_read, Action.ends_orAbort, Action.ends_modify]
  intro c hc supply hsupply
  have hc := Token.credited_of_credit? hc
  have hsupply : supply.toNat = c.supply.toNat + amount.toNat := Word.ofNat?_eq_some.1 hsupply
  refine ⟨fun a x => ?_, fun a => ?_, fun a => ?_, allowance_setToken hc.allowances⟩
  · unfold TokenBook.balance
    rw [token_setToken]
    by_cases ha : a = asset
    · simp only [ha, if_true, true_and]
      exact hc.balance x
    · simp [ha]
  · rw [token_setToken]
    by_cases ha : a = asset
    · simp only [ha, if_true, countIf_pos]
      exact hc.held
    · simp [ha]
  · unfold TokenBook.supply
    rw [token_setToken]
    by_cases ha : a = asset
    · simp [ha, hsupply, hc.supply]
    · simp [ha]

/-- **`b'` is `b` with tokens of the holder destroyed.** -/
structure Burned (asset holder : Address) (amount : Amount) (b b' : TokenBook) : Prop where
  covered : amount.toNat ≤ (b.balance asset holder).toNat
  balance : ∀ a x, (b'.balance a x).toNat + countIf (a = asset ∧ x = holder) amount.toNat =
    (b.balance a x).toNat
  held : ∀ a, (b'.token a).held + countIf (a = asset) amount.toNat = (b.token a).held
  supply : ∀ a, (b'.supply a).toNat = (b.supply a).toNat - countIf (a = asset) amount.toNat
  allowance : ∀ a o s, b'.allowance a o s = b.allowance a o s

theorem burn_spec (asset holder : Address) (amount : Amount) (b : TokenBook) :
    ((burn asset holder amount).run b).Ends (fun _ b' => Burned asset holder amount b b')
      fun _ b' => b' = b := by
  simp only [burn, Action.ends_bind, Action.ends_read, Action.ends_orRefuse, Action.ends_modify]
  refine ⟨fun d hd => ?_, fun _ => trivial⟩
  have hd := Token.debited_of_debit? hd
  refine ⟨hd.covered, fun a x => ?_, fun a => ?_, fun a => ?_, allowance_setToken hd.allowances⟩
  · unfold TokenBook.balance
    rw [token_setToken]
    by_cases ha : a = asset
    · simp only [ha, if_true, true_and]
      exact hd.balance x
    · simp [ha]
  · rw [token_setToken]
    by_cases ha : a = asset
    · simp only [ha, if_true, countIf_pos]
      exact hd.held
    · simp [ha]
  · unfold TokenBook.supply
    rw [token_setToken]
    by_cases ha : a = asset
    · simp [ha, Word.truncatedSub, hd.supply]
    · simp [ha]

/-! ## Allowances -/

theorem balance_approve (b : TokenBook) (asset owner spender : Address) (amount : Amount)
    (a x : Address) : (b.approve asset owner spender amount).balance a x = b.balance a x := by
  unfold TokenBook.approve
  apply balance_setToken
  rfl

theorem held_approve (b : TokenBook) (asset owner spender : Address) (amount : Amount)
    (a : Address) : ((b.approve asset owner spender amount).token a).held = (b.token a).held := by
  unfold TokenBook.approve
  apply held_setToken
  rfl

theorem supply_approve (b : TokenBook) (asset owner spender : Address) (amount : Amount)
    (a : Address) : (b.approve asset owner spender amount).supply a = b.supply a := by
  unfold TokenBook.approve
  apply supply_setToken
  rfl

/-- An allowance is what it was set to last, and no other is set with it. -/
theorem allowance_approve (b : TokenBook) (asset owner spender : Address) (amount : Amount)
    (a o s : Address) : (b.approve asset owner spender amount).allowance a o s =
      if a = asset ∧ (o, s) = (owner, spender) then amount else b.allowance a o s := by
  unfold TokenBook.approve TokenBook.allowance
  rw [token_setToken]
  by_cases ha : a = asset
  · simp only [ha, if_true, true_and]
    exact (b.token asset).allowance_approve owner spender amount o s
  · rw [if_neg ha, if_neg fun h => ha h.1]

/-- An allowed transfer is a transfer after which the allowance is what is left of it. -/
theorem transferFrom_spec (asset spender owner recipient : Address) (amount : Amount)
    (b : TokenBook) :
    ((transferFrom asset spender owner recipient amount).run b).Ends
      (fun _ b' => amount.toNat ≤ (b.allowance asset owner spender).toNat ∧
        ∃ b₁, Transferred asset owner recipient amount b b₁ ∧
          b' = b₁.approve asset owner spender
            ((b.allowance asset owner spender).truncatedSub amount))
      fun _ b' => b' = b := by
  simp only [transferFrom, Action.ends_bind, Action.ends_read, Action.ends_require]
  refine ⟨fun hle => ?_, fun _ => trivial⟩
  refine (transfer_spec asset owner recipient amount b).imp (fun _ b₁ h => ?_) fun _ _ h => h.1
  exact Action.ends_modify.2 ⟨hle, b₁, h, rfl⟩

/-! ## Decimals -/

theorem balance_register (b : TokenBook) (asset : Address) (decimals : Word 32) (a x : Address) :
    (b.register asset decimals).balance a x = b.balance a x := by
  unfold TokenBook.register
  apply balance_setToken
  rfl

theorem held_register (b : TokenBook) (asset : Address) (decimals : Word 32) (a : Address) :
    ((b.register asset decimals).token a).held = (b.token a).held := by
  unfold TokenBook.register
  apply held_setToken
  rfl

theorem supply_register (b : TokenBook) (asset : Address) (decimals : Word 32) (a : Address) :
    (b.register asset decimals).supply a = b.supply a := by
  unfold TokenBook.register
  apply supply_setToken
  rfl

/-! ## What nobody else can touch -/

/-- **`J` survives whatever takes tokens from nobody but `payers`**: nothing else in a token book
makes a difference to it. -/
structure Stable (payers : Address → Prop) (J : TokenBook → Prop) : Prop where
  register : ∀ {b asset decimals}, J b → J (b.register asset decimals)
  approve : ∀ {b asset owner spender amount}, J b → J (b.approve asset owner spender amount)
  minted : ∀ {b b' asset holder amount}, Minted asset holder amount b b' → J b → J b'
  burned : ∀ {b b' asset holder amount}, payers holder → Burned asset holder amount b b' →
    J b → J b'
  transferred : ∀ {b b' asset sender recipient amount}, payers sender →
    Transferred asset sender recipient amount b b' → J b → J b'

namespace Stable

variable {payers : Address → Prop} {J : TokenBook → Prop}

theorem keeps_mint (hJ : Stable payers J) (asset holder : Address) (amount : Amount) :
    (mint asset holder amount).Keeps J fun _ => True := by
  intro b hb
  apply (mint_spec asset holder amount b).imp
  · intro _ b' h
    exact hJ.minted h hb
  · intro _ _ h
    exact h.elim

theorem keeps_burn (hJ : Stable payers J) (hp : payers holder) (asset : Address)
    (amount : Amount) : (burn asset holder amount).Keeps J fun _ => True := by
  intro b hb
  refine (burn_spec asset holder amount b).imp (fun _ _ h => hJ.burned hp h hb) ?_
  rintro _ _ rfl
  exact ⟨hb, trivial⟩

theorem keeps_transfer (hJ : Stable payers J) (hp : payers sender) (asset recipient : Address)
    (amount : Amount) : (transfer asset sender recipient amount).Keeps J fun _ => True := by
  intro b hb
  refine (transfer_spec asset sender recipient amount b).imp
    (fun _ _ h => hJ.transferred hp h hb) ?_
  rintro _ _ ⟨rfl, -⟩
  exact ⟨hb, trivial⟩

theorem keeps_transferFrom (hJ : Stable payers J) (hp : payers owner)
    (asset spender recipient : Address) (amount : Amount) :
    (transferFrom asset spender owner recipient amount).Keeps J fun _ => True := by
  intro b hb
  refine (transferFrom_spec asset spender owner recipient amount b).imp ?_ ?_
  · rintro _ _ ⟨-, b₁, h, rfl⟩
    exact hJ.approve (hJ.transferred hp h hb)
  · rintro _ _ rfl
    exact ⟨hb, trivial⟩

end Stable

/-- What says nothing is stable. -/
theorem stable_true (payers : Address → Prop) : Stable payers fun _ => True :=
  ⟨fun _ => trivial, fun _ => trivial, fun _ _ => trivial, fun _ _ _ => trivial,
    fun _ _ _ => trivial⟩

/-- Two stable statements are stable together. -/
theorem Stable.and {payers : Address → Prop} {J J' : TokenBook → Prop} (hJ : Stable payers J)
    (hJ' : Stable payers J') : Stable payers fun b => J b ∧ J' b :=
  ⟨fun h => ⟨hJ.register h.1, hJ'.register h.2⟩, fun h => ⟨hJ.approve h.1, hJ'.approve h.2⟩,
    fun hm h => ⟨hJ.minted hm h.1, hJ'.minted hm h.2⟩,
    fun hp hb h => ⟨hJ.burned hp hb h.1, hJ'.burned hp hb h.2⟩,
    fun hp ht h => ⟨hJ.transferred hp ht h.1, hJ'.transferred hp ht h.2⟩⟩

/-- While others pay, nobody has less than before. -/
theorem stable_atLeast (x : Address) (least : Address → Nat) :
    Stable (· ≠ x) fun b => ∀ a, least a ≤ (b.balance a x).toNat := by
  refine ⟨?_, ?_, ?_, ?_, ?_⟩
  · intro b asset decimals hb a
    rw [balance_register]
    exact hb a
  · intro b asset owner spender amount hb a
    rw [balance_approve]
    exact hb a
  · intro b b' asset holder amount h hb a
    rw [h.balance]
    exact (hb a).trans (Nat.le_add_right _ _)
  · intro b b' asset holder amount hholder h hb a
    have hbalance := h.balance a x
    rw [countIf_neg fun hx => hholder hx.2.symm] at hbalance
    exact (hb a).trans_eq hbalance.symm
  · intro b b' asset sender recipient amount hsender h hb a
    exact (hb a).trans (h.le_balance hsender a)

/-! ## Conservation -/

/-- **All balances of an asset add up to its supply**, for every asset. -/
def Conserved (b : TokenBook) : Prop := ∀ a, (b.token a).held = (b.supply a).toNat

theorem conserved_empty : empty.Conserved := fun _ => rfl

theorem Transferred.conserved (h : Transferred asset sender recipient amount b b')
    (hb : b.Conserved) : b'.Conserved := by
  intro a
  rw [h.held a, h.supply a, hb a]

theorem Minted.conserved (h : Minted asset holder amount b b') (hb : b.Conserved) :
    b'.Conserved := by
  intro a
  have hheld := h.held a
  have hsupply := h.supply a
  have ha := hb a
  omega

theorem Burned.conserved (h : Burned asset holder amount b b') (hb : b.Conserved) :
    b'.Conserved := by
  intro a
  have hheld := h.held a
  have hsupply := h.supply a
  have ha := hb a
  omega

theorem Conserved.approve (hb : b.Conserved) (asset owner spender : Address) (amount : Amount) :
    (b.approve asset owner spender amount).Conserved := by
  intro a
  rw [held_approve, supply_approve, hb a]

theorem Conserved.register (hb : b.Conserved) (asset : Address) (decimals : Word 32) :
    (b.register asset decimals).Conserved := by
  intro a
  rw [held_register, supply_register, hb a]

/-- No call on tokens can break conservation, whoever pays. -/
theorem stable_conserved (payers : Address → Prop) : Stable payers Conserved :=
  ⟨fun hb => hb.register _ _, fun hb => hb.approve _ _ _ _, fun h hb => h.conserved hb,
    fun _ h hb => h.conserved hb, fun _ h hb => h.conserved hb⟩

/-- Where balances add up to the supply, whoever receives a transfer has room for it: what the
sender no longer has and what the recipient has are both part of one supply. -/
theorem transfer_ne_aborted (hb : b.Conserved) :
    (transfer asset sender recipient amount).run b ≠ .aborted := by
  simp only [transfer, Action.run_bind, Action.run_read]
  cases hd : (b.token asset).debit? sender amount with
  | none => simp
  | some d =>
    have hdebit := Token.debited_of_debit? hd
    have hroom : (d.balance recipient).toNat + amount.toNat < 1 <<< 128 := by
      have hle := d.balance_le_held recipient
      have hheld := hdebit.held
      have hsum := hb asset
      have hlt := (b.supply asset).isLt
      omega
    cases hc : d.credit? recipient amount with
    | none => exact absurd hc (Token.credit?_ne_none hroom)
    | some c => simp [hc]

end TokenBook

end LeveredBasket
