/-
What requests to the chain (`SimChain`) do to its ledger.

The ledger is the baskets and the hook lists. Requests that are not to baskets leave
it alone. A request to a basket creates the basket, changes something besides its
positions, writes a position, or changes a list of hooks, and there is nothing else
that it does (`ChainRequest.effect`). What survives those changes survives every run.

Of a list of hooks it matters how often somebody is on it. Whoever is hooked in is put
on it unless he is there (`Chain.count_hookIn`), and whoever is dropped is taken off as
often as he is there (`Chain.count_dropHook`).
-/
import LeveredBasket.Proofs.Effects

set_option autoImplicit false

namespace LeveredBasket

/-- **Positions that a new basket may have**: its own, none below zero. -/
inductive Positions.Funded : List Position → Prop
  | nil : Funded []
  | put {ps : List Position} {component : Address} {unit : PositionUnit}
    (hunit : 0 ≤ unit.value.toInt) (hps : Funded ps) :
    Funded (Positions.write (.ofDefault component unit) ps)

/-- The hook that a request registers or takes off. -/
def BasketRequest.hook? : BasketRequest → Option Address
  | registerHook _ hook | unregisterHook _ hook => some hook
  | create .. | addModule _ | detachModule _ | confirmModule _ | setSupply _ | editDefault ..
  | editExternal .. | writeDefault .. | writeExternal .. | transfer .. | approve .. => none

/-- The chain with a hook on an orchestrator's list for a basket, once. -/
def Chain.hookIn (c : Chain) (orchestrator address hook : Address) : Chain :=
  let hooks := c.hooksOf orchestrator address
  c.setHooks orchestrator address (if hook ∈ hooks then hooks else hooks ++ [hook])

/-- **What a request has done to the ledger**, whether it has gone through or not. -/
inductive ChainRequest.Effect (c c' : Chain) : ChainRequest → Prop
  | aside {r : ChainRequest} (hbaskets : c'.baskets = c.baskets) (hhooks : c'.hooks = c.hooks) :
    Effect c c' r
  | created {address manager : Address} {supply : Amount}
    {components : List (Address × PositionUnit)} {b : Basket}
    (hfunded : Positions.Funded b.positions)
    (hbaskets : c'.baskets = c.baskets.insert address b) (hhooks : c'.hooks = c.hooks) :
    Effect c c' (.basket address (.create manager supply components))
  | rewritten {address : Address} {q : BasketRequest} {b b' : Basket}
    (hb : c.baskets.get? address = some b) (hpositions : b'.positions = b.positions)
    (hchain : c' = c.setBasket address b') : Effect c c' (.basket address q)
  | wrote {address : Address} {q : BasketRequest} {p : Position}
    (hwrote : Chain.Wrote address p c c') : Effect c c' (.basket address q)
  | hooked {address orchestrator hook : Address}
    (hchain : c' = c.hookIn orchestrator address hook) :
    Effect c c' (.basket address (.registerHook orchestrator hook))
  | dropped {address orchestrator hook : Address}
    (hchain : c' = c.dropHook orchestrator address hook) :
    Effect c c' (.basket address (.unregisterHook orchestrator hook))

/-! ## Positions of a new basket -/

theorem PositionUnit.nonneg_of_not_isNegative {u : PositionUnit} (h : u.isNegative = false) :
    0 ≤ u.value.toInt := by
  have hnot : ¬u.value.toInt < 0 := of_decide_eq_false h
  omega

namespace Chain

/-- Funding a basket mints tokens for it and puts its own positions on the list. -/
theorem fund_funded (components : List (Address × PositionUnit)) (b : Basket) (c : Chain) :
    ((fund b components).run c).Ends
      (fun b' c' => (Positions.Funded b.positions → Positions.Funded b'.positions) ∧
        c'.baskets = c.baskets ∧ c'.hooks = c.hooks)
      fun _ c' => c'.baskets = c.baskets ∧ c'.hooks = c.hooks := by
  induction components generalizing b c with
  | nil => exact ⟨fun h => h, rfl, rfl⟩
  | cons entry rest ih =>
    obtain ⟨component, unit⟩ := entry
    simp only [fund, Action.ends_bind, Action.ends_require, Action.ends_ofExcept, ends_onTokens]
    refine ⟨fun hunit => ⟨fun notional _ => ?_, fun _ _ => ⟨trivial, trivial⟩⟩,
      fun _ => ⟨trivial, trivial⟩⟩
    refine (TokenBook.mint_spec component b.address notional c.tokens).imp (fun _ t _ => ?_)
      fun _ _ h => h.elim
    refine (ih _ { c with tokens := t }).imp ?_ fun _ _ h => h
    rintro b' c' ⟨hfunded, hledger⟩
    exact ⟨fun h => hfunded (.put (PositionUnit.nonneg_of_not_isNegative hunit) h), hledger⟩

end Chain

/-! ## Lists of hooks -/

/-- What is put in a list unless it is there is there once, if it was not there more often. -/
theorem count_once (xs : List Address) (a x : Address) :
    (if a ∈ xs then xs else xs ++ [a]).count x =
      if x = a then max 1 (xs.count a) else xs.count x := by
  by_cases ha : a ∈ xs
  · have hpos := List.count_pos_iff.2 ha
    rw [if_pos ha]
    split
    case isTrue hx =>
      rw [hx]
      omega
    case isFalse => rfl
  · have hnone := List.count_eq_zero.2 ha
    rw [if_neg ha, List.count_append, List.count_singleton]
    by_cases hx : x = a
    · rw [if_pos hx, hx, hnone, beq_self_eq_true]
      rfl
    · rw [if_neg hx, beq_false_of_ne fun h => hx h.symm]
      rfl

theorem nodup_once {xs : List Address} (h : xs.Nodup) (a : Address) :
    (if a ∈ xs then xs else xs ++ [a]).Nodup := by
  split
  case isTrue => exact h
  case isFalse ha =>
    rw [List.nodup_append_comm]
    exact List.nodup_cons.2 ⟨ha, h⟩

namespace Chain

variable {c c' : Chain} {a address : Address}

theorem hooksOf_setHooks (c : Chain) (orchestrator address : Address) (hooks : List Address)
    (o a : Address) : (c.setHooks orchestrator address hooks).hooksOf o a =
      if (o, a) = (orchestrator, address) then hooks else c.hooksOf o a :=
  c.hooks.getD_insert (orchestrator, address) (o, a) hooks []

/-- Where the tables are the same, so are the lists. -/
theorem hooksOf_eq (h : c'.hooks = c.hooks) (o a : Address) : c'.hooksOf o a = c.hooksOf o a := by
  rw [hooksOf, hooksOf, h]

/-- To change the hooks for one basket is to leave those for another. -/
theorem hooksOf_setHooks_of_ne (c : Chain) (orchestrator : Address) (hooks : List Address)
    (o : Address) (ha : a ≠ address) :
    (c.setHooks orchestrator address hooks).hooksOf o a = c.hooksOf o a := by
  rw [hooksOf_setHooks, if_neg fun hplace => ha (Prod.mk.inj hplace).2]

theorem hooksOf_dropHooks_of_ne (c : Chain) (hook : Address) (issuers : List Address)
    (o : Address) (ha : a ≠ address) :
    (issuers.foldl (fun c issuer => c.dropHook issuer address hook) c).hooksOf o a =
      c.hooksOf o a := by
  induction issuers generalizing c with
  | nil => rfl
  | cons first rest ih =>
    rw [List.foldl_cons, ih, dropHook]
    split
    · exact c.hooksOf_setHooks_of_ne first _ o ha
    · rfl

/-- Whoever is hooked in is on that list, once if he was not there more often. -/
theorem count_hookIn (c : Chain) (orchestrator address hook : Address) (o a x : Address) :
    ((c.hookIn orchestrator address hook).hooksOf o a).count x =
      if (o, a) = (orchestrator, address) ∧ x = hook then max 1 ((c.hooksOf o a).count x)
      else (c.hooksOf o a).count x := by
  rw [hookIn, hooksOf_setHooks]
  by_cases hplace : (o, a) = (orchestrator, address)
  · obtain ⟨rfl, rfl⟩ := Prod.mk.inj hplace
    rw [if_pos rfl, count_once]
    by_cases hx : x = hook
    · rw [if_pos hx, if_pos ⟨rfl, hx⟩, hx]
    · rw [if_neg hx, if_neg fun h => hx h.2]
  · rw [if_neg hplace, if_neg fun h => hplace h.1]

/-- A hook that has been dropped is on that list no more. -/
theorem count_dropHook (c : Chain) (orchestrator address hook : Address) (o a x : Address) :
    ((c.dropHook orchestrator address hook).hooksOf o a).count x =
      if (o, a) = (orchestrator, address) ∧ x = hook then 0 else (c.hooksOf o a).count x := by
  unfold dropHook
  by_cases hplace : (o, a) = (orchestrator, address)
  · obtain ⟨rfl, rfl⟩ := Prod.mk.inj hplace
    by_cases hmem : hook ∈ c.hooksOf o a
    · rw [if_pos hmem, hooksOf_setHooks, if_pos rfl]
      by_cases hx : x = hook
      · rw [if_pos ⟨rfl, hx⟩, List.count_eq_zero]
        simp [hx]
      · rw [if_neg fun h => hx h.2]
        exact List.count_filter (decide_eq_true hx)
    · rw [if_neg hmem]
      by_cases hx : x = hook
      · rw [if_pos ⟨rfl, hx⟩, hx, List.count_eq_zero]
        exact hmem
      · rw [if_neg fun h => hx h.2]
  · by_cases hmem : hook ∈ c.hooksOf orchestrator address
    · rw [if_pos hmem, hooksOf_setHooks, if_neg hplace, if_neg fun h => hplace h.1]
    · rw [if_neg hmem, if_neg fun h => hplace h.1]

/-- **Hooks that are dropped one after another** are on none of those lists. -/
theorem count_dropHooks (c : Chain) (address hook : Address) (issuers : List Address)
    (o a : Address) :
    ((issuers.foldl (fun c issuer => c.dropHook issuer address hook) c).hooksOf o a).count hook =
      if a = address ∧ o ∈ issuers then 0 else (c.hooksOf o a).count hook := by
  induction issuers generalizing c with
  | nil => simp
  | cons first rest ih =>
    rw [List.foldl_cons, ih, count_dropHook]
    by_cases ha : a = address
    · by_cases hrest : o ∈ rest
      · rw [if_pos ⟨ha, hrest⟩, if_pos ⟨ha, List.mem_cons_of_mem first hrest⟩]
      · rw [if_neg fun h => hrest h.2]
        by_cases hfirst : o = first
        · rw [if_pos ⟨by rw [hfirst, ha], rfl⟩, if_pos ⟨ha, by rw [hfirst]; simp⟩]
        · rw [if_neg fun h => hfirst (Prod.mk.inj h.1).1,
            if_neg fun h => (List.mem_cons.1 h.2).elim hfirst hrest]
    · rw [if_neg fun h => ha h.1, if_neg fun h => ha (Prod.mk.inj h.1).2, if_neg fun h => ha h.1]

end Chain

/-! ## Requests to baskets -/

namespace ChainRequest

variable {c c' : Chain} {r : ChainRequest} {address : Address} {q : BasketRequest}

theorem effect_setBasket {b : Basket} (hb : c.baskets.get? address = some b) (b' : Basket)
    (hpositions : b'.positions = b.positions) :
    Effect c (c.setBasket address b') (.basket address q) := .rewritten hb hpositions rfl

/-- A module's status is not a position. -/
theorem effect_setStatus (holder : Address) (status : ModuleStatus) :
    ((Chain.setStatus address holder status).run c).Ends
      (fun _ c' => Effect c c' (.basket address q))
      fun _ c' => Effect c c' (.basket address q) := by
  simp only [Chain.setStatus, Action.ends_bind, Chain.ends_theBasket, Action.ends_modify]
  exact ⟨fun b hb => effect_setBasket hb (b.setStatus holder status) rfl,
    fun _ => .aside rfl rfl⟩

theorem effect_writePosition (p : Position) :
    ((do let _ ← Chain.writePosition address p : Chain.Call Unit).run c).Ends
      (fun _ c' => Effect c c' (.basket address q))
      fun _ c' => Effect c c' (.basket address q) := by
  rw [Action.ends_bind]
  refine (Chain.writePosition_spec address p c).imp (fun _ _ h => .wrote h) ?_
  rintro _ _ rfl
  exact .aside rfl rfl

theorem effect_editPosition (p : Position) :
    ((Chain.editPosition address p).run c).Ends
      (fun _ c' => Effect c c' (.basket address q))
      fun _ c' => Effect c c' (.basket address q) := by
  refine (Chain.editPosition_spec address p c).imp (fun _ _ h => .wrote h) ?_
  rintro _ _ rfl
  exact .aside rfl rfl

/-- A request to a basket ends with one of the effects. -/
theorem effect_basket (address : Address) (q : BasketRequest) (c : Chain) :
    ((q.perform address).run c).Ends (fun _ c' => Effect c c' (.basket address q))
      fun _ c' => Effect c c' (.basket address q) := by
  cases q with
  | create manager supply components =>
    simp only [BasketRequest.perform, Chain.createBasket, Action.ends_bind, Action.ends_modify]
    refine (Chain.fund_funded components _ c).imp ?_ ?_
    · rintro b d ⟨hfunded, hbaskets, hhooks⟩
      exact .created (hfunded .nil) (congrArg (·.insert address b) hbaskets) hhooks
    · rintro _ d ⟨hbaskets, hhooks⟩
      exact .aside hbaskets hhooks
  | addModule holder => exact effect_setStatus holder .pending
  | detachModule holder => exact effect_setStatus holder .none
  | confirmModule holder =>
    simp only [BasketRequest.perform, Chain.confirmModule, Action.ends_bind, Chain.ends_theBasket,
      Action.ends_require, Action.ends_modify]
    refine ⟨fun b hb => ⟨fun _ => ?_, fun _ => .aside rfl rfl⟩, fun _ => .aside rfl rfl⟩
    exact effect_setBasket hb (b.setStatus holder .initialized) rfl
  | setSupply supply =>
    simp only [BasketRequest.perform, Action.ends_modify, Chain.setSupply]
    split
    case h_1 b hb => exact effect_setBasket hb { b with supply := supply } rfl
    case h_2 => exact .aside rfl rfl
  | editDefault component unit => exact effect_editPosition _
  | editExternal component holder unit => exact effect_editPosition _
  | writeDefault component unit => exact effect_writePosition _
  | writeExternal component holder unit => exact effect_writePosition _
  | transfer asset recipient amount =>
    simp only [BasketRequest.perform, Chain.invokeTransfer, Action.ends_bind,
      Chain.ends_theBasket, Chain.ends_onTokens]
    refine ⟨fun _ _ => ?_, fun _ => .aside rfl rfl⟩
    exact Outcome.ends_of (fun _ _ => .aside rfl rfl) fun _ _ => .aside rfl rfl
  | approve asset spender amount =>
    simp only [BasketRequest.perform, Chain.invokeApprove, Action.ends_bind,
      Chain.ends_theBasket, Action.ends_modify]
    exact ⟨fun _ _ => .aside rfl rfl, fun _ => .aside rfl rfl⟩
  | registerHook orchestrator hook =>
    simp only [BasketRequest.perform, Chain.registerHook, Action.ends_bind, Action.ends_read,
      Action.ends_require, Action.ends_modify]
    exact ⟨fun _ => .hooked rfl, fun _ => .aside rfl rfl⟩
  | unregisterHook orchestrator hook =>
    simp only [BasketRequest.perform, Chain.unregisterHook, Action.ends_bind, Action.ends_read,
      Action.ends_require, Action.ends_modify]
    exact ⟨fun _ => .dropped rfl, fun _ => .aside rfl rfl⟩

/-- **Every request has one of the effects.** -/
theorem effect (h : r.after c = some c') : r.Effect c c' := by
  by_cases hr : ∃ address q, r = .basket address q
  · obtain ⟨address, q, rfl⟩ := hr
    exact (effect_basket address q c).state h
  · obtain ⟨hbaskets, hhooks⟩ := after_ledger (fun address q hq => hr ⟨address, q, hq⟩) h
    exact .aside hbaskets hhooks

end ChainRequest

end LeveredBasket
