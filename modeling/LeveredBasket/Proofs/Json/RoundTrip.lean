/-
Everything that is written as JSON is read back as it was.

Every record has its fields under names of its own, every variant its name, and
the fields are of lawful forms again, so each form here is lawful by
`Json.fields?_record_bind` from those of its fields. The allow list is the one
form with names that are data: baskets in digits, which are written as they are
(`AllowList.basketOf?_nameOf`) and of which no two share a name. What order its
members stand in does not matter (`AllowList.decode?_formOf`).
-/
import LeveredBasket.AllowList
import LeveredBasket.Basket
import LeveredBasket.Event
import LeveredBasket.Leverage.Report
import LeveredBasket.Proofs.Exchange.Order
import LeveredBasket.Settings
import Mathlib.Data.List.Nodup
import Mathlib.Data.List.Perm.Basic

set_option autoImplicit false

namespace LeveredBasket

open JsonForm (encode decode?)

/-- **Every value of the type is read back** from its JSON text. -/
def JsonForm.RoundTrips (α : Type) [JsonForm α] : Prop := ∀ a : α, ofText? (text a) = some a

namespace AllowList

/-- A basket's name among the members: its number in digits. -/
def nameOf (basket : Address) : String := String.ofList (Nat.toDigits 10 basket.value.toNat)

/-- The member that an entry is. -/
def memberOf (e : Address × Bool) : String × Json := (nameOf e.1, encode e.2)

/-- The form of the list with its baskets in this order. -/
def formOf (l : AllowList) (entries : List (Address × Bool)) : Json := Json.record [
  ("allowed", Json.record (entries.map memberOf)), ("any_basket_allowed", encode l.anyAllowed),
  ("version", encode l.version)]

end AllowList

/-- **What is written is read back as it was**, type by type. -/
structure JsonForm.ReadsWhatItWrites : Prop where
  word (bits : Nat) : RoundTrips (Word bits)
  intWord64 : RoundTrips (IntWord 64)
  intWord128 : RoundTrips (IntWord 128)
  string : RoundTrips String
  bool : RoundTrips Bool
  bytes : RoundTrips Bytes
  address : RoundTrips Address
  positionUnit : RoundTrips PositionUnit
  basisPoints : RoundTrips BasisPoints
  instant : RoundTrips Instant
  rounding : RoundTrips Rounding
  positionKind : RoundTrips PositionKind
  position : RoundTrips Position
  moduleStatus : RoundTrips ModuleStatus
  settings : RoundTrips Settings
  environment : RoundTrips Environment
  allowList : RoundTrips AllowList
  /-- Also with its baskets in any other order. -/
  allowListOf (l : AllowList) (entries : List (Address × Bool)) :
    entries.Perm l.allowed.entries → ofText? (l.formOf entries).text = some l
  marketParams : RoundTrips Lending.MarketParams
  marketId : RoundTrips Lending.MarketId
  totals : RoundTrips Lending.Totals
  account : RoundTrips Lending.Account
  repayAmount : RoundTrips Lending.RepayAmount
  movement : RoundTrips Lending.Movement
  swapOrder : RoundTrips Exchange.SwapOrder
  tradeCall : RoundTrips Exchange.TradeCall
  leverState : RoundTrips Leverage.LeverState
  leverReport : RoundTrips Leverage.LeverReport
  deleverReport : RoundTrips Leverage.DeleverReport
  syncReport : RoundTrips Leverage.SyncReport
  balances : RoundTrips Leverage.Balances
  leverageChange : RoundTrips LeverageChange
  hookMovement : RoundTrips HookMovement
  eventPayload : RoundTrips EventPayload
  event : RoundTrips Event
  /-- An order of two different assets comes out of the adapter's call as it went in. -/
  payload (router : Address) (o : Exchange.SwapOrder) : o.sendAsset ≠ o.receiveAsset →
    ∃ call, (Exchange.Adapter.fixedRate router).call o = .ok call ∧ call.target = router ∧
      call.value = 0 ∧ Exchange.SwapOrder.ofPayload? call.payload = some o

/-! ## Names without content -/

instance : LawfulJsonForm PositionKind where
  written k := Json.written_ofText k.name
  decode?_encode k := by cases k <;> simp [encode, decode?, PositionKind.name]

instance : LawfulJsonForm ModuleStatus where
  written s := Json.written_ofText s.name
  decode?_encode s := by cases s <;> simp [encode, decode?, ModuleStatus.name]

instance : LawfulJsonForm Environment where
  written e := Json.written_ofText e.name
  decode?_encode e := by cases e <;> simp [encode, decode?, Environment.name]

instance : LawfulJsonForm Leverage.LeverState where
  written s := Json.written_ofText s.name
  decode?_encode s := by cases s <;> simp [encode, decode?, Leverage.LeverState.name]

/-! ## Records -/

instance : LawfulJsonForm Position where
  written p := Json.written_record (by simp [LawfulJsonForm.written])
  decode?_encode p := Json.fields?_record_bind rfl (by simp) (by
    have hholder : Json.optional (some (encode p.holder)) = some p.holder :=
      LawfulJsonForm.decode?_encode p.holder
    simp [hholder])

/-- All fields are there, so none has its usual value for want of another. -/
instance : LawfulJsonForm Settings where
  written s := Json.written_record (by simp [LawfulJsonForm.written])
  decode?_encode s := Json.fields?_record_bind rfl (by simp) (by simp)

namespace Lending

instance : LawfulJsonForm MarketParams where
  written p := Json.written_record (by simp [LawfulJsonForm.written])
  decode?_encode p := Json.fields?_record_bind rfl (by simp) (by simp)

instance : LawfulJsonForm MarketId where
  written i := LawfulJsonForm.written i.bytes
  decode?_encode i := by
    have hnumber : i.bytes.toNumber = i.value.toNat :=
      (Bytes.toNumber_bigEndian 32 _).trans (Nat.mod_eq_of_lt i.value.isLt)
    have hlength : i.bytes.length = 32 := Bytes.length_bigEndian 32 _
    change (decode? (encode i.bytes) >>= fun bytes : Bytes =>
      if bytes.length = 32 then (Word.ofNat? 256 bytes.toNumber).map MarketId.mk else none) = some i
    rw [LawfulJsonForm.decode?_encode, Option.bind_eq_bind, Option.bind_some, if_pos hlength,
      hnumber, Word.ofNat?_toNat]
    rfl

instance : LawfulJsonForm Account where
  written a := Json.written_record (by simp [LawfulJsonForm.written])
  decode?_encode a := Json.fields?_record_bind rfl (by simp) (by simp)

instance : LawfulJsonForm Totals where
  written t := Json.written_record (by simp [LawfulJsonForm.written])
  decode?_encode t := Json.fields?_record_bind rfl (by simp) (by simp)

instance : LawfulJsonForm RepayAmount where
  written a := by cases a <;> exact Json.written_variant _ (LawfulJsonForm.written _)
  decode?_encode a := by
    have hassets (content : Json) : decode? (Json.variant "Assets" content) =
        (decode? content).map RepayAmount.assets := by simp [decode?]
    have hshares (content : Json) : decode? (Json.variant "Shares" content) =
        (decode? content).map RepayAmount.shares := by simp [decode?]
    cases a with
    | assets amount =>
      exact (hassets _).trans (congrArg _ (LawfulJsonForm.decode?_encode amount))
    | shares amount =>
      exact (hshares _).trans (congrArg _ (LawfulJsonForm.decode?_encode amount))

instance : LawfulJsonForm Movement where
  written m := Json.written_record (by simp [LawfulJsonForm.written])
  decode?_encode m := Json.fields?_record_bind rfl (by simp) (by simp)

end Lending

instance : LawfulJsonForm Exchange.TradeCall where
  written c := Json.written_record (by simp [LawfulJsonForm.written])
  decode?_encode c := Json.fields?_record_bind rfl (by simp) (by simp)

namespace Leverage

instance : LawfulJsonForm LeverReport where
  written r := Json.written_record (by simp [LawfulJsonForm.written])
  decode?_encode r := Json.fields?_record_bind rfl (by simp) (by simp)

instance : LawfulJsonForm DeleverReport where
  written r := Json.written_record (by simp [LawfulJsonForm.written])
  decode?_encode r := Json.fields?_record_bind rfl (by simp) (by simp)

instance : LawfulJsonForm SyncReport where
  written r := Json.written_record (by simp [LawfulJsonForm.written])
  decode?_encode r := Json.fields?_record_bind rfl (by simp) (by simp)

instance : LawfulJsonForm Balances where
  written b := Json.written_record (by simp [LawfulJsonForm.written])
  decode?_encode b := Json.fields?_record_bind rfl (by simp) (by simp)

end Leverage

/-! ## Events -/

instance : LawfulJsonForm LeverageChange where
  written c := Json.written_record (by simp [LawfulJsonForm.written])
  decode?_encode c := Json.fields?_record_bind rfl (by simp) (by simp)

instance : LawfulJsonForm HookMovement where
  written m := Json.written_record (by simp [LawfulJsonForm.written])
  decode?_encode m := Json.fields?_record_bind rfl (by simp) (by simp)

namespace EventPayload

theorem written_encode (p : EventPayload) : (encode p).Written := by
  cases p <;> refine Json.written_variant _ ?_ <;>
    first
      | exact LawfulJsonForm.written _
      | exact Json.written_record (by simp [LawfulJsonForm.written])

/-- What is written under a variant's name is read under it. -/
theorem ofVariant?_encode (p : EventPayload) :
    ∃ name content, encode p = Json.variant name content ∧ ofVariant? name content = some p := by
  cases p with
  | leverageIncreased change | leverageDecreased change | issueHookBorrowed change
  | redeemHookRepaid change =>
    refine ⟨_, _, rfl, ?_⟩
    simp [ofVariant?, LawfulJsonForm.decode?_encode]
  -- the others have their fields written in place
  | _ =>
    refine ⟨_, _, rfl, ?_⟩
    simp only [ofVariant?]
    exact Json.fields?_record_bind rfl (by simp) (by simp)

instance : LawfulJsonForm EventPayload where
  written := written_encode
  decode?_encode p := by
    obtain ⟨name, content, hencode, hread⟩ := ofVariant?_encode p
    change Json.variant? (encode p) >>= (fun nc => ofVariant? nc.1 nc.2) = some p
    rw [hencode, Json.variant?_variant]
    exact hread

end EventPayload

instance : LawfulJsonForm Event where
  written e := Json.written_record (by simp [LawfulJsonForm.written])
  decode?_encode e := Json.fields?_record_bind rfl (by simp) (by simp)

/-! ## The allow list -/

namespace AllowList

theorem escape_toDigits (n : Nat) :
    Json.Quoted.escape (Nat.toDigits 10 n) = Nat.toDigits 10 n := by
  have hdigits : ∀ digits : List Char, (∀ c ∈ digits, c.isDigit = true) →
      Json.Quoted.escape digits = digits := by
    intro digits h
    induction digits with
    | nil => rfl
    | cons c digits ih =>
      have hc := Json.Quoted.escapeChar_of_isDigit (h c List.mem_cons_self)
      have hrest := ih fun x hx => h x (List.mem_cons_of_mem _ hx)
      rw [Json.Quoted.escape] at hrest ⊢
      rw [List.flatMap_cons, hc, hrest, List.singleton_append]
  exact hdigits _ fun c hc => Json.isDigit_toDigits hc

/-- A basket is read off its name. -/
theorem basketOf?_nameOf (basket : Address) :
    basketOf? (Json.Quoted.escape (nameOf basket).toList) = some basket := by
  have htake : Json.takeWhole? (Nat.toDigits 10 basket.value.toNat) =
      some (Nat.toDigits 10 basket.value.toNat, []) := by
    have hend : Json.Follows [] := fun c hc => by cases hc
    have h := Json.takeWhole?_toDigits basket.value.toNat hend
    rwa [List.append_nil] at h
  rw [nameOf, String.toList_ofList, escape_toDigits, basketOf?, htake]
  change ((Json.natural? _ >>= Word.ofNat? 64).map Address.mk) = some basket
  rw [Json.natural?_toDigits, Option.bind_eq_bind, Option.bind_some, Word.ofNat?_toNat]
  rfl

theorem nameOf_injective {a b : Address} (h : nameOf a = nameOf b) : a = b := by
  have hread := basketOf?_nameOf a
  rw [h, basketOf?_nameOf] at hread
  exact (Option.some.inj hread).symm

/-- The table of members that are entries has these entries. -/
theorem table?_members (entries : List (Address × Bool)) :
    table? (entries.map fun e => (Json.Quoted.escape (memberOf e).1.toList, (memberOf e).2)) =
      some (.ofEntries entries) := by
  -- generalized over the entries put in so far
  have hfold : ∀ (m : FiniteMap Address Bool),
      (entries.map fun e => (Json.Quoted.escape (memberOf e).1.toList, (memberOf e).2)).foldlM
        (fun m member => do pure (m.insert (← basketOf? member.1) (← decode? member.2))) m =
      some (entries.foldl (fun m e => m.insert e.1 e.2) m) := by
    induction entries with
    | nil => exact fun _ => rfl
    | cons e entries ih =>
      intro m
      have hvalue : decode? (encode e.2) = some e.2 := LawfulJsonForm.decode?_encode e.2
      rw [List.map_cons, List.foldlM_cons, memberOf, basketOf?_nameOf, hvalue]
      exact ih _
  exact hfold .empty

/-- **The order of the members does not matter.** -/
theorem decode?_formOf {l : AllowList} {entries : List (Address × Bool)}
    (h : entries.Perm l.allowed.entries) : decode? (l.formOf entries) = some l := by
  have hnodup : (entries.map Prod.fst).Nodup := (h.map _).nodup_iff.2 l.allowed.nodup_keys
  have hsame : FiniteMap.ofEntries entries = l.allowed := by
    refine FiniteMap.ext_get? fun basket => Option.ext fun allowed => ?_
    rw [FiniteMap.get?_eq_some_iff, FiniteMap.get?_eq_some_iff, FiniteMap.mem_ofEntries hnodup]
    exact h.mem_iff
  have htable : table? ((entries.map memberOf).map fun m =>
      (Json.Quoted.escape m.1.toList, m.2)) = some l.allowed := by
    rw [List.map_map, ← hsame]
    exact table?_members entries
  refine Json.fields?_record_bind rfl (by simp) ?_
  change (table? ((entries.map memberOf).map fun m => (Json.Quoted.escape m.1.toList, m.2)) >>= _)
    = _
  rw [htable]
  simp

theorem written_formOf (l : AllowList) (entries : List (Address × Bool)) :
    (l.formOf entries).Written := by
  have hmembers : (Json.record (entries.map memberOf)).Written := Json.written_record (by
    intro m hm
    obtain ⟨e, -, rfl⟩ := List.mem_map.1 hm
    exact LawfulJsonForm.written e.2)
  exact Json.written_record (by simp [hmembers, LawfulJsonForm.written])

/-- The members are the entries, in another order. -/
theorem members_perm (l : AllowList) : l.members.Perm (l.allowed.entries.map memberOf) := by
  have hnames : ((l.allowed.entries.map memberOf).map Prod.fst).Nodup := by
    rw [List.map_map]
    have hkeys : ((l.allowed.entries.map Prod.fst).map nameOf).Nodup :=
      l.allowed.nodup_keys.map fun _ _ => nameOf_injective
    rwa [List.map_map] at hkeys
  -- the members are put in a map by name, which has the entries of the list: no name comes twice
  have hmembers : l.members = (FiniteMap.ofEntries (l.allowed.entries.map memberOf)).entries := by
    rw [FiniteMap.ofEntries, List.foldl_map]
    rfl
  rw [hmembers, List.perm_ext_iff_of_nodup (FiniteMap.nodup_keys _).of_map hnames.of_map]
  exact FiniteMap.mem_ofEntries hnames

/-- The form of a list is its form with its baskets in some order. -/
theorem exists_encode_eq (l : AllowList) :
    ∃ entries : List (Address × Bool), entries.Perm l.allowed.entries ∧
      encode l = l.formOf entries := by
  -- the order of the members is taken back to the entries that they are of
  have hentries : List.Forall₂ (fun m e => m = memberOf e) (l.allowed.entries.map memberOf)
      l.allowed.entries := by
    rw [List.forall₂_map_left_iff]
    exact List.forall₂_same.2 fun _ _ => rfl
  obtain ⟨entries, hsame, hperm⟩ := List.perm_comp_forall₂ l.members_perm hentries
  have hmembers : l.members = entries.map memberOf := by
    rw [← List.forall₂_eq_eq_eq, List.forall₂_map_right_iff]
    exact hsame
  exact ⟨entries, hperm, by rw [formOf, ← hmembers]; rfl⟩

instance : LawfulJsonForm AllowList where
  written l := by
    obtain ⟨entries, -, hform⟩ := l.exists_encode_eq
    exact hform ▸ written_formOf l entries
  decode?_encode l := by
    obtain ⟨entries, hperm, hform⟩ := l.exists_encode_eq
    exact hform ▸ decode?_formOf hperm

end AllowList

/-! ## All together -/

/-- The adapter's call carries the order. -/
theorem Exchange.Adapter.call_fixedRate (router : Address) {o : SwapOrder}
    (h : o.sendAsset ≠ o.receiveAsset) :
    (fixedRate router).call o = .ok ⟨router, 0, o.payload⟩ := if_neg h

open JsonForm in
/-- **Whatever is written as JSON is read back as it was**, whichever value of its type it is. -/
theorem JsonForm.readsWhatItWrites : ReadsWhatItWrites where
  word _ := ofText?_text
  intWord64 := ofText?_text
  intWord128 := ofText?_text
  string := ofText?_text
  bool := ofText?_text
  bytes := ofText?_text
  address := ofText?_text
  positionUnit := ofText?_text
  basisPoints := ofText?_text
  instant := ofText?_text
  rounding := ofText?_text
  positionKind := ofText?_text
  position := ofText?_text
  moduleStatus := ofText?_text
  settings := ofText?_text
  environment := ofText?_text
  allowList := ofText?_text
  allowListOf l entries h :=
    ofText?_of_written (l.written_formOf entries) (AllowList.decode?_formOf h)
  marketParams := ofText?_text
  marketId := ofText?_text
  totals := ofText?_text
  account := ofText?_text
  repayAmount := ofText?_text
  movement := ofText?_text
  swapOrder := ofText?_text
  tradeCall := ofText?_text
  leverState := ofText?_text
  leverReport := ofText?_text
  deleverReport := ofText?_text
  syncReport := ofText?_text
  balances := ofText?_text
  leverageChange := ofText?_text
  hookMovement := ofText?_text
  eventPayload := ofText?_text
  event := ofText?_text
  payload router o h :=
    ⟨_, Exchange.Adapter.call_fixedRate router h, rfl, rfl, Exchange.SwapOrder.ofPayload?_payload o⟩

open JsonForm in
/-- Two baskets written the other way around, and an order with a route of two bytes. -/
theorem JsonForm.readsWhatItWrites_of_two :
    let l : AllowList := ⟨.ofEntries [(⟨0⟩, true), (⟨1⟩, false)], true, 1⟩
    let o : Exchange.SwapOrder := ⟨⟨0⟩, ⟨1⟩, ⟨0⟩, 1, 0, [0, 255]⟩
    [(⟨1⟩, false), (⟨0⟩, true)].Perm l.allowed.entries ∧
      ofText? (l.formOf [(⟨1⟩, false), (⟨0⟩, true)]).text = some l ∧
      o.sendAsset ≠ o.receiveAsset ∧
      ∃ call, (Exchange.Adapter.fixedRate ⟨1⟩).call o = .ok call ∧ call.target = ⟨1⟩ ∧
        call.value = 0 ∧ Exchange.SwapOrder.ofPayload? call.payload = some o := by
  intro l o
  have hperm : [(⟨1⟩, false), (⟨0⟩, true)].Perm l.allowed.entries := by decide
  have hdiffer : o.sendAsset ≠ o.receiveAsset := by decide
  exact ⟨hperm, readsWhatItWrites.allowListOf l _ hperm, hdiffer,
    readsWhatItWrites.payload ⟨1⟩ o hdiffer⟩

end LeveredBasket
