/-
Orders reach the venue (`FixedRateVenue::swap`) as they were written.

The payload of an order is read as that order (`SwapOrder.ofPayload?_payload`), so
a venue carries out what the order says. The least that has to come back is not a
part of that: orders that differ in it alone are carried out alike
(`Venue.swap_atLeast`).
-/
import LeveredBasket.Exchange.Venue
import LeveredBasket.Proofs.Json.Forms

set_option autoImplicit false

namespace LeveredBasket

open JsonForm (encode decode?)

namespace Exchange

instance : LawfulJsonForm SwapOrder where
  written o := by
    refine Json.written_record fun m hm => ?_
    simp only [List.mem_cons, List.not_mem_nil, or_false] at hm
    obtain rfl | rfl | rfl | rfl | rfl | rfl := hm <;> exact LawfulJsonForm.written _
  decode?_encode o := by
    have hfields : Json.fields? ["send_asset", "receive_asset", "recipient", "send_quantity",
        "min_receive_quantity", "route"] (encode o) =
        some [some (encode o.sendAsset), some (encode o.receiveAsset), some (encode o.recipient),
          some (encode o.sendQuantity), some (encode o.minReceiveQuantity),
          some (encode o.route)] :=
      Json.fields?_record [
        ("send_asset", encode o.sendAsset), ("receive_asset", encode o.receiveAsset),
        ("recipient", encode o.recipient), ("send_quantity", encode o.sendQuantity),
        ("min_receive_quantity", encode o.minReceiveQuantity), ("route", encode o.route)] (by simp)
    change Option.bind (Json.fields? _ _) _ = _
    rw [hfields]
    simp

/-- **The payload of an order is read as that order.** -/
theorem SwapOrder.ofPayload?_payload (o : SwapOrder) : ofPayload? o.payload = some o := by
  rw [ofPayload?, payload, Bytes.text?_ofText, Option.bind_eq_bind, Option.bind_some,
    JsonForm.ofText?_text]

/-- **A venue does not look at an order's minimum.** -/
theorem Venue.swap_atLeast (v : Venue) (caller target : Address) (value : Amount) (o : SwapOrder)
    (minimum : Amount) :
    v.swap caller ⟨target, value, SwapOrder.payload { o with minReceiveQuantity := minimum }⟩ =
      v.swap caller ⟨target, value, o.payload⟩ := by
  unfold Venue.swap
  simp only [SwapOrder.ofPayload?_payload, Action.orRefuse]
  rfl

end Exchange

end LeveredBasket
