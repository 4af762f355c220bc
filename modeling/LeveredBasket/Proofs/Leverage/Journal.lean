/-
What a desk says, and what its log keeps of it.

The log is not the whole story: it forgets the oldest events. What an operation says
(`LeverageModule::emit_event`) is what its session has said where it goes through,
and nothing where it is refused (`World.said`). All of that, one request after
another, is what has been told (`World.told`), and the log is always the end of it,
as much as the log may hold (`World.log_runs`).

To know what one request says is thus to know what follows from all events together,
those included that the log has forgotten.
-/
import LeveredBasket.Proofs.Leverage.Steps

set_option autoImplicit false

namespace LeveredBasket

/-- The last `limit` of a list, or all of it. -/
def latest {α : Type} (limit : Nat) (xs : List α) : List α := xs.drop (xs.length - limit)

/-- What happened, as far as the log remembers. -/
def EventLog.payloads (l : EventLog) : List EventPayload := l.events.map (·.payload)

namespace Leverage

/-- What an operation says, if it goes through. -/
def World.said {α : Type} (w : World) (op : Desk → Operation α) : List EventPayload :=
  match (op w.desk).run ⟨w.chain, w.desk.records, []⟩ with
  | .done _ s => s.events
  | .refused _ _ => []
  | .aborted => []

/-- What a desk says when it is asked about a basket. -/
def BasketOperation.announces (basket : Address) (w : World) : BasketOperation → List EventPayload
  | setAllowed caller allowed =>
    if ((World.setAllowed caller basket allowed).run w).isDone then
      [.allowListUpdated basket allowed]
    else []
  | enrol caller params => w.said (Operation.enrol caller basket params)
  | registerIssuer caller issuer => w.said (Operation.registerIssuer caller basket issuer)
  | letGo caller => w.said (Operation.letGo caller basket)
  | enter caller => w.said (Operation.enter caller basket)
  | lever caller borrowUnits minReceiveUnits adapterName route =>
    w.said (Operation.lever caller basket borrowUnits minReceiveUnits adapterName route)
  | delever caller redeemUnits minRepayUnits adapterName route =>
    w.said (Operation.delever caller basket redeemUnits minRepayUnits adapterName route)
  | deleverToZero caller redeemUnits adapterName route =>
    w.said (Operation.deleverToZero caller basket redeemUnits adapterName route)
  | sync => w.said fun d => do
    let r ← Operation.recordOf d basket
    Operation.syncPositions d basket r
  | moduleHook caller => w.said (Operation.moduleHook caller basket)
  | issueHook caller quantity component isEquity =>
    w.said (Operation.issueHook caller basket quantity component isEquity)
  | redeemHook caller quantity component isEquity =>
    w.said (Operation.redeemHook caller basket quantity component isEquity)

def DeskRequest.announces (w : World) : DeskRequest → List EventPayload
  | setTime _ => []
  | advanceTime _ => []
  | setAnyAllowed caller anyAllowed =>
    if ((World.setAnyAllowed caller anyAllowed).run w).isDone then
      [.anyBasketAllowedUpdated anyAllowed]
    else []
  | basket address operation => operation.announces address w

/-- What a desk says to a request. The chain says nothing. -/
def Request.announces (w : World) : Request → List EventPayload
  | chain _ => []
  | desk request => request.announces w

/-- **All that is said** where one request is made after another. -/
def World.told : List Request → World → List EventPayload
  | [], _ => []
  | r :: rest, w => r.announces w ++ (r.after w).elim [] (told rest)

/-- **`P` holds of every request** in the world in which it is made. -/
def World.Along (P : World → Request → Prop) : List Request → World → Prop
  | [], _ => True
  | r :: rest, w => P w r ∧ ∀ w' ∈ r.after w, Along P rest w'

instance World.decidableAlong (P : World → Request → Prop) [∀ w r, Decidable (P w r)] :
    (requests : List Request) → (w : World) → Decidable (World.Along P requests w)
  | [], _ => isTrue trivial
  | r :: rest, w =>
    have (w' : World) : Decidable (World.Along P rest w') := decidableAlong P rest w'
    inferInstanceAs (Decidable (P w r ∧ ∀ w' ∈ r.after w, World.Along P rest w'))

/-- **The log of `w'` is that of `w` with this put in.** Where nothing is said it may also be the
same log. -/
structure World.Logged (w : World) (said : List EventPayload) (w' : World) : Prop where
  settings : w'.desk.settings = w.desk.settings
  log : said = [] ∧ w'.desk.log = w.desk.log ∨
    w.desk.log.append? w.desk.settings.maxEvents.toNat w.desk.clock said = some w'.desk.log

end Leverage

/-! ## Logs -/

/-- What has been forgotten before is forgotten after. -/
theorem latest_append {α : Type} (limit : Nat) (xs ys : List α) :
    latest limit (latest limit xs ++ ys) = latest limit (xs ++ ys) := by
  have hle : xs.length - limit ≤ xs.length := Nat.sub_le _ _
  unfold latest
  rw [← List.drop_append_of_le_length hle, List.drop_drop, List.length_drop, List.length_append]
  congr 1
  omega

theorem latest_of_length_le {α : Type} {limit : Nat} {xs : List α} (h : xs.length ≤ limit) :
    latest limit xs = xs := by
  rw [latest, Nat.sub_eq_zero_of_le h, List.drop_zero]

theorem length_latest_le {α : Type} (limit : Nat) (xs : List α) :
    (latest limit xs).length ≤ limit := by
  rw [latest, List.length_drop]
  omega

namespace EventLog

variable {l l' : EventLog} {time : Instant} {payloads : List EventPayload}

/-- Events are put at the end, in their order. -/
theorem payloads_push
    (h : payloads.foldlM (fun (l : EventLog) p => l.push? time p) l = some l') :
    l'.payloads = l.payloads ++ payloads := by
  induction payloads generalizing l with
  | nil =>
    obtain rfl := Option.some.inj h
    exact (List.append_nil _).symm
  | cons p rest ih =>
    obtain ⟨l₁, hl₁, hrest⟩ := Option.bind_eq_some_iff.1 h
    obtain ⟨next, -, rfl⟩ := Option.map_eq_some_iff.1 hl₁
    rw [ih hrest, EventLog.payloads, EventLog.payloads, List.map_append, List.append_assoc]
    rfl

/-- **A log keeps the latest events.** -/
theorem payloads_append {limit : Nat} (h : l.append? limit time payloads = some l') :
    l'.payloads = latest limit (l.payloads ++ payloads) := by
  obtain ⟨l₁, hl₁, rfl⟩ := Option.map_eq_some_iff.1 h
  rw [← payloads_push hl₁, latest, EventLog.payloads, EventLog.payloads, EventLog.recent,
    List.length_map, List.map_drop]

end EventLog

namespace Leverage

/-! ## One request -/

variable {w w' v : World}

theorem World.Logged.refl (w : World) : w.Logged [] w := ⟨rfl, .inl ⟨rfl, rfl⟩⟩

/-- **What an operation says goes to the log**, and where it is refused, nothing does. -/
theorem World.operate_logged {α : Type} (op : Desk → Operation α) (w : World) :
    ((World.operate op).run w).Ends (fun _ w' => w.Logged (w.said op) w')
      fun _ w' => w.Logged (w.said op) w' := by
  change (World.operate op w).Ends _ _
  unfold World.operate World.said Action.run
  generalize op w.desk ⟨w.chain, w.desk.records, []⟩ = outcome
  cases outcome with
  | done a s =>
    dsimp only
    split
    case h_1 desk hdesk =>
      obtain ⟨log, hlog, rfl⟩ := Option.map_eq_some_iff.1 hdesk
      exact ⟨rfl, .inr hlog⟩
    case h_2 => trivial
  | refused e s => exact .refl w
  | aborted => trivial

/-- So does a change of the allow list. -/
theorem World.changeAllowList_logged (change : AllowList → Option AllowList)
    (payload : EventPayload) (w : World) :
    ((World.changeAllowList change payload).run w).Ends (fun _ w' => w.Logged [payload] w')
      fun _ _ => False := by
  simp only [World.changeAllowList, Action.ends_bind, Action.ends_read, Action.ends_orAbort,
    Action.ends_modify]
  intro allowList _ desk hdesk
  obtain ⟨log, hlog, rfl⟩ := Option.map_eq_some_iff.1 hdesk
  exact ⟨rfl, .inr hlog⟩

/-- What is said only where an action goes through. -/
theorem Logged.of_isDone {ε : Type} {x : Action World ε Unit} {payload : EventPayload}
    (hx : (x.run w).Ends (fun _ w' => w.Logged [payload] w') fun _ w' => w' = w)
    (h : x.after w = some w') :
    w.Logged (if (x.run w).isDone then [payload] else []) w' := by
  unfold Action.after at h
  cases hrun : x.run w with
  | done _ w₁ =>
    rw [hrun] at h hx
    obtain rfl := Option.some.inj h
    exact hx
  | refused e w₁ =>
    rw [hrun] at h hx
    obtain rfl := Option.some.inj h
    obtain rfl := hx
    exact .refl _
  | aborted =>
    rw [hrun] at h
    cases h

theorem BasketOperation.after_logged {basket : Address} {operation : BasketOperation}
    (h : (operation.perform basket).after w = some w') :
    w.Logged (operation.announces basket w) w' := by
  cases operation with
  | setAllowed caller allowed =>
    refine Logged.of_isDone ?_ h
    simp only [World.setAllowed, Action.ends_bind, Action.ends_read, Action.ends_require,
      implies_true, and_true]
    intro _ _
    exact (World.changeAllowList_logged _ _ w).imp (fun _ _ h => h) fun _ _ h => h.elim
  | enrol | registerIssuer => exact (World.operate_logged _ w).state h
  | letGo | enter | lever | delever | deleverToZero | sync | moduleHook | issueHook
  | redeemHook => exact (ends_forget (World.operate_logged _ w)).state h

/-- **What a request says goes to the log.** -/
theorem Request.after_logged {r : Request} (h : r.after w = some w') :
    w.Logged (r.announces w) w' := by
  cases r with
  | chain q =>
    obtain ⟨c, -, rfl⟩ := Option.map_eq_some_iff.1 h
    exact ⟨rfl, .inl ⟨rfl, rfl⟩⟩
  | desk q =>
    cases q with
    | setTime time =>
      obtain rfl := Option.some.inj h
      exact ⟨rfl, .inl ⟨rfl, rfl⟩⟩
    | advanceTime delay =>
      have hends : ((DeskRequest.advanceTime delay).perform.run w).Ends
          (fun _ w' => w.Logged [] w') fun _ w' => w.Logged [] w' := by
        simp only [DeskRequest.perform, World.advanceTime, World.setTime, Action.ends_bind,
          Action.ends_read, Action.ends_orAbort, Action.ends_modify, Action.run_pure,
          Outcome.ends_done]
        exact fun _ _ => ⟨rfl, .inl ⟨rfl, rfl⟩⟩
      exact hends.state h
    | setAnyAllowed caller anyAllowed =>
      refine Logged.of_isDone ?_ h
      simp only [World.setAnyAllowed, Action.ends_bind, Action.ends_read, Action.ends_require,
        implies_true, and_true]
      intro _
      exact (World.changeAllowList_logged _ _ w).imp (fun _ _ h => h) fun _ _ h => h.elim
    | basket address operation => exact BasketOperation.after_logged h

/-! ## Runs -/

variable {told : List EventPayload} {requests : List Request}

/-- What is said is put at the end of a log that remembers as much as it may. -/
theorem World.Logged.payloads {said : List EventPayload} (h : w.Logged said w')
    (hfull : w.desk.log.payloads.length ≤ w.desk.settings.maxEvents.toNat) :
    w'.desk.log.payloads =
      latest w.desk.settings.maxEvents.toNat (w.desk.log.payloads ++ said) := by
  obtain ⟨rfl, hlog⟩ | hlog := h.log
  · rw [hlog, List.append_nil, latest_of_length_le hfull]
  · exact EventLog.payloads_append hlog

/-- No log has more in it than it may hold. -/
theorem World.Logged.log_le {said : List EventPayload} (h : w.Logged said w')
    (hfull : w.desk.log.payloads.length ≤ w.desk.settings.maxEvents.toNat) :
    w'.desk.log.payloads.length ≤ w'.desk.settings.maxEvents.toNat := by
  rw [h.payloads hfull, h.settings]
  exact length_latest_le _ _

theorem World.Reachable.log_le (h : w.Reachable) :
    w.desk.log.payloads.length ≤ w.desk.settings.maxEvents.toNat := by
  obtain ⟨pool, router, feeRecipient, holder, owner, settings, requests, hrun⟩ := h
  refine World.runs_induction
    (I := fun u => u.desk.log.payloads.length ≤ u.desk.settings.maxEvents.toNat)
    (Nat.zero_le _) ?_ hrun
  exact fun r _ u u' hfull hafter => (Request.after_logged hafter).log_le hfull

/-- What each request keeps of which `P` holds is kept along a run of such requests. -/
theorem World.along_induction {P : World → Request → Prop} {I : World → Prop} (hw : I w)
    (hP : World.Along P requests w)
    (hstep : ∀ r u u', P u r → I u → r.after u = some u' → I u')
    (h : World.runs requests w = some v) : I v := by
  induction requests generalizing w with
  | nil =>
    obtain rfl : w = v := Option.some.inj h
    exact hw
  | cons r rest ih =>
    obtain ⟨u, hafter, hrest⟩ := Option.bind_eq_some_iff.1 h
    exact ih (hstep r w u hP.1 hw hafter) (hP.2 u hafter) hrest

/-- **The log is the end of all that has been said**, and of what it had in it before. -/
theorem World.log_runs (hfull : w.desk.log.payloads.length ≤ w.desk.settings.maxEvents.toNat)
    (h : World.runs requests w = some v) : v.desk.log.payloads =
      latest w.desk.settings.maxEvents.toNat (w.desk.log.payloads ++ World.told requests w) := by
  induction requests generalizing w with
  | nil =>
    obtain rfl : w = v := Option.some.inj h
    rw [World.told, List.append_nil, latest_of_length_le hfull]
  | cons r rest ih =>
    obtain ⟨u, hafter, hrest⟩ := Option.bind_eq_some_iff.1 h
    have hlogged := Request.after_logged hafter
    rw [ih (hlogged.log_le hfull) hrest, hlogged.payloads hfull, hlogged.settings, latest_append,
      World.told, hafter, Option.elim_some, List.append_assoc]

end Leverage

end LeveredBasket
