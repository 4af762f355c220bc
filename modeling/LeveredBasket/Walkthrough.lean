/-
A walk through the life of a levered basket, told in lines of text.

Each scene starts from the reference deployment in some stage and says what
comes of a few operations. The settings that were loaded are named in the
heading; the scenes themselves run on the usual ones.
-/
import LeveredBasket.Deployment
import LeveredBasket.Leverage.Issuance
import LeveredBasket.Settings.Load

set_option autoImplicit false

namespace LeveredBasket.Walkthrough

open Deployment
open Leverage (LeverageError World)
open Lending (Bank)

/-- **A scene**: a run that tells its lines. -/
abbrev Scene := Action World LeverageError (List String)

/-! ## Quantities -/

/-- A quantity of USDC in whole tokens. -/
def dollars (amount : Amount) : String := (Decimal.ofAmount amount 6).text

/-- A quantity of wstETH in whole tokens. -/
def ether (amount : Amount) : String := (Decimal.ofAmount amount 18).text

/-- One half of a token with eighteen decimals. -/
def half : Amount := ⟨500_000_000_000_000_000, by decide⟩

def quarter : Amount := ⟨250_000_000_000_000_000, by decide⟩

def tenth : Amount := ⟨100_000_000_000_000_000, by decide⟩

def twentieth : Amount := ⟨50_000_000_000_000_000, by decide⟩

def hundredUsdc : Amount := ⟨100 * oneUsdc, by decide⟩

/-- The seconds of a year. -/
def year : Word 64 := ⟨365 * 24 * 3600, by decide⟩

/-- Ten parts in a hundred a year, for each second. -/
def tenPercent : Amount := ⟨100_000_000_000_000_000 / (365 * 24 * 3600), by decide⟩

/-! ## Lines -/

/-- A line for each position of the basket (`print_positions`). -/
def positionLines : Scene := .read fun w =>
  (w.chain.positions basket).map fun p =>
    let places := (w.chain.tokens.token p.component).decimals.toNat
    let size := (Decimal.ofAmount p.unit.magnitude places).text
    let mark := if p.unit.isNegative then "-" else ""
    "    " ++ p.kind.name ++ " " ++ p.component.text ++ " unit " ++ mark ++ size

/-- What an action tells when it goes through, and when it is refused. A refusal is not the end of
the scene. -/
def either {α : Type} (x : Action World LeverageError α) (done : α → List String)
    (refused : LeverageError → List String) : Scene := fun w =>
  match x w with
  | .done a w => .done (done a) w
  | .refused e w => .done (refused e) w
  | .aborted => .aborted

/-! ## Scenes (`scenario_1_enter_collateral` to `scenario_7_remove_module`) -/

def enterCollateral : Scene := do
  enrolled
  let before ← positionLines
  enter
  let state ← .read fun w => w.desk.leverState w.chain basket
  let after ← positionLines
  pure (["Scenario 1: Enter Collateral Position", "", "  Before:"] ++ before ++
    ["  After (" ++ state.name ++ "):"] ++ after ++ [""])

def leverUp : Scene := do
  entered
  let r ← lever thousandUsdc quarter
  let after ← positionLines
  let second ← either (lever thousandUsdc half) (fun _ => ["    unexpectedly filled"]) fun e =>
    ["    rejected: " ++ e.message ++ " (retryable: " ++ toString e.isRetryable ++ ")"]
  pure (["Scenario 2: Lever", "",
    "  Borrowed " ++ dollars r.borrowed ++ " USDC, received " ++ ether r.received ++ " wstETH",
    "  Units: collateral " ++ toString r.collateralUnit ++ ", debt " ++ toString r.borrowUnit] ++
    after ++ ["", "  Lever with a 0.5 wstETH minimum for 1000 USDC:"] ++ second ++ [""])

def accrueAndSync : Scene := do
  levered
  (World.onChain (Chain.onBank (Bank.setRate params tenPercent))).mapError .lending
  let w ← .read id
  let later ← .orAbort (w.chain.pool.advance? year)
  .modify fun w => { w with chain := { w.chain with pool := later } }
  let stale ← .ofExcept (w.desk.balances w.chain basket)
  let synced ← World.sync basket
  let told := match synced with
    | some r => ["  Debt after sync: " ++ dollars r.borrowNotional ++ " USDC, debt unit " ++
        toString r.borrowUnit]
    | none => []
  pure (["Scenario 3: Interest Accrual and Sync", "",
    "  Debt before accrual: " ++ dollars stale.borrow ++ " USDC"] ++ told ++ [""])

def partialDelever : Scene := do
  levered
  let r ← delever twentieth hundredUsdc
  let after ← positionLines
  pure (["Scenario 4: Partial Delever", "",
    "  Withdrew " ++ ether r.collateralWithdrawn ++ " wstETH, repaid " ++ dollars r.repaid ++
      " USDC"] ++ after ++ [""])

def fullDelever : Scene := do
  levered
  let r ← deleverToZero half
  let after ← positionLines
  pure (["Scenario 5: Delever to Zero Borrow Balance", "",
    "  Repaid " ++ dollars r.repaid ++ " USDC, fully delevered: " ++ toString r.fullyDelevered] ++
    after ++ [""])

def issuanceHooks : Scene := do
  levered
  let borrowed ← World.issueHook orchestrator basket tenth usdc false
  let repaid ← World.redeemHook orchestrator basket tenth usdc false
  pure ["Scenario 6: Issuance Hooks", "",
    "  Issue 0.1 tokens: borrowed " ++ dollars borrowed ++ " USDC into the basket",
    "  Redeem 0.1 tokens: repaid " ++ dollars repaid ++ " USDC", ""]

def removal : Scene := do
  levered
  let refusal ← either (World.letGo basket basket) (fun _ => []) fun e =>
    ["  While levered: " ++ e.message]
  let _ ← deleverToZero half
  let withdrawn ← World.letGo basket basket
  ledger (Chain.detachModule basket holder)
  let after ← positionLines
  pure (["Scenario 7: Module Removal", ""] ++ refusal ++
    ["  After delevering: withdrew " ++ ether withdrawn ++ " wstETH back to the basket"] ++ after)

/-! ## The whole walk -/

def scenes : List Scene :=
  [enterCollateral, leverUp, accrueAndSync, partialDelever, fullDelever, issuanceHooks, removal]

def heading (s : Settings) : List String := [
  "Basket Leverage Simulation",
  "wstETH collateral, USDC debt, fee cap " ++ s.maxFee.text ++ ", component hook sync: " ++
    toString s.syncOnHook,
  ""]

/-- The lines of scenes one after another, and whether all of them went through. -/
def tell : List Scene → List String × Bool
  | [] => (["", "All simulations completed successfully."], true)
  | scene :: rest =>
    match scene.run (start .usual) with
    | .done lines _ =>
      let (others, complete) := tell rest
      (lines ++ others, complete)
    | _ => ([], false)

/-- **The walk**, with the settings from a file and the environment: its lines, and whether it came
to its end. -/
def run (file : Option String) (environment : List (String × String)) : List String × Bool :=
  match Settings.load file environment with
  | .ok settings =>
    let (lines, complete) := tell scenes
    (heading settings ++ lines, complete)
  | .error _ => ([], false)

end LeveredBasket.Walkthrough
