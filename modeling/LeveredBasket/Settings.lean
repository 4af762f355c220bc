/-
The settings of a leverage desk.

Settings are plain values that may be anything of their type. `validate` says
which of them make sense together; the first fault in the order of the fields
is the one that is reported.
-/
import LeveredBasket.Json.Form

set_option autoImplicit false

namespace LeveredBasket

/-- **The settings of a desk** (`config::ModuleConfig`). -/
structure Settings where
  /-- How many events the log keeps. -/
  maxEvents : Word 64
  /-- The number of the fee that is charged on what a trade brings in. -/
  feeIndex : Word 64
  /-- The highest such fee that is honoured. -/
  maxFee : BasisPoints
  /-- The name under which the issuance orchestrator is registered. -/
  issuanceName : String
  /-- Whether component hooks bring the debt unit up to date themselves. -/
  syncOnHook : Bool
deriving DecidableEq

namespace Settings

/-- The name under which the issuance orchestrator is usually registered. -/
def usualIssuanceName : String := "DefaultIssuanceModule"

/-- The settings unless something else is said. -/
def usual : Settings where
  maxEvents := ⟨100_000, by decide⟩
  feeIndex := 0
  maxFee := ⟨⟨500, by decide⟩⟩
  issuanceName := usualIssuanceName
  syncOnHook := false

/-- Settings for strict consistency: hooks keep units up to date, and the fee cap is low
(`ModuleConfig::production`). -/
def production : Settings := { usual with maxFee := ⟨⟨100, by decide⟩⟩, syncOnHook := true }

end Settings

/-! ## Environments -/

/-- Where a desk runs (`config::Environment`). -/
inductive Environment where
  | development
  | production
deriving DecidableEq

namespace Environment

def settings : Environment → Settings
  | development => .usual
  | production => .production

def name : Environment → String
  | development => "development"
  | production => "production"

end Environment

/-! ## Blank texts -/

/-- The code points with the Unicode property `White_Space`, as ranges with both ends. -/
def Text.blankRanges : List (Nat × Nat) := [
  (0x0009, 0x000d), (0x0020, 0x0020), (0x0085, 0x0085), (0x00a0, 0x00a0), (0x1680, 0x1680),
  (0x2000, 0x200a), (0x2028, 0x2029), (0x202f, 0x202f), (0x205f, 0x205f), (0x3000, 0x3000)]

def Text.isBlank (c : Char) : Bool := blankRanges.any fun r => r.1 ≤ c.toNat && c.toNat ≤ r.2

/-- Whether a text has nothing but blanks in it. -/
def Text.isAllBlank (text : String) : Bool := text.toList.all isBlank

/-! ## Faults -/

/-- **What is wrong with settings** (`config::ConfigError`). -/
inductive SettingsError where
  /-- No room for a single event. -/
  | invalidLimit
  /-- A fee cap above the whole. -/
  | invalidFees
  /-- No name for the issuance orchestrator. -/
  | invalidIntegration
  /-- They cannot be read from where they were looked for. -/
  | unreadable
deriving DecidableEq

def SettingsError.message : SettingsError → String
  | invalidLimit => "Invalid limit: Event buffer must hold at least one event"
  | invalidFees => "Invalid fees: Fee cap above 100%"
  | invalidIntegration => "Invalid integration: Issuance module name is empty"
  | unreadable => "Failed to load configuration"

/-- The name under which the error is reported. -/
def SettingsError.name : SettingsError → String
  | invalidLimit => "InvalidLimit"
  | invalidFees => "InvalidFees"
  | invalidIntegration => "InvalidIntegration"
  | unreadable => "Load"

/-- The settings, if there is nothing wrong with them (`ModuleConfig::validate`). -/
def Settings.validate (s : Settings) : Except SettingsError Settings :=
  if s.maxEvents = 0 then .error .invalidLimit
  else if s.maxFee.exceedsWhole then .error .invalidFees
  else if Text.isAllBlank s.issuanceName then .error .invalidIntegration
  else .ok s

/-! ## JSON forms -/

open JsonForm (encode)

/-- Fields that are missing have their usual values. -/
instance : JsonForm Settings where
  encode s := Json.record [
    ("max_events", encode s.maxEvents),
    ("protocol_fee_index", encode s.feeIndex),
    ("max_protocol_fee_bps", encode s.maxFee),
    ("issuance_module_name", encode s.issuanceName),
    ("sync_on_component_hook", encode s.syncOnHook)]
  decode? v := do
    let [maxEvents, feeIndex, maxFee, issuanceName, syncOnHook] ← Json.someFields?
      ["max_events", "protocol_fee_index", "max_protocol_fee_bps", "issuance_module_name",
        "sync_on_component_hook"] v
      | none
    let usual := Settings.usual
    pure ⟨← Json.withDefault usual.maxEvents maxEvents, ← Json.withDefault usual.feeIndex feeIndex,
      ← Json.withDefault usual.maxFee maxFee, ← Json.withDefault usual.issuanceName issuanceName,
      ← Json.withDefault usual.syncOnHook syncOnHook⟩

instance : JsonForm Environment where
  encode e := Json.ofText e.name
  decode? v :=
    match Json.unitVariant? v with
    | some "development" => some .development
    | some "production" => some .production
    | _ => none

end LeveredBasket
