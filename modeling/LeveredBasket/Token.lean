/-
Tokens: balances, supply and allowances.

A token book holds one token for each asset. An asset nobody has touched is a
token with eighteen decimals and nothing on it. A transfer is refused where the
sender's balance is short; a balance or a supply that would grow past its width
ends the run instead, since no caller can do anything about it. What tokens refuse
and what baskets and tables of hooks refuse is told in the same way.
-/
import LeveredBasket.Action
import LeveredBasket.Scalars

set_option autoImplicit false

namespace LeveredBasket

/-! ## What is refused -/

/-- **Why a token or a basket refused a call** (`position::LedgerError`). -/
inductive LedgerError where
  | basketNotFound (basket : Address)
  | insufficientBalance (asset holder : Address) (requested available : Amount)
  | insufficientAllowance (asset owner spender : Address) (requested allowed : Amount)
  | negativeDefaultUnit (unit : PositionUnit)
  | moduleNotPending (address : Address)
  | hookRegistration (orchestrator : Address)
  | callFailed (reason : String)
deriving DecidableEq

def LedgerError.message : LedgerError → String
  | basketNotFound basket => s!"Basket {basket} not found"
  | insufficientBalance asset holder requested available =>
    s!"Insufficient {asset} balance on {holder}: requested {requested}, available {available}"
  | insufficientAllowance asset owner spender requested allowed =>
    s!"Insufficient {asset} allowance from {owner} to {spender}: " ++
      s!"requested {requested}, allowed {allowed}"
  | negativeDefaultUnit unit => s!"Default position unit must not be negative: {unit}"
  | moduleNotPending address => s!"Module {address} is not pending on the basket"
  | hookRegistration orchestrator =>
    s!"Issuance module {orchestrator} rejected the hook registration"
  | callFailed reason => s!"Ledger call failed: {reason}"

/-- The name under which the error is reported. -/
def LedgerError.name : LedgerError → String
  | basketNotFound .. => "BasketNotFound"
  | insufficientBalance .. => "InsufficientBalance"
  | insufficientAllowance .. => "InsufficientAllowance"
  | negativeDefaultUnit .. => "NegativeDefaultUnit"
  | moduleNotPending .. => "ModuleNotPending"
  | hookRegistration .. => "HookRegistration"
  | callFailed .. => "CallFailed"

/-! ## One token -/

/-- **A token.** -/
structure Token where
  decimals : Word 32
  supply : Amount
  /-- What each holder has. -/
  balances : FiniteMap Address Amount
  /-- What an owner (first) lets a spender (second) move; never zero. -/
  allowances : FiniteMap (Address × Address) Amount
deriving DecidableEq

namespace Token

/-- How many decimals a token has if nothing else is said. -/
def usualDecimals : Word 32 := ⟨18, by decide⟩

/-- A token that nobody has. -/
def untouched : Token := ⟨usualDecimals, 0, .empty, .empty⟩

def balance (t : Token) (holder : Address) : Amount := t.balances.getD holder 0

def allowance (t : Token) (owner spender : Address) : Amount :=
  t.allowances.getD (owner, spender) 0

/-- Takes `amount` from a holder who has it. -/
def debit? (t : Token) (holder : Address) (amount : Amount) : Option Token :=
  (t.balance holder).sub? amount |>.map fun left =>
    { t with balances := t.balances.insert holder left }

/-- Gives `amount` to a holder, if the balance can hold it. -/
def credit? (t : Token) (holder : Address) (amount : Amount) : Option Token :=
  (t.balance holder).add? amount |>.map fun sum =>
    { t with balances := t.balances.insert holder sum }

/-- Sets what an owner lets a spender move. -/
def approve (t : Token) (owner spender : Address) (amount : Amount) : Token :=
  { t with
    allowances :=
      if amount = 0 then t.allowances.erase (owner, spender)
      else t.allowances.insert (owner, spender) amount }

end Token

/-! ## All tokens -/

/-- **A token book** (`TokenBook`): the tokens by asset. -/
structure TokenBook where
  tokens : FiniteMap Address Token
deriving DecidableEq

namespace TokenBook

/-- A call on a token book. -/
abbrev Call (α : Type) := Action TokenBook LedgerError α

def empty : TokenBook := ⟨.empty⟩

/-- The token of an asset. -/
def token (b : TokenBook) (asset : Address) : Token := b.tokens.getD asset .untouched

def setToken (b : TokenBook) (asset : Address) (t : Token) : TokenBook :=
  ⟨b.tokens.insert asset t⟩

/-- Sets the decimals of an asset (`TokenBook::register`). -/
def register (b : TokenBook) (asset : Address) (decimals : Word 32) : TokenBook :=
  b.setToken asset { b.token asset with decimals := decimals }

def balance (b : TokenBook) (asset holder : Address) : Amount := (b.token asset).balance holder

def supply (b : TokenBook) (asset : Address) : Amount := (b.token asset).supply

def allowance (b : TokenBook) (asset owner spender : Address) : Amount :=
  (b.token asset).allowance owner spender

/-- Sets an allowance (`TokenBook::approve`). -/
def approve (b : TokenBook) (asset owner spender : Address) (amount : Amount) : TokenBook :=
  b.setToken asset ((b.token asset).approve owner spender amount)

/-- The refusal of a holder who does not have `amount`. -/
def shortBalance (t : Token) (asset holder : Address) (amount : Amount) : LedgerError :=
  .insufficientBalance asset holder amount (t.balance holder)

/-- New tokens for a holder (`TokenBook::mint`). -/
def mint (asset holder : Address) (amount : Amount) : Call Unit := do
  let token ← .read (·.token asset)
  let credited ← .orAbort (token.credit? holder amount)
  let supply ← .orAbort (credited.supply.add? amount)
  .modify (·.setToken asset { credited with supply := supply })

/-- Destroys tokens of a holder (`TokenBook::burn`). -/
def burn (asset holder : Address) (amount : Amount) : Call Unit := do
  let token ← .read (·.token asset)
  let debited ← .orRefuse (shortBalance token asset holder amount) (token.debit? holder amount)
  .modify (·.setToken asset { debited with supply := debited.supply.truncatedSub amount })

/-- Moves tokens from one holder to another (`TokenBook::transfer`). -/
def transfer (asset sender recipient : Address) (amount : Amount) : Call Unit := do
  let token ← .read (·.token asset)
  let debited ← .orRefuse (shortBalance token asset sender amount) (token.debit? sender amount)
  let credited ← .orAbort (debited.credit? recipient amount)
  .modify (·.setToken asset credited)

/-- Moves tokens of an owner on the strength of an allowance, which shrinks by what is moved
(`TokenBook::transfer_from`). -/
def transferFrom (asset spender owner recipient : Address) (amount : Amount) : Call Unit := do
  let allowed ← .read (·.allowance asset owner spender)
  .require (amount ≤ allowed) (.insufficientAllowance asset owner spender amount allowed)
  transfer asset owner recipient amount
  .modify (·.approve asset owner spender (allowed.truncatedSub amount))

end TokenBook

end LeveredBasket
