import RollupLedger.Ledger.Basic

/-!
The kinds of call that a tracer reports, and what each does to balances.
-/

set_option autoImplicit false
set_option relaxedAutoImplicit false

namespace RollupLedger.Trace

inductive CallKind where
  | call
  | callCode
  | delegateCall
  | staticCall
  | create
  | create2
  | selfDestruct
deriving DecidableEq, Repr

namespace CallKind

def ofName? : String → Option CallKind
  | "CALL" => some call
  | "CALLCODE" => some callCode
  | "DELEGATECALL" => some delegateCall
  | "STATICCALL" => some staticCall
  | "CREATE" => some create
  | "CREATE2" => some create2
  | "SELFDESTRUCT" => some selfDestruct
  | "SUICIDE" => some selfDestruct
  | _ => none

/-- The operation that a call of this kind is reported as. A delegated call repeats its caller's
value without moving it, a call of foreign code moves it from the caller to itself, and a static
call carries none. -/
def operationType? : CallKind → Option Ledger.OperationType
  | call => some .call
  | create => some .create
  | create2 => some .create2
  | selfDestruct => some .destruct
  | callCode => none
  | delegateCall => none
  | staticCall => none

/-- Creations and destructions are reported even when they move no value. -/
def alwaysEmitted : CallKind → Bool
  | create => true
  | create2 => true
  | selfDestruct => true
  | _ => false

end CallKind

end RollupLedger.Trace
