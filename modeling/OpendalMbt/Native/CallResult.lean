import Mathlib.Algebra.Ring.Int.Defs
import Mathlib.Algebra.Ring.Nat
import Mathlib.Tactic.Common

/-!
# Statuses and failures of the native C ABI

The status codes of `native/rust/src/abi.rs`, the error snapshot that a failing call hands
to the foreign side, and the two kinds of failure of `CallResult`.
-/

namespace OpendalMbt.Native

inductive Status where
  | ok | «end» | error | bufferTooSmall | abiMismatch | panic
  deriving DecidableEq, Repr

/-- The value of the `STATUS_*` constant. -/
def Status.code : Status → Nat
  | .ok => 0
  | .end => 1
  | .error => 2
  | .bufferTooSmall => 3
  | .abiMismatch => 4
  | .panic => 5

def ERROR_UNEXPECTED : UInt32 := 1
def ERROR_INVALID_ARGUMENT : UInt32 := 0x1001
def ERROR_RESOURCE_CLOSED : UInt32 := 0x1002
def ERROR_BUFFER_TOO_LARGE : UInt32 := 0x1003
def ERROR_STATUS_PERMANENT : UInt32 := 1

/-- `MAX_OUTPUT_BYTES` is `i32::MAX`. -/
def maxOutputBytes : Nat := 2147483647

/-- A `usize` has 64 bits. -/
def isizeMax : Nat := 2 ^ 63 - 1

structure ErrorV1 where
  kind : UInt32
  status : UInt32
  kindName : String
  message : String
  deriving DecidableEq, Repr

inductive CallFailure where
  | abiMismatch
  | error (error : ErrorV1)
  deriving DecidableEq, Repr

abbrev CallResult (α : Type) := Except CallFailure α

namespace CallResult

variable {ε α β : Type} {x : Except ε α} {f : α → Except ε β} {a : α} {b : β}

theorem bind_of_ok (h : x = .ok a) : (x >>= f) = f a := by
  rw [h]
  rfl

theorem bind_eq_ok : (x >>= f) = .ok b ↔ ∃ a, x = .ok a ∧ f a = .ok b := by
  cases x with
  | error failure =>
    constructor
    · intro h
      cases h
    · intro ⟨a, hx, _⟩
      cases hx
  | ok a =>
    constructor
    · intro h
      exact ⟨a, rfl, h⟩
    · intro ⟨a', hx, h⟩
      cases hx
      exact h

end CallResult

def bindingError (kind : UInt32) (name message : String) : CallFailure :=
  .error {
    kind := kind
    status := ERROR_STATUS_PERMANENT
    kindName := name
    message :=
      if message.utf8ByteSize > maxOutputBytes then
        "error message exceeds the binding output limit"
      else message }

def invalidArgument (message : String) : CallFailure :=
  bindingError ERROR_INVALID_ARGUMENT "InvalidArgument" message

def bufferTooLarge (message : String) : CallFailure :=
  bindingError ERROR_BUFFER_TOO_LARGE "BufferTooLarge" message

def resourceClosed (message : String) : CallFailure :=
  bindingError ERROR_RESOURCE_CLOSED "ResourceClosed" message

/-- The status and the error object that `finish_failure` leaves with the caller. -/
def finishFailure : CallFailure → Status × Option ErrorV1
  | .abiMismatch => (.abiMismatch, none)
  | .error error => (.error, some error)

end OpendalMbt.Native
