import OpendalMbt.Codec.Utf8

/-!
# Errors of the native package

`src/opendal_types.mbt` and the errors of `src/native_ffi.mbt`. `@utf8.decode` is exact, so that
a decoded string is a text.
-/

namespace OpendalMbt.NativePackage

open Codec

inductive ErrorStatus where
  | permanent | temporary | persistent
  | unknownStatus (code : Int)
  deriving DecidableEq, Repr

inductive ErrorKind where
  | unexpected | unsupported | configInvalid | notFound | permissionDenied | isADirectory
  | notADirectory | alreadyExists | rateLimited | isSameFile | conditionNotMatch
  | rangeNotSatisfied | invalidArgument | resourceClosed | bufferTooLarge | abiMismatch
  | unknownKind (code : Int) (name : String)
  deriving DecidableEq, Repr

inductive Operation where
  | newOperator | check | exists | createDir | read | write | stat | delete | list | copy | rename
  deriving DecidableEq, Repr

/-- What an operation was about. -/
structure Subject where
  operation : Operation
  path : Option String := none
  destinationPath : Option String := none
  deriving DecidableEq, Repr

structure OpenDalError extends Subject where
  kind : ErrorKind
  status : ErrorStatus
  message : String
  deriving DecidableEq, Repr

/-- `UInt::reinterpret_as_int`. -/
def reinterpretAsInt (n : UInt32) : Int := if n.toNat < 2 ^ 31 then n.toNat else n.toNat - 2 ^ 32

def nativeErrorKind (code : UInt32) (name : String) : ErrorKind :=
  match code.toNat with
  | 1 => .unexpected
  | 2 => .unsupported
  | 3 => .configInvalid
  | 4 => .notFound
  | 5 => .permissionDenied
  | 6 => .isADirectory
  | 7 => .notADirectory
  | 8 => .alreadyExists
  | 9 => .rateLimited
  | 10 => .isSameFile
  | 11 => .conditionNotMatch
  | 12 => .rangeNotSatisfied
  | 0x1001 => .invalidArgument
  | 0x1002 => .resourceClosed
  | 0x1003 => .bufferTooLarge
  | 0x1004 => .abiMismatch
  | _ => .unknownKind (reinterpretAsInt code) name

def nativeErrorStatus (code : UInt32) : ErrorStatus :=
  match code.toNat with
  | 1 => .permanent
  | 2 => .temporary
  | 3 => .persistent
  | _ => .unknownStatus (reinterpretAsInt code)

def bindingError (kind : ErrorKind) (message : String) (subject : Subject) : OpenDalError :=
  { subject with kind, status := .permanent, message }

def abiTextError (subject : Subject) : OpenDalError :=
  bindingError .abiMismatch "native ABI returned malformed UTF-8" subject

def decodeAbiText (bytes : List UInt8) (subject : Subject) : Except OpenDalError String :=
  match utf8Decode bytes with
  | some text => .ok text
  | none => .error (abiTextError subject)

theorem decodeAbiText_utf8Bytes (text : String) (subject : Subject) :
    decodeAbiText (utf8Bytes text) subject = .ok text := by
  rw [decodeAbiText, utf8Decode_utf8Bytes]

end OpendalMbt.NativePackage
