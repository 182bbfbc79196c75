import OpendalMbt.Browser.SnapshotDecoder
import OpendalMbt.Codec.TextCoding

/-!
# Errors of the browser package

`src/browser/types.mbt` and `src/browser/error.mbt`: the public error model and the
translation of a bridge outcome into it.
-/

namespace OpendalMbt.MoonBit

open Codec Browser

inductive ErrorStatus where
  | permanent | temporary | persistent
  | unknownStatus (code : Nat)
  deriving DecidableEq, Repr

inductive ErrorKind where
  | unexpected | unsupported | configInvalid | notFound | permissionDenied | isADirectory
  | notADirectory | alreadyExists | rateLimited | isSameFile | conditionNotMatch
  | rangeNotSatisfied | invalidArgument | resourceClosed | resourceBusy | cancelled
  | bufferTooLarge | abiMismatch
  | unknownKind (code : Nat) (name : JsString)
  deriving DecidableEq, Repr

inductive Operation where
  | loadRuntime | newOperator | check | exists | createDir | read | write | stat | delete | list
  | copy | rename
  deriving DecidableEq, Repr

structure ErrorContext where
  operation : Operation
  path : Option String := none
  destinationPath : Option String := none
  deriving DecidableEq, Repr

structure OpenDalError where
  kind : ErrorKind
  status : ErrorStatus
  message : JsString
  operation : Operation
  path : Option String
  destinationPath : Option String
  deriving DecidableEq, Repr

def errorKindFromBridge (code : Nat) (name : JsString) : ErrorKind :=
  match code with
  | 1 => .unexpected
  | 2 => .unsupported
  | 3 => .configInvalid
  | 4 => .notFound
  | 5 => .permissionDenied
  | 6 => .isADirectory
  | 7 => .notADirectory
  | 8 => .alreadyExists
  | 9 => .rateLimited
  | 10 => .isSameFile
  | 11 => .conditionNotMatch
  | 12 => .rangeNotSatisfied
  | 0x1001 => .invalidArgument
  | 0x1002 => .resourceClosed
  | 0x1003 => .bufferTooLarge
  | 0x1004 => .abiMismatch
  | 0x1005 => .cancelled
  | 0x1006 => .resourceBusy
  | other => .unknownKind other name

def errorStatusFromBridge (code : Nat) : ErrorStatus :=
  match code with
  | 1 => .permanent
  | 2 => .temporary
  | 3 => .persistent
  | other => .unknownStatus other

def errorFromBridge (kindCode statusCode : Nat) (kindName message : JsString)
    (context : ErrorContext) : OpenDalError where
  kind := errorKindFromBridge kindCode kindName
  status := errorStatusFromBridge statusCode
  message := message
  operation := context.operation
  path := context.path
  destinationPath := context.destinationPath

def bridgeError (error : ErrorOutcome JsString) (context : ErrorContext) : OpenDalError :=
  errorFromBridge error.kindCode error.statusCode error.kind error.message context

def localError (kind : ErrorKind) (message : String) (context : ErrorContext) : OpenDalError where
  kind := kind
  status := .permanent
  message := exactText message
  operation := context.operation
  path := context.path
  destinationPath := context.destinationPath

end OpendalMbt.MoonBit
