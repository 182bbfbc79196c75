import OpendalMbt.Bridge.Transfer

/-!
# Queries of the bridge

The exported functions of `wasm/browser-bridge/src/lib.rs` that copy a text or a number out
of an operator or an entry list, and the sticky last error. What OpenDAL says about an
operator is a parameter `info`.
-/

namespace OpendalMbt.Bridge

open Codec

/-- The capability flags in the order of their bits `CAP_STAT` to `CAP_PRESIGN_WRITE`.
`readWithSuffix` is asked of the base service. -/
structure Capability where
  stat : Bool
  read : Bool
  write : Bool
  createDir : Bool
  delete : Bool
  list : Bool
  copy : Bool
  rename : Bool
  readWithSuffix : Bool
  writeCanAppend : Bool
  listWithLimit : Bool
  listWithStartAfter : Bool
  listWithRecursive : Bool
  presignStat : Bool
  presignRead : Bool
  presignWrite : Bool
  deleteMaxSize : Option Nat
  deriving DecidableEq, Repr

def Capability.flags (c : Capability) : List Bool :=
  [c.stat, c.read, c.write, c.createDir, c.delete, c.list, c.copy, c.rename, c.readWithSuffix,
    c.writeCanAppend, c.listWithLimit, c.listWithStartAfter, c.listWithRecursive, c.presignStat,
    c.presignRead, c.presignWrite]

structure OperatorInfo where
  scheme : String
  root : String
  name : String
  capability : Capability
  deriving DecidableEq, Repr

def capabilityWord (capability : Capability) (word : UInt32) : Except BridgeError Nat :=
  if word = 0 then .ok (flagBits capability.flags)
  else if word = 1 then
    match capability.deleteMaxSize with
    | none => .ok 0
    | some value => if UInt64.size ≤ value then .error .lengthOverflow else .ok value
  else if word = 2 ∨ word = 3 then .ok 0
  else .error (.indexOutOfBounds word 4)

namespace Store

variable {O S W L : Type}

/-- `opendal_mbt_wasm_last_error_clear`. -/
def lastErrorClear (s : Store O S W L) : Store O S W L := { s with lastError := none }

section Operators

variable (info : O → OperatorInfo) (handle : UInt32)

def operatorInfoBuffer (select : OperatorInfo → String) (s : Store O S W L) :
    Except BridgeError UInt32 × Store O S W L :=
  recorded <|
    match s.arena.operator handle with
    | .error e => (.error e, s)
    | .ok operator => insertBuffer (utf8Bytes (select (info operator))) s

def operatorInfoScheme : Store O S W L → Except BridgeError UInt32 × Store O S W L :=
  operatorInfoBuffer info handle OperatorInfo.scheme

def operatorInfoRoot : Store O S W L → Except BridgeError UInt32 × Store O S W L :=
  operatorInfoBuffer info handle OperatorInfo.root

def operatorInfoName : Store O S W L → Except BridgeError UInt32 × Store O S W L :=
  operatorInfoBuffer info handle OperatorInfo.name

/-- `opendal_mbt_wasm_operator_info_capability_word`: 0 with a recorded error on failure. -/
def operatorInfoCapabilityWord (word : UInt32) (s : Store O S W L) : Nat × Store O S W L :=
  match s.arena.operator handle with
  | .error e => (0, { s with lastError := some e })
  | .ok operator =>
    match capabilityWord (info operator).capability word with
    | .error e => (0, { s with lastError := some e })
    | .ok value => (value, s)

end Operators

section EntryLists

variable (handle : UInt32)

def entryListLen (s : Store O S W L) : Except BridgeError Nat × Store O S W L :=
  recorded <|
    match s.arena.entryList handle with
    | .error e => (.error e, s)
    | .ok entries =>
      if 2 ^ 31 ≤ entries.length then (.error .lengthOverflow, s) else (.ok entries.length, s)

def tryOwnedBytes (tryReserve : Nat → Bool) (value : List UInt8) : Except BridgeError (List UInt8) :=
  if maxBufferLength < value.length then .error .bufferTooLarge
  else if tryReserve value.length then .ok value
  else .error .allocationFailed

def entryListText (tryReserve : Nat → Bool) (index : UInt32) (path : Bool) (s : Store O S W L) :
    Except BridgeError UInt32 × Store O S W L :=
  recorded <|
    match s.arena.entryList handle with
    | .error e => (.error e, s)
    | .ok entries =>
      match entries[index.toNat]? with
      | none => (.error (.indexOutOfBounds index entries.length), s)
      | some entry =>
        match tryOwnedBytes tryReserve (utf8Bytes (if path then entry.path else entry.name)) with
        | .error e => (.error e, s)
        | .ok bytes => insertBuffer bytes s

def entryListPath (tryReserve : Nat → Bool) (index : UInt32) :
    Store O S W L → Except BridgeError UInt32 × Store O S W L :=
  entryListText handle tryReserve index true

def entryListName (tryReserve : Nat → Bool) (index : UInt32) :
    Store O S W L → Except BridgeError UInt32 × Store O S W L :=
  entryListText handle tryReserve index false

/-- `opendal_mbt_wasm_entry_list_release`. -/
def entryListRelease (s : Store O S W L) : Except BridgeError Unit × Store O S W L :=
  releaseResource handle .entryList s

/-- `opendal_mbt_wasm_error_release`. -/
def errorRelease (s : Store O S W L) : Except BridgeError Unit × Store O S W L :=
  releaseResource handle .error s

end EntryLists

end Store

end OpendalMbt.Bridge
