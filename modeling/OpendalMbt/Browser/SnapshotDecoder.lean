import Mathlib.Data.Nat.Bitwise
import OpendalMbt.Browser.ByteView
import OpendalMbt.Metadata

/-!
# The snapshot decoders of the JavaScript runtime

`decodeErrorSnapshot` and `decodeMetadataSnapshot` of `wasm/browser-runtime/index.mjs`.
Both take the text decoder as a parameter: the runtime passes the shared
`utf8Decoder.decode`, which throws (here: returns `none`) on malformed input.
-/

namespace OpendalMbt.Browser

open Codec

def maxBufferBytes : Nat := 64 * 1024 * 1024

/-- `OpenDalBrowserContractError`. -/
structure ContractError where
  message : String
  deriving DecidableEq, Repr

def contractFailure {α : Type} (message : String) : Except ContractError α :=
  .error { message }

/-- What a call was about, for its error. -/
structure Context where
  operation : String
  path : Option String
  destinationPath : Option String
  deriving DecidableEq, Repr

def statusName : Nat → String
  | 1 => "Permanent"
  | 2 => "Temporary"
  | 3 => "Persistent"
  | _ => "Unknown"

structure ErrorOutcome (α : Type) where
  kind : α
  kindCode : Nat
  status : String
  statusCode : Nat
  message : α
  operation : String
  path : Option String
  destinationPath : Option String
  deriving DecidableEq, Repr

section Decoders

variable {α : Type} (decode : List UInt8 → Option α)

def decodeErrorSnapshot (bytes : List UInt8) (context : Context) :
    Except ContractError (ErrorOutcome α) :=
  if bytes.length < 24 || !magicEquals bytes [0x4F, 0x44, 0x45, 0x31] then
    contractFailure "bridge returned a malformed ODE1 error snapshot"
  else if getUint32 bytes 4 ≠ 1 then
    contractFailure "bridge returned an unsupported ODE1 schema"
  else
    let kindCode := getUint32 bytes 8
    let statusCode := getUint32 bytes 12
    let nameLength := getUint32 bytes 16
    let messageLength := getUint32 bytes 20
    let nameEnd := 24 + nameLength
    let messageEnd := nameEnd + messageLength
    if nameEnd < 24 ∨ messageEnd < nameEnd ∨ messageEnd ≠ bytes.length ∨
        messageEnd > maxBufferBytes then
      contractFailure "bridge returned an invalid ODE1 payload length"
    else
      match decode (subarray bytes 24 nameEnd), decode (subarray bytes nameEnd messageEnd) with
      | some kind, some message =>
        .ok {
          kind
          kindCode
          status := statusName statusCode
          statusCode
          message
          operation := context.operation
          path := context.path
          destinationPath := context.destinationPath }
      | _, _ => contractFailure "bridge returned non-UTF-8 ODE1 text"

/-- The loop over the seven strings of ODM1: `index` counts them, `cursor` is the end of
the last one. -/
def decodeStrings (bytes : List UInt8) (present : Nat) :
    List Nat → Nat → Nat → Except ContractError (List (Option α) × Nat)
  | [], _, cursor => .ok ([], cursor)
  | length :: lengths, index, cursor =>
    let isPresent := present.testBit (index + 2)
    if !isPresent && length != 0 then
      contractFailure "bridge returned bytes for an absent ODM1 string"
    else
      let stop := cursor + length
      if stop < cursor ∨ stop > bytes.length then
        contractFailure "bridge returned a truncated ODM1 string"
      else if isPresent then
        match decode (subarray bytes cursor stop) with
        | none => contractFailure "bridge returned non-UTF-8 ODM1 text"
        | some text => do
          let (strings, last) ← decodeStrings bytes present lengths (index + 1) stop
          .ok (some text :: strings, last)
      else do
        let (strings, last) ← decodeStrings bytes present lengths (index + 1) stop
        .ok (none :: strings, last)

end Decoders

structure UnixTime where
  unixSeconds : Int
  nanoseconds : Nat
  deriving DecidableEq, Repr

structure MetadataValue (α : Type) where
  mode : EntryMode
  contentLength : Nat
  isCurrent : Option Bool
  isDeleted : Bool
  cacheControl : Option α
  contentDisposition : Option α
  contentEncoding : Option α
  contentMd5 : Option α
  contentType : Option α
  etag : Option α
  lastModified : Option UnixTime
  version : Option α
  deriving DecidableEq, Repr

section Decoders

variable {α : Type} (decode : List UInt8 → Option α)

/-- `modes[modeCode]`: "Unknown", "File" or "Directory", after the check that the code is
at most 2. -/
def modeOfCode : Nat → EntryMode
  | 1 => .file
  | 2 => .dir
  | _ => .unknown

def metadataLengths (bytes : List UInt8) : List Nat :=
  (List.range 7).map (fun index => getUint32 bytes (56 + index * 4))

def decodeMetadataSnapshot (bytes : List UInt8) : Except ContractError (MetadataValue α) :=
  if bytes.length < 84 || bytes.length > maxBufferBytes ||
      !magicEquals bytes [0x4F, 0x44, 0x4D, 0x31] then
    contractFailure "bridge returned a malformed ODM1 metadata snapshot"
  else if getUint32 bytes 4 ≠ 1 then
    contractFailure "bridge returned an unsupported ODM1 schema"
  else
    let present := getBigUint64 bytes 8
    -- `present & ~0x1ffn`: a bit above the nine known ones
    if present >>> 9 ≠ 0 then
      contractFailure "bridge returned unknown ODM1 presence bits"
    else
      let modeCode := getUint32 bytes 16
      let currentCode := getUint32 bytes 20
      let deletedCode := getUint32 bytes 24
      if modeCode > 2 ∨ currentCode > 1 ∨ deletedCode > 1 then
        contractFailure "bridge returned a non-canonical ODM1 scalar"
      else if getUint32 bytes 28 ≠ 0 ∨ getUint32 bytes 52 ≠ 0 then
        contractFailure "bridge returned non-zero ODM1 reserved data"
      else
        let currentPresent := present.testBit 0
        if !currentPresent && currentCode != 0 then
          contractFailure "bridge returned data for an absent ODM1 current flag"
        else
          let modifiedSeconds := getBigInt64 bytes 40
          let modifiedNanoseconds := getUint32 bytes 48
          let modifiedPresent := present.testBit 1
          if modifiedNanoseconds ≥ 1000000000 then
            contractFailure "bridge returned invalid ODM1 nanoseconds"
          else if !modifiedPresent && (modifiedSeconds != 0 || modifiedNanoseconds != 0) then
            contractFailure "bridge returned data for an absent ODM1 timestamp"
          else
            match decodeStrings decode bytes present (metadataLengths bytes) 0 84 with
            | .error e => .error e
            | .ok (strings, cursor) =>
              if cursor ≠ bytes.length then
                contractFailure "bridge returned trailing ODM1 bytes"
              else
                let text := fun index => strings.getD index none
                .ok {
                  mode := modeOfCode modeCode
                  contentLength := getBigUint64 bytes 32
                  isCurrent := if currentPresent then some (currentCode == 1) else none
                  isDeleted := deletedCode == 1
                  cacheControl := text 0
                  contentDisposition := text 1
                  contentEncoding := text 2
                  contentMd5 := text 3
                  contentType := text 4
                  etag := text 5
                  lastModified :=
                    if modifiedPresent then
                      some { unixSeconds := modifiedSeconds, nanoseconds := modifiedNanoseconds }
                    else none
                  version := text 6 }

end Decoders

end OpendalMbt.Browser
