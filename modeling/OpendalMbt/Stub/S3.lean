import OpendalMbt.Native.S3
import OpendalMbt.Stub.Options

/-!
# S3 policies in the C stub

The carrier that `moonbit_opendal_operator_s3` of `src/opendal_stub.c` fills. The fields of
`memset` stay empty where no text is converted, as the converted texts do.
-/

namespace OpendalMbt.Stub

open Native

def OPENDAL_MBT_S3_AUTH_DEFAULT_CHAIN : UInt32 := 0
def OPENDAL_MBT_S3_AUTH_STATIC : UInt32 := 1
def OPENDAL_MBT_S3_AUTH_UNSIGNED : UInt32 := 2
def OPENDAL_MBT_S3_AUTH_ASSUME_ROLE : UInt32 := 3
def OPENDAL_MBT_S3_SOURCE_DEFAULT_CHAIN : UInt32 := 0
def OPENDAL_MBT_S3_SOURCE_STATIC : UInt32 := 1
def OPENDAL_MBT_S3_ROOT_PRESENT : UInt64 := 1
def OPENDAL_MBT_S3_ENDPOINT_PRESENT : UInt64 := 2
def OPENDAL_MBT_S3_SESSION_TOKEN_PRESENT : UInt64 := 4
def OPENDAL_MBT_S3_EXTERNAL_ID_PRESENT : UInt64 := 8
def OPENDAL_MBT_S3_ROLE_SESSION_NAME_PRESENT : UInt64 := 16
def OPENDAL_MBT_S3_ASSUME_ROLE_DURATION_PRESENT : UInt64 := 32
def OPENDAL_MBT_S3_VIRTUAL_HOST_STYLE : UInt64 := 1
def OPENDAL_MBT_S3_DISABLE_EC2_METADATA : UInt64 := 2

structure S3Arguments where
  bucket : MoonString
  region : MoonString
  root : OptionalText
  endpoint : OptionalText
  authKind : UInt32
  sourceKind : UInt32
  disableEc2Metadata : Int
  accessKeyId : MoonString
  secretAccessKey : MoonString
  sessionToken : OptionalText
  roleArn : MoonString
  externalId : OptionalText
  roleSessionName : OptionalText
  hasDurationSeconds : Int
  durationSeconds : UInt32
  virtualHostStyle : Int

namespace S3Arguments

variable (a : S3Arguments)

def NotBool : Prop :=
  Stub.NotBool a.root.present ∨ Stub.NotBool a.endpoint.present ∨
    Stub.NotBool a.disableEc2Metadata ∨ Stub.NotBool a.sessionToken.present ∨
    Stub.NotBool a.externalId.present ∨ Stub.NotBool a.roleSessionName.present ∨
    Stub.NotBool a.hasDurationSeconds ∨ Stub.NotBool a.virtualHostStyle

instance : Decidable a.NotBool := inferInstanceAs (Decidable (_ ∨ _))

/-- `has_external_id`, `has_role_session_name`, `has_duration_seconds` or the duration. -/
def HasRole : Prop :=
  a.externalId.present ≠ 0 ∨ a.roleSessionName.present ≠ 0 ∨ a.hasDurationSeconds ≠ 0 ∨
    a.durationSeconds ≠ 0

instance : Decidable a.HasRole := inferInstanceAs (Decidable (_ ∨ _))

end S3Arguments

def invalidS3 {α : Type} (message : String) : CallResult α :=
  .error (localError ERROR_INVALID_ARGUMENT "InvalidArgument" message)

/-- Which texts are converted: static credentials, and the fields of a role. -/
structure S3Uses where
  staticCredentials : Bool := false
  assumeRole : Bool := false

/-- The `switch` on the authentication kind. -/
def s3Uses (a : S3Arguments) : CallResult S3Uses :=
  if a.authKind = OPENDAL_MBT_S3_AUTH_DEFAULT_CHAIN then
    if a.sourceKind ≠ OPENDAL_MBT_S3_SOURCE_DEFAULT_CHAIN ∨ a.sessionToken.present ≠ 0 ∨
        a.HasRole then
      invalidS3 "invalid fields for default-chain S3 authentication"
    else .ok {}
  else if a.authKind = OPENDAL_MBT_S3_AUTH_STATIC then
    if a.sourceKind ≠ OPENDAL_MBT_S3_SOURCE_STATIC ∨ a.disableEc2Metadata ≠ 0 ∨ a.HasRole then
      invalidS3 "invalid fields for static S3 authentication"
    else .ok { staticCredentials := true }
  else if a.authKind = OPENDAL_MBT_S3_AUTH_UNSIGNED then
    if a.sourceKind ≠ OPENDAL_MBT_S3_SOURCE_DEFAULT_CHAIN ∨ a.disableEc2Metadata ≠ 0 ∨
        a.sessionToken.present ≠ 0 ∨ a.HasRole then
      invalidS3 "invalid fields for unsigned S3 authentication"
    else .ok {}
  else if a.authKind = OPENDAL_MBT_S3_AUTH_ASSUME_ROLE then do
    let staticCredentials ←
      if a.sourceKind = OPENDAL_MBT_S3_SOURCE_STATIC then
        if a.disableEc2Metadata ≠ 0 then
          invalidS3 "invalid fields for static-source S3 assume-role authentication"
        else .ok true
      else if a.sourceKind = OPENDAL_MBT_S3_SOURCE_DEFAULT_CHAIN then
        if a.sessionToken.present ≠ 0 then
          invalidS3 "invalid fields for default-source S3 assume-role authentication"
        else .ok false
      else invalidS3 "unsupported S3 credential source kind"
    if a.hasDurationSeconds = 0 ∧ a.durationSeconds ≠ 0 then
      invalidS3 "S3 assume-role duration requires an explicit presence tag"
    else .ok { staticCredentials, assumeRole := true }
  else invalidS3 "unsupported S3 authentication kind"

/-- A text that is converted under a condition. -/
def textWhen (condition : Bool) (text : MoonString) : OptionalText :=
  ⟨boolArgument condition, text⟩

/-- The carrier, after the checks. -/
def fillS3Options (malloc : Nat → Bool) (a : S3Arguments) (uses : S3Uses) :
    CallResult S3OptionsV1 := do
  let hasSessionToken := uses.staticCredentials && a.sessionToken.present != 0
  let hasExternalId := uses.assumeRole && a.externalId.present != 0
  let hasRoleSessionName := uses.assumeRole && a.roleSessionName.present != 0
  let hasDurationSeconds := uses.assumeRole && a.hasDurationSeconds != 0
  let bucket ← convertOptionalUtf8 malloc (textWhen true a.bucket) "S3 bucket"
  let region ← convertOptionalUtf8 malloc (textWhen true a.region) "S3 region"
  let root ← convertOptionalUtf8 malloc a.root "S3 root"
  let endpoint ← convertOptionalUtf8 malloc a.endpoint "S3 endpoint"
  let accessKeyId ← convertOptionalUtf8 malloc (textWhen uses.staticCredentials a.accessKeyId)
    "S3 access_key_id"
  let secretAccessKey ← convertOptionalUtf8 malloc
    (textWhen uses.staticCredentials a.secretAccessKey) "S3 secret_access_key"
  let sessionToken ← convertOptionalUtf8 malloc (textWhen hasSessionToken a.sessionToken.text)
    "S3 session_token"
  let roleArn ← convertOptionalUtf8 malloc (textWhen uses.assumeRole a.roleArn) "S3 role_arn"
  let externalId ← convertOptionalUtf8 malloc (textWhen hasExternalId a.externalId.text)
    "S3 external_id"
  let roleSessionName ← convertOptionalUtf8 malloc
    (textWhen hasRoleSessionName a.roleSessionName.text) "S3 role_session_name"
  let bits := mark 0 OPENDAL_MBT_S3_ROOT_PRESENT a.root.present
  let bits := mark bits OPENDAL_MBT_S3_ENDPOINT_PRESENT a.endpoint.present
  let bits := mark bits OPENDAL_MBT_S3_SESSION_TOKEN_PRESENT (boolArgument hasSessionToken)
  let bits := mark bits OPENDAL_MBT_S3_EXTERNAL_ID_PRESENT (boolArgument hasExternalId)
  let bits := mark bits OPENDAL_MBT_S3_ROLE_SESSION_NAME_PRESENT (boolArgument hasRoleSessionName)
  let bits :=
    mark bits OPENDAL_MBT_S3_ASSUME_ROLE_DURATION_PRESENT (boolArgument hasDurationSeconds)
  let flags := mark 0 OPENDAL_MBT_S3_VIRTUAL_HOST_STYLE a.virtualHostStyle
  .ok {
    toStructHeaderV1 := structHeader sizeOfS3OptionsV1
    presentBits := bits
    flags := mark flags OPENDAL_MBT_S3_DISABLE_EC2_METADATA a.disableEc2Metadata
    authKind := a.authKind
    sourceKind := a.sourceKind
    bucket, region, root, endpoint, accessKeyId, secretAccessKey, sessionToken, roleArn
    externalId, roleSessionName
    assumeRoleDurationSeconds := if hasDurationSeconds then a.durationSeconds else 0
    reserved0 := 0 }

def operatorS3Options (malloc : Nat → Bool) (a : S3Arguments) : CallResult S3OptionsV1 :=
  if a.NotBool then .error .abiMismatch
  else do
    let uses ← s3Uses a
    fillS3Options malloc a uses

end OpendalMbt.Stub
