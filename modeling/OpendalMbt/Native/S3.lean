import OpendalMbt.Native.Options

/-!
# S3 authentication policies on the native target

`parse_s3_options` with its helpers, `configure_s3_source` and `build_s3_operator` of
`native/rust/src/lib.rs`. The builder of OpenDAL is the record of its setters.

* `unmixed_of_parseS3Options`: an accepted carrier has no field of another mode;
* `ambient_buildS3Builder`: the builder looks for credentials outside of the policy only when the
  source of the policy is the default chain.
-/

namespace OpendalMbt.Native

def S3_AUTH_DEFAULT_CHAIN : UInt32 := 0
def S3_AUTH_STATIC : UInt32 := 1
def S3_AUTH_UNSIGNED : UInt32 := 2
def S3_AUTH_ASSUME_ROLE : UInt32 := 3
def S3_SOURCE_DEFAULT_CHAIN : UInt32 := 0
def S3_SOURCE_STATIC : UInt32 := 1
def S3_ROOT_PRESENT : UInt64 := 1
def S3_ENDPOINT_PRESENT : UInt64 := 2
def S3_SESSION_TOKEN_PRESENT : UInt64 := 4
def S3_EXTERNAL_ID_PRESENT : UInt64 := 8
def S3_ROLE_SESSION_NAME_PRESENT : UInt64 := 16
def S3_ASSUME_ROLE_DURATION_PRESENT : UInt64 := 32
def S3_VIRTUAL_HOST_STYLE : UInt64 := 1
def S3_DISABLE_EC2_METADATA : UInt64 := 2

structure S3OptionsV1 extends StructHeaderV1 where
  presentBits : UInt64
  flags : UInt64
  authKind : UInt32
  sourceKind : UInt32
  bucket : BytesViewV1
  region : BytesViewV1
  root : BytesViewV1
  endpoint : BytesViewV1
  accessKeyId : BytesViewV1
  secretAccessKey : BytesViewV1
  sessionToken : BytesViewV1
  roleArn : BytesViewV1
  externalId : BytesViewV1
  roleSessionName : BytesViewV1
  assumeRoleDurationSeconds : UInt32
  reserved0 : UInt32
  deriving DecidableEq, Repr

def sizeOfS3OptionsV1 : Nat := 200

inductive ParsedS3CredentialSource where
  | defaultChain (disableEc2Metadata : Bool)
  | static (accessKeyId secretAccessKey : String) (sessionToken : Option String)
  deriving DecidableEq, Repr

inductive ParsedS3Auth where
  | credentials (source : ParsedS3CredentialSource)
  | unsigned
  | assumeRole (roleArn : String) (source : ParsedS3CredentialSource)
      (externalId roleSessionName : Option String) (durationSeconds : Option UInt32)
  deriving DecidableEq, Repr

structure ParsedS3Options where
  bucket : String
  region : String
  root : Option String
  endpoint : Option String
  virtualHostStyle : Bool
  auth : ParsedS3Auth
  deriving DecidableEq, Repr

/-! ## Parsing -/

def requiredNonemptyText (view : BytesViewV1) (label : String) : CallResult String := do
  let value ← readTextValue view label
  if value.isEmpty then .error (invalidArgument s!"{label} must not be empty") else .ok value

def optionalNonemptyText (view : BytesViewV1) (presentBits bit : UInt64) (label : String) :
    CallResult (Option String) := do
  match ← optionalText view presentBits bit label with
  | some value =>
    if value.isEmpty then .error (invalidArgument s!"{label} must not be empty")
    else .ok (some value)
  | none => .ok none

def requireAbsentView (view : BytesViewV1) : CallResult Unit :=
  if absentBytesIsCanonical view then .ok () else .error .abiMismatch

def rejectPresentField (presentBits bit : UInt64) (label : String) : CallResult Unit :=
  if presentBits &&& bit ≠ 0 then
    .error (invalidArgument s!"{label} is not valid for the selected S3 authentication mode")
  else .ok ()

def rejectRoleFields (input : S3OptionsV1) : CallResult Unit := do
  rejectPresentField input.presentBits S3_EXTERNAL_ID_PRESENT "S3 external_id"
  rejectPresentField input.presentBits S3_ROLE_SESSION_NAME_PRESENT "S3 role_session_name"
  rejectPresentField input.presentBits S3_ASSUME_ROLE_DURATION_PRESENT "S3 assume-role duration"
  requireAbsentView input.roleArn
  requireAbsentView input.externalId
  requireAbsentView input.roleSessionName
  if input.assumeRoleDurationSeconds ≠ 0 then .error .abiMismatch else .ok ()

def rejectStaticCredentials (input : S3OptionsV1) : CallResult Unit := do
  rejectPresentField input.presentBits S3_SESSION_TOKEN_PRESENT "S3 session_token"
  requireAbsentView input.accessKeyId
  requireAbsentView input.secretAccessKey
  requireAbsentView input.sessionToken

def parseStaticCredentials (input : S3OptionsV1) : CallResult ParsedS3CredentialSource := do
  let accessKeyId ← requiredNonemptyText input.accessKeyId "S3 access_key_id"
  let secretAccessKey ← requiredNonemptyText input.secretAccessKey "S3 secret_access_key"
  let sessionToken ← optionalNonemptyText input.sessionToken input.presentBits
    S3_SESSION_TOKEN_PRESENT "S3 session_token"
  .ok (.static accessKeyId secretAccessKey sessionToken)

def disablesEc2Metadata (input : S3OptionsV1) : Bool :=
  input.flags &&& S3_DISABLE_EC2_METADATA != 0

def parseDefaultChainAuth (input : S3OptionsV1) : CallResult ParsedS3Auth := do
  if input.sourceKind ≠ S3_SOURCE_DEFAULT_CHAIN then
    .error (invalidArgument "default-chain S3 authentication requires the default source kind")
  else
    rejectStaticCredentials input
    rejectRoleFields input
    .ok (.credentials (.defaultChain (disablesEc2Metadata input)))

def parseStaticAuth (input : S3OptionsV1) : CallResult ParsedS3Auth := do
  if input.sourceKind ≠ S3_SOURCE_STATIC then
    .error (invalidArgument "static S3 authentication requires the static source kind")
  else if disablesEc2Metadata input then
    .error (invalidArgument "disable_ec2_metadata is only valid for a default credential chain")
  else
    rejectRoleFields input
    let source ← parseStaticCredentials input
    .ok (.credentials source)

def parseUnsignedAuth (input : S3OptionsV1) : CallResult ParsedS3Auth := do
  if input.sourceKind ≠ S3_SOURCE_DEFAULT_CHAIN then
    .error (invalidArgument "unsigned S3 authentication requires the default source kind")
  else if disablesEc2Metadata input then
    .error (invalidArgument "disable_ec2_metadata is not valid for unsigned S3 authentication")
  else
    rejectStaticCredentials input
    rejectRoleFields input
    .ok .unsigned

def parseDurationSeconds (input : S3OptionsV1) : CallResult (Option UInt32) :=
  if input.presentBits &&& S3_ASSUME_ROLE_DURATION_PRESENT ≠ 0 then
    if input.assumeRoleDurationSeconds = 0 then
      .error (invalidArgument "S3 assume-role duration_seconds must be positive")
    else .ok (some input.assumeRoleDurationSeconds)
  else if input.assumeRoleDurationSeconds ≠ 0 then .error .abiMismatch
  else .ok none

def parseRoleSource (input : S3OptionsV1) : CallResult ParsedS3CredentialSource := do
  if input.sourceKind = S3_SOURCE_DEFAULT_CHAIN then
    rejectStaticCredentials input
    .ok (.defaultChain (disablesEc2Metadata input))
  else if input.sourceKind = S3_SOURCE_STATIC then
    if disablesEc2Metadata input then
      .error (invalidArgument "disable_ec2_metadata is only valid for a default credential chain")
    else parseStaticCredentials input
  else .error (invalidArgument "unsupported S3 assume-role credential source kind")

def parseAssumeRoleAuth (input : S3OptionsV1) : CallResult ParsedS3Auth := do
  let roleArn ← requiredNonemptyText input.roleArn "S3 role_arn"
  let externalId ← optionalNonemptyText input.externalId input.presentBits
    S3_EXTERNAL_ID_PRESENT "S3 external_id"
  let roleSessionName ← optionalNonemptyText input.roleSessionName input.presentBits
    S3_ROLE_SESSION_NAME_PRESENT "S3 role_session_name"
  let durationSeconds ← parseDurationSeconds input
  let source ← parseRoleSource input
  .ok (.assumeRole roleArn source externalId roleSessionName durationSeconds)

/-- The `match` on the authentication kind. -/
def parseS3Auth (input : S3OptionsV1) : CallResult ParsedS3Auth :=
  if input.authKind = S3_AUTH_DEFAULT_CHAIN then parseDefaultChainAuth input
  else if input.authKind = S3_AUTH_STATIC then parseStaticAuth input
  else if input.authKind = S3_AUTH_UNSIGNED then parseUnsignedAuth input
  else if input.authKind = S3_AUTH_ASSUME_ROLE then parseAssumeRoleAuth input
  else .error (invalidArgument "unsupported S3 authentication kind")

def s3KnownPresent : UInt64 :=
  S3_ROOT_PRESENT ||| S3_ENDPOINT_PRESENT ||| S3_SESSION_TOKEN_PRESENT |||
    S3_EXTERNAL_ID_PRESENT ||| S3_ROLE_SESSION_NAME_PRESENT ||| S3_ASSUME_ROLE_DURATION_PRESENT

def s3KnownFlags : UInt64 := S3_VIRTUAL_HOST_STYLE ||| S3_DISABLE_EC2_METADATA

def parseS3Options (pointer : Pointer S3OptionsV1) : CallResult ParsedS3Options := do
  let input ← readInputStruct sizeOfS3OptionsV1 (·.toStructHeaderV1) pointer
  if input.presentBits &&& ~~~s3KnownPresent ≠ 0 ∨ input.flags &&& ~~~s3KnownFlags ≠ 0 ∨
      input.reserved0 ≠ 0 then
    .error .abiMismatch
  else
    let bucket ← requiredNonemptyText input.bucket "S3 bucket"
    let region ← requiredNonemptyText input.region "S3 region"
    let root ← optionalNonemptyText input.root input.presentBits S3_ROOT_PRESENT "S3 root"
    let endpoint ← optionalNonemptyText input.endpoint input.presentBits S3_ENDPOINT_PRESENT
      "S3 endpoint"
    let auth ← parseS3Auth input
    .ok {
      bucket, region, root, endpoint, auth
      virtualHostStyle := input.flags &&& S3_VIRTUAL_HOST_STYLE ≠ 0 }

/-! ## Accepted carriers -/

/-- No key and no session token. -/
structure S3OptionsV1.NoKeys (input : S3OptionsV1) : Prop where
  accessKeyId : input.accessKeyId = .absent
  secretAccessKey : input.secretAccessKey = .absent
  sessionToken : input.sessionToken = .absent
  sessionTokenBit : input.presentBits &&& S3_SESSION_TOKEN_PRESENT = 0

/-- No field of a role. -/
structure S3OptionsV1.NoRole (input : S3OptionsV1) : Prop where
  roleArn : input.roleArn = .absent
  externalId : input.externalId = .absent
  externalIdBit : input.presentBits &&& S3_EXTERNAL_ID_PRESENT = 0
  roleSessionName : input.roleSessionName = .absent
  roleSessionNameBit : input.presentBits &&& S3_ROLE_SESSION_NAME_PRESENT = 0
  duration : input.assumeRoleDurationSeconds = 0
  durationBit : input.presentBits &&& S3_ASSUME_ROLE_DURATION_PRESENT = 0

theorem requireAbsentView_eq_ok {view : BytesViewV1} :
    requireAbsentView view = .ok () ↔ view = .absent := by
  unfold requireAbsentView
  rw [← absentBytesIsCanonical_iff]
  split_ifs with habsent
  · simp [habsent]
  · simp [habsent]

theorem rejectPresentField_eq_ok {presentBits bit : UInt64} {label : String} :
    rejectPresentField presentBits bit label = .ok () ↔ presentBits &&& bit = 0 := by
  unfold rejectPresentField
  split_ifs with hset
  · simp [hset]
  · simpa using hset

theorem rejectStaticCredentials_eq_ok {input : S3OptionsV1} :
    rejectStaticCredentials input = .ok () ↔ input.NoKeys := by
  unfold rejectStaticCredentials
  constructor
  · intro h
    obtain ⟨_, hbit, h⟩ := CallResult.bind_eq_ok.mp h
    obtain ⟨_, hkey, h⟩ := CallResult.bind_eq_ok.mp h
    obtain ⟨_, hsecret, htoken⟩ := CallResult.bind_eq_ok.mp h
    exact ⟨requireAbsentView_eq_ok.mp hkey, requireAbsentView_eq_ok.mp hsecret,
      requireAbsentView_eq_ok.mp htoken, rejectPresentField_eq_ok.mp hbit⟩
  · intro h
    rw [CallResult.bind_of_ok (rejectPresentField_eq_ok.mpr h.sessionTokenBit),
      CallResult.bind_of_ok (requireAbsentView_eq_ok.mpr h.accessKeyId),
      CallResult.bind_of_ok (requireAbsentView_eq_ok.mpr h.secretAccessKey)]
    exact requireAbsentView_eq_ok.mpr h.sessionToken

theorem rejectRoleFields_eq_ok {input : S3OptionsV1} :
    rejectRoleFields input = .ok () ↔ input.NoRole := by
  unfold rejectRoleFields
  constructor
  · intro h
    obtain ⟨_, hexternalBit, h⟩ := CallResult.bind_eq_ok.mp h
    obtain ⟨_, hsessionBit, h⟩ := CallResult.bind_eq_ok.mp h
    obtain ⟨_, hdurationBit, h⟩ := CallResult.bind_eq_ok.mp h
    obtain ⟨_, hrole, h⟩ := CallResult.bind_eq_ok.mp h
    obtain ⟨_, hexternal, h⟩ := CallResult.bind_eq_ok.mp h
    obtain ⟨_, hsession, h⟩ := CallResult.bind_eq_ok.mp h
    have hduration : input.assumeRoleDurationSeconds = 0 := by
      by_contra hset
      rw [if_pos hset] at h
      cases h
    exact {
      roleArn := requireAbsentView_eq_ok.mp hrole
      externalId := requireAbsentView_eq_ok.mp hexternal
      externalIdBit := rejectPresentField_eq_ok.mp hexternalBit
      roleSessionName := requireAbsentView_eq_ok.mp hsession
      roleSessionNameBit := rejectPresentField_eq_ok.mp hsessionBit
      duration := hduration
      durationBit := rejectPresentField_eq_ok.mp hdurationBit }
  · intro h
    rw [CallResult.bind_of_ok (rejectPresentField_eq_ok.mpr h.externalIdBit),
      CallResult.bind_of_ok (rejectPresentField_eq_ok.mpr h.roleSessionNameBit),
      CallResult.bind_of_ok (rejectPresentField_eq_ok.mpr h.durationBit),
      CallResult.bind_of_ok (requireAbsentView_eq_ok.mpr h.roleArn),
      CallResult.bind_of_ok (requireAbsentView_eq_ok.mpr h.externalId),
      CallResult.bind_of_ok (requireAbsentView_eq_ok.mpr h.roleSessionName)]
    exact if_neg (not_not.mpr h.duration)

/-- The modes whose credentials are a default chain, or none. -/
def S3OptionsV1.WithoutKeys (input : S3OptionsV1) : Prop :=
  input.authKind = S3_AUTH_DEFAULT_CHAIN ∨ input.authKind = S3_AUTH_UNSIGNED ∨
    input.authKind = S3_AUTH_ASSUME_ROLE ∧ input.sourceKind = S3_SOURCE_DEFAULT_CHAIN

/-- The modes without a default chain. -/
def S3OptionsV1.WithoutChain (input : S3OptionsV1) : Prop :=
  input.authKind = S3_AUTH_STATIC ∨ input.authKind = S3_AUTH_UNSIGNED ∨
    input.authKind = S3_AUTH_ASSUME_ROLE ∧ input.sourceKind = S3_SOURCE_STATIC

/-- The source kind that an authentication kind takes. -/
def S3OptionsV1.KindsAgree (input : S3OptionsV1) : Prop :=
  input.authKind = S3_AUTH_DEFAULT_CHAIN ∧ input.sourceKind = S3_SOURCE_DEFAULT_CHAIN ∨
  input.authKind = S3_AUTH_STATIC ∧ input.sourceKind = S3_SOURCE_STATIC ∨
  input.authKind = S3_AUTH_UNSIGNED ∧ input.sourceKind = S3_SOURCE_DEFAULT_CHAIN ∨
  input.authKind = S3_AUTH_ASSUME_ROLE ∧
    (input.sourceKind = S3_SOURCE_DEFAULT_CHAIN ∨ input.sourceKind = S3_SOURCE_STATIC)

/-- No field of another mode. -/
structure S3OptionsV1.Unmixed (input : S3OptionsV1) : Prop where
  kinds : input.KindsAgree
  keys : input.WithoutKeys → input.NoKeys
  role : input.authKind ≠ S3_AUTH_ASSUME_ROLE → input.NoRole
  metadata : input.WithoutChain → input.flags &&& S3_DISABLE_EC2_METADATA = 0

theorem disablesEc2Metadata_eq_false {input : S3OptionsV1} :
    ¬ disablesEc2Metadata input = true ↔ input.flags &&& S3_DISABLE_EC2_METADATA = 0 := by
  unfold disablesEc2Metadata
  rw [bne_iff_ne, not_not]

section Kinds

variable {input : S3OptionsV1} {auth : ParsedS3Auth}

theorem unmixed_of_defaultChain (hkind : input.authKind = S3_AUTH_DEFAULT_CHAIN)
    (h : parseDefaultChainAuth input = .ok auth) : input.Unmixed := by
  unfold parseDefaultChainAuth at h
  split_ifs at h with hsource
  obtain ⟨_, hkeys, h⟩ := CallResult.bind_eq_ok.mp h
  obtain ⟨_, hrole, h⟩ := CallResult.bind_eq_ok.mp h
  refine ⟨.inl ⟨hkind, not_not.mp hsource⟩, ?_, ?_, ?_⟩
  · intro _
    exact rejectStaticCredentials_eq_ok.mp hkeys
  · intro _
    exact rejectRoleFields_eq_ok.mp hrole
  · intro hchain
    unfold S3OptionsV1.WithoutChain at hchain
    rw [hkind] at hchain
    simp [S3_AUTH_DEFAULT_CHAIN, S3_AUTH_STATIC, S3_AUTH_UNSIGNED, S3_AUTH_ASSUME_ROLE] at hchain

theorem unmixed_of_static (hkind : input.authKind = S3_AUTH_STATIC)
    (h : parseStaticAuth input = .ok auth) : input.Unmixed := by
  unfold parseStaticAuth at h
  split_ifs at h with hsource hmetadata
  obtain ⟨_, hrole, h⟩ := CallResult.bind_eq_ok.mp h
  refine ⟨.inr (.inl ⟨hkind, not_not.mp hsource⟩), ?_, ?_, ?_⟩
  · intro hkeys
    unfold S3OptionsV1.WithoutKeys at hkeys
    rw [hkind] at hkeys
    simp [S3_AUTH_DEFAULT_CHAIN, S3_AUTH_STATIC, S3_AUTH_UNSIGNED, S3_AUTH_ASSUME_ROLE] at hkeys
  · intro _
    exact rejectRoleFields_eq_ok.mp hrole
  · intro _
    exact disablesEc2Metadata_eq_false.mp hmetadata

theorem unmixed_of_unsigned (hkind : input.authKind = S3_AUTH_UNSIGNED)
    (h : parseUnsignedAuth input = .ok auth) : input.Unmixed := by
  unfold parseUnsignedAuth at h
  split_ifs at h with hsource hmetadata
  obtain ⟨_, hkeys, h⟩ := CallResult.bind_eq_ok.mp h
  obtain ⟨_, hrole, h⟩ := CallResult.bind_eq_ok.mp h
  refine ⟨.inr (.inr (.inl ⟨hkind, not_not.mp hsource⟩)), ?_, ?_, ?_⟩
  · intro _
    exact rejectStaticCredentials_eq_ok.mp hkeys
  · intro _
    exact rejectRoleFields_eq_ok.mp hrole
  · intro _
    exact disablesEc2Metadata_eq_false.mp hmetadata

theorem unmixed_of_assumeRole (hkind : input.authKind = S3_AUTH_ASSUME_ROLE)
    (h : parseAssumeRoleAuth input = .ok auth) : input.Unmixed := by
  unfold parseAssumeRoleAuth at h
  obtain ⟨_, -, h⟩ := CallResult.bind_eq_ok.mp h
  obtain ⟨_, -, h⟩ := CallResult.bind_eq_ok.mp h
  obtain ⟨_, -, h⟩ := CallResult.bind_eq_ok.mp h
  obtain ⟨_, -, h⟩ := CallResult.bind_eq_ok.mp h
  obtain ⟨source, hsource, -⟩ := CallResult.bind_eq_ok.mp h
  unfold parseRoleSource at hsource
  have hmode : input.authKind ≠ S3_AUTH_DEFAULT_CHAIN ∧ input.authKind ≠ S3_AUTH_STATIC ∧
      input.authKind ≠ S3_AUTH_UNSIGNED := by
    rw [hkind]
    decide
  split_ifs at hsource with hdefault hstatic hmetadata
  · obtain ⟨_, hkeys, -⟩ := CallResult.bind_eq_ok.mp hsource
    refine ⟨.inr (.inr (.inr ⟨hkind, .inl hdefault⟩)), ?_, ?_, ?_⟩
    · intro _
      exact rejectStaticCredentials_eq_ok.mp hkeys
    · intro hother
      exact absurd hkind hother
    · rintro (hchain | hchain | ⟨-, hchain⟩)
      · exact absurd hchain hmode.2.1
      · exact absurd hchain hmode.2.2
      · rw [hdefault] at hchain
        cases hchain
  · refine ⟨.inr (.inr (.inr ⟨hkind, .inr hstatic⟩)), ?_, ?_, ?_⟩
    · rintro (hkeys | hkeys | ⟨-, hkeys⟩)
      · exact absurd hkeys hmode.1
      · exact absurd hkeys hmode.2.2
      · exact absurd hkeys hdefault
    · intro hother
      exact absurd hkind hother
    · intro _
      exact disablesEc2Metadata_eq_false.mp hmetadata

/-- Whatever is accepted has the fields of its own mode only. -/
theorem unmixed_of_parseS3Options {options : ParsedS3Options}
    (h : parseS3Options (.valid input) = .ok options) : input.Unmixed := by
  unfold parseS3Options at h
  obtain ⟨copied, hread, hparse⟩ := CallResult.bind_eq_ok.mp h
  obtain rfl := of_readInputStruct hread
  split_ifs at hparse
  obtain ⟨_, -, hparse⟩ := CallResult.bind_eq_ok.mp hparse
  obtain ⟨_, -, hparse⟩ := CallResult.bind_eq_ok.mp hparse
  obtain ⟨_, -, hparse⟩ := CallResult.bind_eq_ok.mp hparse
  obtain ⟨_, -, hparse⟩ := CallResult.bind_eq_ok.mp hparse
  obtain ⟨auth, hauth, -⟩ := CallResult.bind_eq_ok.mp hparse
  unfold parseS3Auth at hauth
  split_ifs at hauth with hdefault hstatic hunsigned hrole
  · exact unmixed_of_defaultChain hdefault hauth
  · exact unmixed_of_static hstatic hauth
  · exact unmixed_of_unsigned hunsigned hauth
  · exact unmixed_of_assumeRole hrole hauth

end Kinds

/-! ## The builder -/

/-- `opendal::services::S3` as its setters have left it. -/
structure S3Builder where
  bucket : Option String := none
  region : Option String := none
  root : Option String := none
  endpoint : Option String := none
  virtualHostStyle : Bool := false
  accessKeyId : Option String := none
  secretAccessKey : Option String := none
  sessionToken : Option String := none
  roleArn : Option String := none
  externalId : Option String := none
  roleSessionName : Option String := none
  assumeRoleDurationSeconds : Option UInt32 := none
  skipSignature : Bool := false
  disableConfigLoad : Bool := false
  disableEc2Metadata : Bool := false
  deriving DecidableEq, Repr

def configureS3Source (builder : S3Builder) : ParsedS3CredentialSource → S3Builder
  | .defaultChain disableEc2Metadata =>
    if disableEc2Metadata then { builder with disableEc2Metadata := true } else builder
  | .static accessKeyId secretAccessKey sessionToken =>
    let builder := {
      builder with
      accessKeyId := some accessKeyId, secretAccessKey := some secretAccessKey
      disableConfigLoad := true, disableEc2Metadata := true }
    match sessionToken with
    | some sessionToken => { builder with sessionToken := some sessionToken }
    | none => builder

def configureS3Auth (builder : S3Builder) : ParsedS3Auth → S3Builder
  | .credentials source => configureS3Source builder source
  | .unsigned =>
    { builder with skipSignature := true, disableConfigLoad := true, disableEc2Metadata := true }
  | .assumeRole roleArn source externalId roleSessionName durationSeconds =>
    let builder := { configureS3Source builder source with roleArn := some roleArn }
    let builder :=
      match externalId with
      | some externalId => { builder with externalId := some externalId }
      | none => builder
    let builder :=
      match roleSessionName with
      | some roleSessionName => { builder with roleSessionName := some roleSessionName }
      | none => builder
    match durationSeconds with
    | some durationSeconds => { builder with assumeRoleDurationSeconds := some durationSeconds }
    | none => builder

/-- The builder of which `build_s3_operator` makes the operator. -/
def buildS3Builder (options : ParsedS3Options) : S3Builder :=
  let builder : S3Builder := { bucket := some options.bucket, region := some options.region }
  let builder :=
    match options.root with
    | some root => { builder with root := some root }
    | none => builder
  let builder :=
    match options.endpoint with
    | some endpoint => { builder with endpoint := some endpoint }
    | none => builder
  let builder :=
    if options.virtualHostStyle then { builder with virtualHostStyle := true } else builder
  configureS3Auth builder options.auth

/-- The credentials of a policy, if it has any. -/
def ParsedS3Auth.source : ParsedS3Auth → Option ParsedS3CredentialSource
  | .credentials source => some source
  | .unsigned => none
  | .assumeRole _ source _ _ _ => some source

/-- The environment and the profile files, or the metadata of the instance. -/
structure S3Builder.Ambient (builder : S3Builder) (source : Option ParsedS3CredentialSource) :
    Prop where
  configLoad : builder.disableConfigLoad = false ↔ ∃ b, source = some (.defaultChain b)
  ec2Metadata : builder.disableEc2Metadata = false ↔ source = some (.defaultChain false)

theorem ambient_configureS3Source {builder : S3Builder} (source : ParsedS3CredentialSource)
    (hconfig : builder.disableConfigLoad = false) (hmetadata : builder.disableEc2Metadata = false) :
    (configureS3Source builder source).Ambient (some source) := by
  cases source with
  | defaultChain disable =>
    cases disable with
    | false => exact ⟨by simp [configureS3Source, hconfig], by simp [configureS3Source, hmetadata]⟩
    | true => exact ⟨by simp [configureS3Source, hconfig], by simp [configureS3Source]⟩
  | static accessKeyId secretAccessKey sessionToken =>
    cases sessionToken with
    | none => exact ⟨by simp [configureS3Source], by simp [configureS3Source]⟩
    | some token => exact ⟨by simp [configureS3Source], by simp [configureS3Source]⟩

theorem ambient_configureS3Auth {builder : S3Builder} (auth : ParsedS3Auth)
    (hconfig : builder.disableConfigLoad = false) (hmetadata : builder.disableEc2Metadata = false) :
    (configureS3Auth builder auth).Ambient auth.source := by
  cases auth with
  | credentials source => exact ambient_configureS3Source source hconfig hmetadata
  | unsigned => exact ⟨by simp [configureS3Auth, ParsedS3Auth.source],
      by simp [configureS3Auth, ParsedS3Auth.source]⟩
  | assumeRole roleArn source externalId roleSessionName durationSeconds =>
    obtain ⟨hload, hec2⟩ := ambient_configureS3Source source hconfig hmetadata
    -- The fields of the role leave the two switches alone.
    have hkept : ∀ (a b : Option String) (d : Option UInt32),
        (configureS3Auth builder (.assumeRole roleArn source a b d)).disableConfigLoad =
          (configureS3Source builder source).disableConfigLoad ∧
        (configureS3Auth builder (.assumeRole roleArn source a b d)).disableEc2Metadata =
          (configureS3Source builder source).disableEc2Metadata := by
      intro a b d
      cases a <;> cases b <;> cases d <;> exact ⟨rfl, rfl⟩
    obtain ⟨hsameConfig, hsameMetadata⟩ := hkept externalId roleSessionName durationSeconds
    constructor
    · rw [hsameConfig]
      exact hload
    · rw [hsameMetadata]
      exact hec2

/-- Ambient credentials are looked for only under a default chain. -/
theorem ambient_buildS3Builder (options : ParsedS3Options) :
    (buildS3Builder options).Ambient options.auth.source := by
  unfold buildS3Builder
  apply ambient_configureS3Auth
  · cases options.root <;> cases options.endpoint <;> cases options.virtualHostStyle <;> rfl
  · cases options.root <;> cases options.endpoint <;> cases options.virtualHostStyle <;> rfl

end OpendalMbt.Native
