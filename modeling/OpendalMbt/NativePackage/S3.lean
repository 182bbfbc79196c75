import OpendalMbt.NativePackage.Error
import OpendalMbt.Stub.S3

/-!
# S3 authentication policies of the native package

`src/s3.mbt`. A policy can be built by its constructors only, and these refuse empty texts.

* `nonempty_of_built`: no text of a policy that was built is empty.
-/

namespace OpendalMbt.NativePackage

open Native Stub

def s3InvalidArgument (message : String) : OpenDalError :=
  bindingError .invalidArgument message { operation := .newOperator }

def s3RequiredText (value : MoonString) (message : String) : Except OpenDalError MoonString :=
  if value.units.length = 0 then .error (s3InvalidArgument message) else .ok value

def s3OptionalText (value : Option MoonString) (message : String) :
    Except OpenDalError (Option MoonString) :=
  match value with
  | some value => (s3RequiredText value message).map some
  | none => .ok none

def s3DurationSeconds (value : Option UInt64) : Except OpenDalError (Option UInt32) :=
  match value with
  | some value =>
    if value > 0xffffffff then
      .error (s3InvalidArgument "S3 assume-role duration_seconds exceeds the UInt32 ceiling")
    else .ok (some value.toUInt32)
  | none => .ok none

/-! ## Policies -/

inductive S3CredentialSource where
  | defaultChain (disableEc2Metadata : Bool)
  | staticCredentials (accessKeyId secretAccessKey : MoonString) (sessionToken : Option MoonString)
  deriving DecidableEq, Repr

inductive S3Auth where
  | credentials (source : S3CredentialSource)
  | unsigned
  | assumeRole (roleArn : MoonString) (source : S3CredentialSource)
      (externalId roleSessionName : Option MoonString) (durationSeconds : Option UInt32)
  deriving DecidableEq, Repr

structure S3NativeSource where
  kind : UInt32
  disableEc2Metadata : Bool
  accessKeyId : MoonString
  secretAccessKey : MoonString
  sessionToken : OptionalText

structure S3NativeAuth where
  kind : UInt32
  source : S3NativeSource
  roleArn : MoonString
  externalId : OptionalText
  roleSessionName : OptionalText
  hasDurationSeconds : Bool
  durationSeconds : UInt32

def S3CredentialSource.nativeParts : S3CredentialSource → S3NativeSource
  | .defaultChain disableEc2Metadata => {
      kind := 0
      disableEc2Metadata
      accessKeyId := emptyString
      secretAccessKey := emptyString
      sessionToken := ⟨boolArgument false, emptyString⟩ }
  | .staticCredentials accessKeyId secretAccessKey sessionToken => {
      kind := 1
      disableEc2Metadata := false
      accessKeyId
      secretAccessKey
      sessionToken := normalizeOptionalText sessionToken }

def S3Auth.nativeParts : S3Auth → S3NativeAuth
  | .credentials source => {
      kind := source.nativeParts.kind
      source := source.nativeParts
      roleArn := emptyString
      externalId := ⟨boolArgument false, emptyString⟩
      roleSessionName := ⟨boolArgument false, emptyString⟩
      hasDurationSeconds := false
      durationSeconds := 0 }
  | .unsigned => {
      kind := 2
      source := (S3CredentialSource.defaultChain false).nativeParts
      roleArn := emptyString
      externalId := ⟨boolArgument false, emptyString⟩
      roleSessionName := ⟨boolArgument false, emptyString⟩
      hasDurationSeconds := false
      durationSeconds := 0 }
  | .assumeRole roleArn source externalId roleSessionName durationSeconds => {
      kind := 3
      source := source.nativeParts
      roleArn
      externalId := normalizeOptionalText externalId
      roleSessionName := normalizeOptionalText roleSessionName
      hasDurationSeconds := durationSeconds.isSome
      durationSeconds := durationSeconds.getD 0 }

/-! ## Constructors -/

/-- The constructors with their optional arguments; the switch is off unless it is given. -/
def S3CredentialSource.ofDefaultChain (disableEc2Metadata : Bool := false) : S3CredentialSource :=
  .defaultChain disableEc2Metadata

def S3CredentialSource.ofStaticCredentials (accessKeyId secretAccessKey : MoonString)
    (sessionToken : Option MoonString) : Except OpenDalError S3CredentialSource := do
  let accessKeyId ← s3RequiredText accessKeyId "S3 access_key_id must not be empty"
  let secretAccessKey ← s3RequiredText secretAccessKey "S3 secret_access_key must not be empty"
  let sessionToken ← s3OptionalText sessionToken
    "S3 session_token must not be empty when provided"
  .ok (.staticCredentials accessKeyId secretAccessKey sessionToken)

def S3Auth.ofDefaultChain (disableEc2Metadata : Bool := false) : S3Auth :=
  .credentials (.ofDefaultChain disableEc2Metadata)

def S3Auth.ofStaticCredentials (accessKeyId secretAccessKey : MoonString)
    (sessionToken : Option MoonString) : Except OpenDalError S3Auth :=
  (S3CredentialSource.ofStaticCredentials accessKeyId secretAccessKey sessionToken).map .credentials

def S3Auth.ofUnsigned : S3Auth := .unsigned

def S3Auth.ofAssumeRole (roleArn : MoonString) (source : Option S3CredentialSource)
    (externalId roleSessionName : Option MoonString) (durationSeconds : Option UInt64) :
    Except OpenDalError S3Auth := do
  let roleArn ← s3RequiredText roleArn "S3 role_arn must not be empty"
  let source := source.getD (.ofDefaultChain)
  let externalId ← s3OptionalText externalId "S3 external_id must not be empty when provided"
  let roleSessionName ← s3OptionalText roleSessionName
    "S3 role_session_name must not be empty when provided"
  let durationSeconds ← s3DurationSeconds durationSeconds
  .ok (.assumeRole roleArn source externalId roleSessionName durationSeconds)

/-- A source that a constructor has returned. -/
inductive S3CredentialSource.Built : S3CredentialSource → Prop where
  | defaultChain (disableEc2Metadata : Bool) : Built (.ofDefaultChain disableEc2Metadata)
  | staticCredentials {accessKeyId secretAccessKey : MoonString} {sessionToken : Option MoonString}
      {source : S3CredentialSource}
      (h : ofStaticCredentials accessKeyId secretAccessKey sessionToken = .ok source) :
      Built source

inductive S3Auth.Built : S3Auth → Prop where
  | defaultChain (disableEc2Metadata : Bool) : Built (.ofDefaultChain disableEc2Metadata)
  | staticCredentials {accessKeyId secretAccessKey : MoonString} {sessionToken : Option MoonString}
      {auth : S3Auth} (h : ofStaticCredentials accessKeyId secretAccessKey sessionToken = .ok auth) :
      Built auth
  | unsigned : Built .ofUnsigned
  | assumeRole {roleArn : MoonString} {source : Option S3CredentialSource}
      {externalId roleSessionName : Option MoonString} {durationSeconds : Option UInt64}
      {auth : S3Auth} (hsource : ∀ s ∈ source, s.Built)
      (h : ofAssumeRole roleArn source externalId roleSessionName durationSeconds = .ok auth) :
      Built auth

/-- The arguments of `Operator::s3`, after the checks of its texts. -/
structure S3Config where
  bucket : MoonString
  region : MoonString
  root : Option MoonString
  endpoint : Option MoonString
  auth : S3Auth
  virtualHostStyle : Bool

/-- The arguments of `native_operator_s3`. -/
def S3Config.arguments (config : S3Config) : S3Arguments :=
  let auth := config.auth.nativeParts
  { bucket := config.bucket
    region := config.region
    root := normalizeOptionalText config.root
    endpoint := normalizeOptionalText config.endpoint
    authKind := auth.kind
    sourceKind := auth.source.kind
    disableEc2Metadata := boolArgument auth.source.disableEc2Metadata
    accessKeyId := auth.source.accessKeyId
    secretAccessKey := auth.source.secretAccessKey
    sessionToken := auth.source.sessionToken
    roleArn := auth.roleArn
    externalId := auth.externalId
    roleSessionName := auth.roleSessionName
    hasDurationSeconds := boolArgument auth.hasDurationSeconds
    durationSeconds := auth.durationSeconds
    virtualHostStyle := boolArgument config.virtualHostStyle }

/-- `Operator::s3` up to the call of the stub. -/
def operatorS3 (bucket region : MoonString) (root endpoint : Option MoonString)
    (auth : Option S3Auth) (virtualHostStyle : Bool) : Except OpenDalError S3Config := do
  let bucket ← s3RequiredText bucket "S3 bucket must not be empty"
  let region ← s3RequiredText region "S3 region must not be empty"
  let root ← s3OptionalText root "S3 root must not be empty when provided"
  let endpoint ← s3OptionalText endpoint "S3 endpoint must not be empty when provided"
  .ok { bucket, region, root, endpoint, auth := auth.getD .ofDefaultChain, virtualHostStyle }

/-! ## Built policies -/

def S3CredentialSource.texts : S3CredentialSource → List MoonString
  | defaultChain _ => []
  | staticCredentials accessKeyId secretAccessKey sessionToken =>
    accessKeyId :: secretAccessKey :: sessionToken.toList

def S3Auth.texts : S3Auth → List MoonString
  | credentials source => source.texts
  | unsigned => []
  | assumeRole roleArn source externalId roleSessionName _ =>
    roleArn :: (source.texts ++ externalId.toList ++ roleSessionName.toList)

def S3Config.texts (config : S3Config) : List MoonString :=
  config.bucket :: config.region :: (config.root.toList ++ config.endpoint.toList ++
    config.auth.texts)

theorem eq_s3RequiredText {value text : MoonString} {message : String}
    (h : s3RequiredText value message = .ok text) : text = value := by
  unfold s3RequiredText at h
  split_ifs at h with hempty
  cases h
  rfl

theorem nonempty_s3RequiredText {value text : MoonString} {message : String}
    (h : s3RequiredText value message = .ok text) : text.units ≠ [] := by
  unfold s3RequiredText at h
  split_ifs at h with hempty
  cases h
  intro hnil
  apply hempty
  rw [hnil]
  rfl

theorem s3OptionalText_eq_ok {value result : Option MoonString} {message : String}
    (h : s3OptionalText value message = .ok result) :
    result = value ∧ ∀ text ∈ result, text.units ≠ [] := by
  cases value with
  | none =>
    cases h
    exact ⟨rfl, nofun⟩
  | some value =>
    have hsome : (s3RequiredText value message).map some = .ok result := h
    cases hvalue : s3RequiredText value message with
    | error error =>
      rw [hvalue] at hsome
      cases hsome
    | ok required =>
      rw [hvalue] at hsome
      cases hsome
      refine ⟨congrArg some (eq_s3RequiredText hvalue), ?_⟩
      intro text htext
      cases htext
      exact nonempty_s3RequiredText hvalue

theorem nonempty_ofStaticCredentials {accessKeyId secretAccessKey : MoonString}
    {sessionToken : Option MoonString} {source : S3CredentialSource}
    (h : S3CredentialSource.ofStaticCredentials accessKeyId secretAccessKey sessionToken =
      .ok source) : ∀ text ∈ source.texts, text.units ≠ [] := by
  obtain ⟨key, hkey, h⟩ := CallResult.bind_eq_ok.mp h
  obtain ⟨secret, hsecret, h⟩ := CallResult.bind_eq_ok.mp h
  obtain ⟨token, htoken, h⟩ := CallResult.bind_eq_ok.mp h
  cases h
  intro text htext
  rcases List.mem_cons.mp htext with rfl | htext
  · exact nonempty_s3RequiredText hkey
  · rcases List.mem_cons.mp htext with rfl | htext
    · exact nonempty_s3RequiredText hsecret
    · exact (s3OptionalText_eq_ok htoken).2 text (Option.mem_toList.mp htext)

theorem S3CredentialSource.nonempty_of_built {source : S3CredentialSource} (h : source.Built) :
    ∀ text ∈ source.texts, text.units ≠ [] := by
  cases h with
  | defaultChain disable => exact nofun
  | staticCredentials hsource => exact nonempty_ofStaticCredentials hsource

theorem S3Auth.nonempty_of_built {auth : S3Auth} (h : auth.Built) :
    ∀ text ∈ auth.texts, text.units ≠ [] := by
  cases h with
  | defaultChain disable => exact nofun
  | unsigned => exact nofun
  | @staticCredentials accessKeyId secretAccessKey token auth hauth =>
    unfold ofStaticCredentials at hauth
    cases hsource : S3CredentialSource.ofStaticCredentials accessKeyId secretAccessKey token with
    | error error =>
      rw [hsource] at hauth
      cases hauth
    | ok source =>
      rw [hsource] at hauth
      cases hauth
      exact nonempty_ofStaticCredentials hsource
  | @assumeRole roleArn source externalId roleSessionName durationSeconds auth hsource hauth =>
    obtain ⟨arn, harn, hauth⟩ := CallResult.bind_eq_ok.mp hauth
    obtain ⟨external, hexternal, hauth⟩ := CallResult.bind_eq_ok.mp hauth
    obtain ⟨session, hsession, hauth⟩ := CallResult.bind_eq_ok.mp hauth
    obtain ⟨duration, hduration, hauth⟩ := CallResult.bind_eq_ok.mp hauth
    cases hauth
    have hbuilt : (source.getD (.ofDefaultChain)).Built := by
      cases source with
      | none => exact .defaultChain false
      | some source => exact hsource source rfl
    intro text htext
    rcases List.mem_cons.mp htext with rfl | htext
    · exact nonempty_s3RequiredText harn
    · rcases List.mem_append.mp htext with htext | htext
      · rcases List.mem_append.mp htext with htext | htext
        · exact S3CredentialSource.nonempty_of_built hbuilt text htext
        · exact (s3OptionalText_eq_ok hexternal).2 text (Option.mem_toList.mp htext)
      · exact (s3OptionalText_eq_ok hsession).2 text (Option.mem_toList.mp htext)

theorem operatorS3_eq {bucket region : MoonString} {root endpoint : Option MoonString}
    {auth : Option S3Auth} {virtualHostStyle : Bool} {config : S3Config}
    (h : operatorS3 bucket region root endpoint auth virtualHostStyle = .ok config) :
    config = ⟨bucket, region, root, endpoint, auth.getD .ofDefaultChain, virtualHostStyle⟩ := by
  obtain ⟨bucket', hbucket, h⟩ := CallResult.bind_eq_ok.mp h
  obtain ⟨region', hregion, h⟩ := CallResult.bind_eq_ok.mp h
  obtain ⟨root', hroot, h⟩ := CallResult.bind_eq_ok.mp h
  obtain ⟨endpoint', hendpoint, h⟩ := CallResult.bind_eq_ok.mp h
  cases h
  rw [eq_s3RequiredText hbucket, eq_s3RequiredText hregion, (s3OptionalText_eq_ok hroot).1,
    (s3OptionalText_eq_ok hendpoint).1]

theorem nonempty_operatorS3 {bucket region : MoonString} {root endpoint : Option MoonString}
    {auth : Option S3Auth} {virtualHostStyle : Bool} {config : S3Config}
    (hauth : ∀ a ∈ auth, a.Built)
    (h : operatorS3 bucket region root endpoint auth virtualHostStyle = .ok config) :
    ∀ text ∈ config.texts, text.units ≠ [] := by
  obtain ⟨bucket', hbucket, h⟩ := CallResult.bind_eq_ok.mp h
  obtain ⟨region', hregion, h⟩ := CallResult.bind_eq_ok.mp h
  obtain ⟨root', hroot, h⟩ := CallResult.bind_eq_ok.mp h
  obtain ⟨endpoint', hendpoint, h⟩ := CallResult.bind_eq_ok.mp h
  cases h
  have hbuilt : (auth.getD .ofDefaultChain).Built := by
    cases auth with
    | none => exact .defaultChain false
    | some auth => exact hauth auth rfl
  intro text htext
  rcases List.mem_cons.mp htext with rfl | htext
  · exact nonempty_s3RequiredText hbucket
  · rcases List.mem_cons.mp htext with rfl | htext
    · exact nonempty_s3RequiredText hregion
    · rcases List.mem_append.mp htext with htext | htext
      · rcases List.mem_append.mp htext with htext | htext
        · exact (s3OptionalText_eq_ok hroot).2 text (Option.mem_toList.mp htext)
        · exact (s3OptionalText_eq_ok hendpoint).2 text (Option.mem_toList.mp htext)
      · exact S3Auth.nonempty_of_built hbuilt text htext

end OpendalMbt.NativePackage
