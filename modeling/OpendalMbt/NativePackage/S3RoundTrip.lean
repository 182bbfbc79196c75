import OpendalMbt.NativePackage.S3
import OpendalMbt.Stub.OptionRoundTrip

/-!
# S3 policies, there and back

Between the stub and the library stands the carrier of a policy, `s3Carrier`.

* `parseS3Options_s3Carrier`: the library reads the policy of such a carrier;
* `operatorS3Options_eq`: the stub fills the carrier of the policy of its arguments;
* `s3Policy`: the policy of every built value comes back, an accepted carrier mixes no modes, and
  only a default chain leaves ambient credentials enabled.
-/

namespace OpendalMbt.Native

namespace ParsedS3CredentialSource

def kind : ParsedS3CredentialSource → UInt32
  | defaultChain _ => S3_SOURCE_DEFAULT_CHAIN
  | static _ _ _ => S3_SOURCE_STATIC

def disableEc2Metadata : ParsedS3CredentialSource → Bool
  | defaultChain disable => disable
  | static _ _ _ => false

def accessKeyId : ParsedS3CredentialSource → Option String
  | defaultChain _ => none
  | static accessKeyId _ _ => some accessKeyId

def secretAccessKey : ParsedS3CredentialSource → Option String
  | defaultChain _ => none
  | static _ secretAccessKey _ => some secretAccessKey

def sessionToken : ParsedS3CredentialSource → Option String
  | defaultChain _ => none
  | static _ _ sessionToken => sessionToken

def texts : ParsedS3CredentialSource → List String
  | defaultChain _ => []
  | static accessKeyId secretAccessKey sessionToken =>
    accessKeyId :: secretAccessKey :: sessionToken.toList

end ParsedS3CredentialSource

namespace ParsedS3Auth

def kind : ParsedS3Auth → UInt32
  | credentials source => source.kind
  | unsigned => S3_AUTH_UNSIGNED
  | assumeRole _ _ _ _ _ => S3_AUTH_ASSUME_ROLE

/-- An unsigned policy has the fields of a default chain. -/
def chain (auth : ParsedS3Auth) : ParsedS3CredentialSource := auth.source.getD (.defaultChain false)

def roleArn : ParsedS3Auth → Option String
  | assumeRole roleArn _ _ _ _ => some roleArn
  | _ => none

def externalId : ParsedS3Auth → Option String
  | assumeRole _ _ externalId _ _ => externalId
  | _ => none

def roleSessionName : ParsedS3Auth → Option String
  | assumeRole _ _ _ roleSessionName _ => roleSessionName
  | _ => none

def durationSeconds : ParsedS3Auth → Option UInt32
  | assumeRole _ _ _ _ durationSeconds => durationSeconds
  | _ => none

/-- The texts of a policy. -/
def texts : ParsedS3Auth → List String
  | credentials source => source.texts
  | unsigned => []
  | assumeRole roleArn source externalId roleSessionName _ =>
    roleArn :: (source.texts ++ externalId.toList ++ roleSessionName.toList)

theorem texts_chain {auth : ParsedS3Auth} {text : String} (h : text ∈ auth.chain.texts) :
    text ∈ auth.texts := by
  cases auth with
  | credentials source => exact h
  | unsigned => cases h
  | assumeRole roleArn source externalId roleSessionName durationSeconds =>
    apply List.mem_cons_of_mem
    exact List.mem_append_left _ (List.mem_append_left _ h)

end ParsedS3Auth

/-- The texts of a policy and of its operator. -/
def ParsedS3Options.texts (options : ParsedS3Options) : List String :=
  options.bucket :: options.region :: (options.root.toList ++ options.endpoint.toList ++
    options.auth.texts)

end OpendalMbt.Native

namespace OpendalMbt.Stub

open Codec Native

/-- The bits of the optional fields, in their order. -/
def s3Bits (options : ParsedS3Options) : UInt64 :=
  mark (mark (mark (mark (mark (mark 0 1 (boolArgument options.root.isSome)) 2
    (boolArgument options.endpoint.isSome)) 4
    (boolArgument options.auth.chain.sessionToken.isSome)) 8
    (boolArgument options.auth.externalId.isSome)) 16
    (boolArgument options.auth.roleSessionName.isSome)) 32
    (boolArgument options.auth.durationSeconds.isSome)

def s3Flags (options : ParsedS3Options) : UInt64 :=
  mark (mark 0 1 (boolArgument options.virtualHostStyle)) 2
    (boolArgument options.auth.chain.disableEc2Metadata)

/-- The carrier of a policy. -/
def s3Carrier (options : ParsedS3Options) : S3OptionsV1 where
  toStructHeaderV1 := structHeader sizeOfS3OptionsV1
  presentBits := s3Bits options
  flags := s3Flags options
  authKind := options.auth.kind
  sourceKind := options.auth.chain.kind
  bucket := stringView options.bucket
  region := stringView options.region
  root := optionalStringView options.root
  endpoint := optionalStringView options.endpoint
  accessKeyId := optionalStringView options.auth.chain.accessKeyId
  secretAccessKey := optionalStringView options.auth.chain.secretAccessKey
  sessionToken := optionalStringView options.auth.chain.sessionToken
  roleArn := optionalStringView options.auth.roleArn
  externalId := optionalStringView options.auth.externalId
  roleSessionName := optionalStringView options.auth.roleSessionName
  assumeRoleDurationSeconds := options.auth.durationSeconds.getD 0
  reserved0 := 0

/-! ## Reading a carrier -/

/-- A text that can be in a carrier: not empty, and of a length of memory. -/
def Carried (text : String) : Prop := text.isEmpty = false ∧ text.utf8ByteSize ≤ isizeMax

theorem requiredNonemptyText_stringView {text : String} (label : String) (h : Carried text) :
    requiredNonemptyText (stringView text) label = .ok text := by
  rw [requiredNonemptyText, CallResult.bind_of_ok (readTextValue_stringView label h.2), h.1]
  rfl

theorem optionalNonemptyText_written {value : Option String} {presentBits bit : UInt64}
    (label : String) (hbit : presentBits &&& bit ≠ 0 ↔ value.isSome)
    (h : ∀ text ∈ value, Carried text) :
    optionalNonemptyText (optionalStringView value) presentBits bit label = .ok value := by
  have hread : optionalText (optionalStringView value) presentBits bit label = .ok value :=
    optionalText_written label hbit fun text htext => (h text htext).2
  rw [optionalNonemptyText, CallResult.bind_of_ok hread]
  cases value with
  | none => rfl
  | some text =>
    dsimp only
    rw [(h text rfl).1]
    rfl

section Carrier

variable {options : ParsedS3Options}

theorem clear_of_none {presentBits bit : UInt64} {b : Bool} (hbit : presentBits &&& bit ≠ 0 ↔ b)
    (h : b = false) : presentBits &&& bit = 0 := by
  by_contra hset
  rw [h] at hbit
  cases hbit.mp hset

/-- Each bit stands for its own field. -/
theorem bits_s3Carrier (options : ParsedS3Options) :
    let bits := (s3Carrier options).presentBits
    bits &&& ~~~s3KnownPresent = 0 ∧ (bits &&& S3_ROOT_PRESENT ≠ 0 ↔ options.root.isSome) ∧
      (bits &&& S3_ENDPOINT_PRESENT ≠ 0 ↔ options.endpoint.isSome) ∧
      (bits &&& S3_SESSION_TOKEN_PRESENT ≠ 0 ↔ options.auth.chain.sessionToken.isSome) ∧
      (bits &&& S3_EXTERNAL_ID_PRESENT ≠ 0 ↔ options.auth.externalId.isSome) ∧
      (bits &&& S3_ROLE_SESSION_NAME_PRESENT ≠ 0 ↔ options.auth.roleSessionName.isSome) ∧
      (bits &&& S3_ASSUME_ROLE_DURATION_PRESENT ≠ 0 ↔ options.auth.durationSeconds.isSome) :=
  writeBits_eq options.root.isSome options.endpoint.isSome
    options.auth.chain.sessionToken.isSome options.auth.externalId.isSome
    options.auth.roleSessionName.isSome options.auth.durationSeconds.isSome

theorem flagBits_eq (b₁ b₂ : Bool) :
    let flags := mark (mark 0 1 (boolArgument b₁)) 2 (boolArgument b₂)
    flags &&& ~~~(1 ||| 2) = 0 ∧ decide (flags &&& 1 ≠ 0) = b₁ ∧ (flags &&& 2 != 0) = b₂ := by
  revert b₁ b₂
  decide

theorem flags_s3Carrier (options : ParsedS3Options) :
    (s3Carrier options).flags &&& ~~~s3KnownFlags = 0 ∧
      decide ((s3Carrier options).flags &&& S3_VIRTUAL_HOST_STYLE ≠ 0) =
        options.virtualHostStyle ∧
      disablesEc2Metadata (s3Carrier options) = options.auth.chain.disableEc2Metadata :=
  flagBits_eq options.virtualHostStyle options.auth.chain.disableEc2Metadata

theorem noKeys_s3Carrier (hkeys : options.auth.chain.accessKeyId = none)
    (hsecret : options.auth.chain.secretAccessKey = none)
    (htoken : options.auth.chain.sessionToken = none) : (s3Carrier options).NoKeys := by
  obtain ⟨-, -, -, hbit, -⟩ := bits_s3Carrier options
  refine ⟨?_, ?_, ?_, clear_of_none hbit (by rw [htoken]; rfl)⟩
  · rw [s3Carrier, hkeys]
    rfl
  · rw [s3Carrier, hsecret]
    rfl
  · rw [s3Carrier, htoken]
    rfl

theorem noRole_s3Carrier (hrole : options.auth.roleArn = none)
    (hexternal : options.auth.externalId = none) (hsession : options.auth.roleSessionName = none)
    (hduration : options.auth.durationSeconds = none) : (s3Carrier options).NoRole := by
  obtain ⟨-, -, -, -, hexternalBit, hsessionBit, hdurationBit⟩ := bits_s3Carrier options
  exact {
    roleArn := by
      rw [s3Carrier, hrole]
      rfl
    externalId := by
      rw [s3Carrier, hexternal]
      rfl
    externalIdBit := clear_of_none hexternalBit (by rw [hexternal]; rfl)
    roleSessionName := by
      rw [s3Carrier, hsession]
      rfl
    roleSessionNameBit := clear_of_none hsessionBit (by rw [hsession]; rfl)
    duration := by
      rw [s3Carrier, hduration]
      rfl
    durationBit := clear_of_none hdurationBit (by rw [hduration]; rfl) }

theorem parseStaticCredentials_s3Carrier {accessKeyId secretAccessKey : String}
    {sessionToken : Option String}
    (hchain : options.auth.chain = .static accessKeyId secretAccessKey sessionToken)
    (hcarried : ∀ text ∈ options.auth.texts, Carried text) :
    parseStaticCredentials (s3Carrier options) =
      .ok (.static accessKeyId secretAccessKey sessionToken) := by
  obtain ⟨-, -, -, hbit, -⟩ := bits_s3Carrier options
  have htexts : ∀ text ∈ accessKeyId :: secretAccessKey :: sessionToken.toList, Carried text := by
    intro text htext
    apply hcarried
    apply ParsedS3Auth.texts_chain
    rw [hchain]
    exact htext
  rw [hchain] at hbit
  have hkey : requiredNonemptyText (s3Carrier options).accessKeyId "S3 access_key_id" =
      .ok accessKeyId := by
    rw [s3Carrier, hchain]
    exact requiredNonemptyText_stringView _ (htexts _ (by simp))
  have hsecret : requiredNonemptyText (s3Carrier options).secretAccessKey "S3 secret_access_key" =
      .ok secretAccessKey := by
    rw [s3Carrier, hchain]
    exact requiredNonemptyText_stringView _ (htexts _ (by simp))
  have htoken : optionalNonemptyText (s3Carrier options).sessionToken
      (s3Carrier options).presentBits S3_SESSION_TOKEN_PRESENT "S3 session_token" =
      .ok sessionToken := by
    have hview : (s3Carrier options).sessionToken = optionalStringView sessionToken := by
      rw [s3Carrier, hchain]
      rfl
    rw [hview]
    apply optionalNonemptyText_written _ hbit
    intro text htext
    have hvalue : sessionToken = some text := htext
    apply htexts
    simp [hvalue]
  rw [parseStaticCredentials, CallResult.bind_of_ok hkey, CallResult.bind_of_ok hsecret,
    CallResult.bind_of_ok htoken]

/-- What of a policy crosses the ABI and is read again; a duration of zero does not. -/
def readAuth (auth : ParsedS3Auth) : CallResult ParsedS3Auth :=
  if auth.durationSeconds = some 0 then
    .error (invalidArgument "S3 assume-role duration_seconds must be positive")
  else .ok auth

theorem parseS3Auth_credentials {source : ParsedS3CredentialSource}
    (hauth : options.auth = .credentials source)
    (hcarried : ∀ text ∈ options.auth.texts, Carried text) :
    parseS3Auth (s3Carrier options) = .ok (.credentials source) := by
  have hchain : options.auth.chain = source := by
    rw [hauth]
    rfl
  have hrole : (s3Carrier options).NoRole := by
    apply noRole_s3Carrier <;> rw [hauth] <;> rfl
  obtain ⟨-, -, hdisable⟩ := flags_s3Carrier options
  cases source with
  | defaultChain disable =>
    have hkeys : (s3Carrier options).NoKeys := by
      apply noKeys_s3Carrier <;> rw [hchain] <;> rfl
    have hkind : (s3Carrier options).authKind = S3_AUTH_DEFAULT_CHAIN := by
      rw [s3Carrier, hauth]
      rfl
    have hsource : (s3Carrier options).sourceKind = S3_SOURCE_DEFAULT_CHAIN := by
      rw [s3Carrier, hchain]
      rfl
    have hflag : disablesEc2Metadata (s3Carrier options) = disable := by
      rw [hdisable, hchain]
      rfl
    rw [parseS3Auth, if_pos hkind, parseDefaultChainAuth, if_neg (not_not.mpr hsource),
      CallResult.bind_of_ok (rejectStaticCredentials_eq_ok.mpr hkeys),
      CallResult.bind_of_ok (rejectRoleFields_eq_ok.mpr hrole), hflag]
  | static accessKeyId secretAccessKey sessionToken =>
    have hkind : (s3Carrier options).authKind = S3_AUTH_STATIC := by
      rw [s3Carrier, hauth]
      rfl
    have hother : (s3Carrier options).authKind ≠ S3_AUTH_DEFAULT_CHAIN := by
      rw [hkind]
      decide
    have hsource : (s3Carrier options).sourceKind = S3_SOURCE_STATIC := by
      rw [s3Carrier, hchain]
      rfl
    have hflag : ¬ disablesEc2Metadata (s3Carrier options) = true := by
      rw [hdisable, hchain]
      exact Bool.false_ne_true
    rw [parseS3Auth, if_neg hother, if_pos hkind, parseStaticAuth, if_neg (not_not.mpr hsource),
      if_neg hflag, CallResult.bind_of_ok (rejectRoleFields_eq_ok.mpr hrole),
      CallResult.bind_of_ok (parseStaticCredentials_s3Carrier hchain hcarried)]

theorem parseS3Auth_unsigned (hauth : options.auth = .unsigned) :
    parseS3Auth (s3Carrier options) = .ok .unsigned := by
  have hrole : (s3Carrier options).NoRole := by
    apply noRole_s3Carrier <;> rw [hauth] <;> rfl
  have hkeys : (s3Carrier options).NoKeys := by
    apply noKeys_s3Carrier <;> rw [hauth] <;> rfl
  have hkind : (s3Carrier options).authKind = S3_AUTH_UNSIGNED := by
    rw [s3Carrier, hauth]
    rfl
  have hother : (s3Carrier options).authKind ≠ S3_AUTH_DEFAULT_CHAIN ∧
      (s3Carrier options).authKind ≠ S3_AUTH_STATIC := by
    rw [hkind]
    decide
  have hsource : (s3Carrier options).sourceKind = S3_SOURCE_DEFAULT_CHAIN := by
    rw [s3Carrier, hauth]
    rfl
  obtain ⟨-, -, hdisable⟩ := flags_s3Carrier options
  have hflag : ¬ disablesEc2Metadata (s3Carrier options) = true := by
    rw [hdisable, hauth]
    exact Bool.false_ne_true
  rw [parseS3Auth, if_neg hother.1, if_neg hother.2, if_pos hkind, parseUnsignedAuth,
    if_neg (not_not.mpr hsource), if_neg hflag,
    CallResult.bind_of_ok (rejectStaticCredentials_eq_ok.mpr hkeys),
    CallResult.bind_of_ok (rejectRoleFields_eq_ok.mpr hrole)]

theorem parseDurationSeconds_s3Carrier (options : ParsedS3Options) :
    parseDurationSeconds (s3Carrier options) =
      if options.auth.durationSeconds = some 0 then
        .error (invalidArgument "S3 assume-role duration_seconds must be positive")
      else .ok options.auth.durationSeconds := by
  obtain ⟨-, -, -, -, -, -, hbit⟩ := bits_s3Carrier options
  have hfield : (s3Carrier options).assumeRoleDurationSeconds =
      options.auth.durationSeconds.getD 0 := rfl
  unfold parseDurationSeconds
  rw [hfield]
  cases hduration : options.auth.durationSeconds with
  | none =>
    rw [hduration] at hbit
    rw [if_neg (not_not.mpr (clear_of_none hbit rfl)), if_neg (by simp), if_neg (by simp)]
  | some seconds =>
    rw [hduration] at hbit
    rw [if_pos (hbit.mpr rfl), Option.getD_some]
    by_cases hzero : seconds = 0
    · rw [if_pos hzero, hzero, if_pos rfl]
    · rw [if_neg hzero, if_neg (by simpa using hzero)]

theorem parseRoleSource_s3Carrier {roleArn : String} {source : ParsedS3CredentialSource}
    {externalId roleSessionName : Option String} {durationSeconds : Option UInt32}
    (hauth : options.auth = .assumeRole roleArn source externalId roleSessionName durationSeconds)
    (hcarried : ∀ text ∈ options.auth.texts, Carried text) :
    parseRoleSource (s3Carrier options) = .ok source := by
  have hchain : options.auth.chain = source := by
    rw [hauth]
    rfl
  obtain ⟨-, -, hdisable⟩ := flags_s3Carrier options
  cases source with
  | defaultChain disable =>
    have hkeys : (s3Carrier options).NoKeys := by
      apply noKeys_s3Carrier <;> rw [hchain] <;> rfl
    have hsource : (s3Carrier options).sourceKind = S3_SOURCE_DEFAULT_CHAIN := by
      rw [s3Carrier, hchain]
      rfl
    have hflag : disablesEc2Metadata (s3Carrier options) = disable := by
      rw [hdisable, hchain]
      rfl
    rw [parseRoleSource, if_pos hsource,
      CallResult.bind_of_ok (rejectStaticCredentials_eq_ok.mpr hkeys), hflag]
  | static accessKeyId secretAccessKey sessionToken =>
    have hsource : (s3Carrier options).sourceKind = S3_SOURCE_STATIC := by
      rw [s3Carrier, hchain]
      rfl
    have hother : (s3Carrier options).sourceKind ≠ S3_SOURCE_DEFAULT_CHAIN := by
      rw [hsource]
      decide
    have hflag : ¬ disablesEc2Metadata (s3Carrier options) = true := by
      rw [hdisable, hchain]
      exact Bool.false_ne_true
    rw [parseRoleSource, if_neg hother, if_pos hsource, if_neg hflag]
    exact parseStaticCredentials_s3Carrier hchain hcarried

theorem parseS3Auth_assumeRole {roleArn : String} {source : ParsedS3CredentialSource}
    {externalId roleSessionName : Option String} {durationSeconds : Option UInt32}
    (hauth : options.auth = .assumeRole roleArn source externalId roleSessionName durationSeconds)
    (hcarried : ∀ text ∈ options.auth.texts, Carried text) :
    parseS3Auth (s3Carrier options) = readAuth options.auth := by
  have hkind : (s3Carrier options).authKind = S3_AUTH_ASSUME_ROLE := by
    rw [s3Carrier, hauth]
    rfl
  have hother : (s3Carrier options).authKind ≠ S3_AUTH_DEFAULT_CHAIN ∧
      (s3Carrier options).authKind ≠ S3_AUTH_STATIC ∧
      (s3Carrier options).authKind ≠ S3_AUTH_UNSIGNED := by
    rw [hkind]
    decide
  obtain ⟨-, -, -, -, hexternalBit, hsessionBit, -⟩ := bits_s3Carrier options
  have htexts : ∀ text, (text = roleArn ∨ externalId = some text ∨ roleSessionName = some text) →
      Carried text := by
    intro text htext
    apply hcarried
    rw [hauth]
    unfold ParsedS3Auth.texts
    simp only [List.mem_cons, List.mem_append, Option.mem_toList]
    rcases htext with htext | htext | htext
    · exact .inl htext
    · exact .inr (.inl (.inr htext))
    · exact .inr (.inr htext)
  have hrole : requiredNonemptyText (s3Carrier options).roleArn "S3 role_arn" = .ok roleArn := by
    rw [s3Carrier, hauth]
    exact requiredNonemptyText_stringView _ (htexts _ (.inl rfl))
  have hexternal : optionalNonemptyText (s3Carrier options).externalId
      (s3Carrier options).presentBits S3_EXTERNAL_ID_PRESENT "S3 external_id" =
      .ok externalId := by
    have hview : (s3Carrier options).externalId = optionalStringView externalId := by
      rw [s3Carrier, hauth]
      rfl
    rw [hauth] at hexternalBit
    rw [hview]
    exact optionalNonemptyText_written _ hexternalBit fun text h => htexts _ (.inr (.inl h))
  have hsession : optionalNonemptyText (s3Carrier options).roleSessionName
      (s3Carrier options).presentBits S3_ROLE_SESSION_NAME_PRESENT "S3 role_session_name" =
      .ok roleSessionName := by
    have hview : (s3Carrier options).roleSessionName = optionalStringView roleSessionName := by
      rw [s3Carrier, hauth]
      rfl
    rw [hauth] at hsessionBit
    rw [hview]
    exact optionalNonemptyText_written _ hsessionBit fun text h => htexts _ (.inr (.inr h))
  have hsource := parseRoleSource_s3Carrier hauth hcarried
  rw [parseS3Auth, if_neg hother.1, if_neg hother.2.1, if_neg hother.2.2, if_pos hkind,
    parseAssumeRoleAuth, CallResult.bind_of_ok hrole, CallResult.bind_of_ok hexternal,
    CallResult.bind_of_ok hsession, parseDurationSeconds_s3Carrier, readAuth]
  split_ifs with hzero
  · rfl
  · rw [CallResult.bind_of_ok rfl, CallResult.bind_of_ok hsource, hauth]
    rfl

theorem parseS3Auth_s3Carrier (hcarried : ∀ text ∈ options.auth.texts, Carried text) :
    parseS3Auth (s3Carrier options) = readAuth options.auth := by
  cases hauth : options.auth with
  | credentials source =>
    rw [parseS3Auth_credentials hauth hcarried]
    rfl
  | unsigned =>
    rw [parseS3Auth_unsigned hauth]
    rfl
  | assumeRole roleArn source externalId roleSessionName durationSeconds =>
    rw [parseS3Auth_assumeRole hauth hcarried, hauth]

theorem parseS3Options_s3Carrier (hcarried : ∀ text ∈ options.texts, Carried text) :
    parseS3Options (.valid (s3Carrier options)) =
      (readAuth options.auth).map fun _ => options := by
  have htexts : ∀ text, (text = options.bucket ∨ text = options.region ∨
      options.root = some text ∨ options.endpoint = some text ∨ text ∈ options.auth.texts) →
      Carried text := by
    intro text htext
    apply hcarried
    unfold ParsedS3Options.texts
    simp only [List.mem_cons, List.mem_append, Option.mem_toList, or_assoc]
    exact htext
  obtain ⟨hknown, hrootBit, hendpointBit, -⟩ := bits_s3Carrier options
  obtain ⟨hknownFlags, hvirtual, -⟩ := flags_s3Carrier options
  have hheader : (structHeader sizeOfS3OptionsV1).Complete sizeOfS3OptionsV1 :=
    structHeader_complete (by decide)
  have hread : readInputStruct sizeOfS3OptionsV1 (·.toStructHeaderV1)
      (.valid (s3Carrier options)) = .ok (s3Carrier options) := readInputStruct_valid hheader
  have hclean : ¬ ((s3Carrier options).presentBits &&& ~~~s3KnownPresent ≠ 0 ∨
      (s3Carrier options).flags &&& ~~~s3KnownFlags ≠ 0 ∨ (s3Carrier options).reserved0 ≠ 0) := by
    rw [hknown, hknownFlags]
    exact fun h => h.elim (fun h => h rfl) fun h => h.elim (fun h => h rfl) fun h => h rfl
  have hbucket : requiredNonemptyText (s3Carrier options).bucket "S3 bucket" =
      .ok options.bucket := requiredNonemptyText_stringView _ (htexts _ (.inl rfl))
  have hregion : requiredNonemptyText (s3Carrier options).region "S3 region" =
      .ok options.region := requiredNonemptyText_stringView _ (htexts _ (.inr (.inl rfl)))
  have hroot : optionalNonemptyText (s3Carrier options).root (s3Carrier options).presentBits
      S3_ROOT_PRESENT "S3 root" = .ok options.root :=
    optionalNonemptyText_written _ hrootBit fun text h => htexts _ (.inr (.inr (.inl h)))
  have hendpoint : optionalNonemptyText (s3Carrier options).endpoint
      (s3Carrier options).presentBits S3_ENDPOINT_PRESENT "S3 endpoint" = .ok options.endpoint :=
    optionalNonemptyText_written _ hendpointBit fun text h =>
      htexts _ (.inr (.inr (.inr (.inl h))))
  have hauth := parseS3Auth_s3Carrier fun text h => htexts text (.inr (.inr (.inr (.inr h))))
  rw [parseS3Options, CallResult.bind_of_ok hread, if_neg hclean, CallResult.bind_of_ok hbucket,
    CallResult.bind_of_ok hregion, CallResult.bind_of_ok hroot, CallResult.bind_of_ok hendpoint,
    hauth, hvirtual]
  unfold readAuth
  split_ifs with hzero
  · rfl
  · rfl

end Carrier

/-! ## Converted texts -/

/-- The text that is converted, if any. -/
def OptionalText.converted (argument : OptionalText) : Option String :=
  if argument.present = 0 then none else some argument.text.text

theorem convertOptionalUtf8_formed {malloc : Nat → Bool} (hmemory : ∀ n, malloc n = true)
    {argument : OptionalText} (label : String)
    (h : argument.present ≠ 0 → wellFormed argument.text.units = true) :
    convertOptionalUtf8 malloc argument label = .ok (optionalStringView argument.converted) := by
  unfold convertOptionalUtf8 OptionalText.converted
  split_ifs with habsent
  · rfl
  · have hconvert := utf16ToUtf8_eq hmemory argument.text
    rw [if_pos (h habsent)] at hconvert
    rw [hconvert]
    rfl

theorem converted_normalizeOptionalText (value : Option MoonString) :
    (normalizeOptionalText value).converted = value.map (·.text) := by
  cases value with
  | none => rfl
  | some text => rfl

theorem converted_textWhen (condition : Bool) (text : MoonString) :
    (textWhen condition text).converted = if condition then some text.text else none := by
  cases condition with
  | false => rfl
  | true => rfl

theorem present_normalizeOptionalText (value : Option MoonString) :
    (normalizeOptionalText value).present = boolArgument value.isSome := by
  cases value with
  | none => rfl
  | some text => rfl

end OpendalMbt.Stub

namespace OpendalMbt.NativePackage

open Codec Native Stub

/-! ## The policy of a value -/

def S3CredentialSource.policy : S3CredentialSource → ParsedS3CredentialSource
  | defaultChain disableEc2Metadata => .defaultChain disableEc2Metadata
  | staticCredentials accessKeyId secretAccessKey sessionToken =>
    .static accessKeyId.text secretAccessKey.text (sessionToken.map (·.text))

def S3Auth.policy : S3Auth → ParsedS3Auth
  | credentials source => .credentials source.policy
  | unsigned => .unsigned
  | assumeRole roleArn source externalId roleSessionName durationSeconds =>
    .assumeRole roleArn.text source.policy (externalId.map (·.text)) (roleSessionName.map (·.text))
      durationSeconds

def S3Config.policy (config : S3Config) : ParsedS3Options where
  bucket := config.bucket.text
  region := config.region.text
  root := config.root.map (·.text)
  endpoint := config.endpoint.map (·.text)
  virtualHostStyle := config.virtualHostStyle
  auth := config.auth.policy

/-! ## The checks of the stub -/

def S3CredentialSource.isStatic : S3CredentialSource → Bool
  | defaultChain _ => false
  | staticCredentials _ _ _ => true

def S3Auth.uses : S3Auth → S3Uses
  | credentials source => ⟨source.isStatic, false⟩
  | unsigned => ⟨false, false⟩
  | assumeRole _ source _ _ _ => ⟨source.isStatic, true⟩

/-- The optional texts of a policy. -/
def S3CredentialSource.sessionToken : S3CredentialSource → Option MoonString
  | defaultChain _ => none
  | staticCredentials _ _ sessionToken => sessionToken

def S3Auth.sessionToken : S3Auth → Option MoonString
  | credentials source => source.sessionToken
  | unsigned => none
  | assumeRole _ source _ _ _ => source.sessionToken

def S3Auth.externalId : S3Auth → Option MoonString
  | assumeRole _ _ externalId _ _ => externalId
  | _ => none

def S3Auth.roleSessionName : S3Auth → Option MoonString
  | assumeRole _ _ _ roleSessionName _ => roleSessionName
  | _ => none

section Parts

variable (auth : S3Auth)

theorem sessionToken_nativeParts :
    auth.nativeParts.source.sessionToken = normalizeOptionalText auth.sessionToken := by
  cases auth with
  | credentials source => cases source <;> rfl
  | unsigned => rfl
  | assumeRole roleArn source externalId roleSessionName durationSeconds => cases source <;> rfl

theorem externalId_nativeParts :
    auth.nativeParts.externalId = normalizeOptionalText auth.externalId := by
  cases auth <;> rfl

theorem roleSessionName_nativeParts :
    auth.nativeParts.roleSessionName = normalizeOptionalText auth.roleSessionName := by
  cases auth <;> rfl

/-- A text is converted where it is part of the policy. -/
theorem hasSessionToken_eq :
    (auth.uses.staticCredentials && auth.nativeParts.source.sessionToken.present != 0) =
      auth.sessionToken.isSome := by
  cases auth with
  | credentials source =>
    cases source with
    | defaultChain disable => rfl
    | staticCredentials accessKeyId secretAccessKey token => cases token <;> rfl
  | unsigned => rfl
  | assumeRole roleArn source externalId roleSessionName durationSeconds =>
    cases source with
    | defaultChain disable => rfl
    | staticCredentials accessKeyId secretAccessKey token => cases token <;> rfl

theorem hasExternalId_eq :
    (auth.uses.assumeRole && auth.nativeParts.externalId.present != 0) =
      auth.externalId.isSome := by
  cases auth with
  | credentials source => rfl
  | unsigned => rfl
  | assumeRole roleArn source externalId roleSessionName durationSeconds =>
    cases externalId <;> rfl

theorem hasRoleSessionName_eq :
    (auth.uses.assumeRole && auth.nativeParts.roleSessionName.present != 0) =
      auth.roleSessionName.isSome := by
  cases auth with
  | credentials source => rfl
  | unsigned => rfl
  | assumeRole roleArn source externalId roleSessionName durationSeconds =>
    cases roleSessionName <;> rfl

theorem hasDurationSeconds_eq :
    (auth.uses.assumeRole && boolArgument auth.nativeParts.hasDurationSeconds != 0) =
      auth.policy.durationSeconds.isSome := by
  cases auth with
  | credentials source => rfl
  | unsigned => rfl
  | assumeRole roleArn source externalId roleSessionName durationSeconds =>
    cases durationSeconds <;> rfl

theorem durationSeconds_eq :
    (if auth.policy.durationSeconds.isSome then auth.nativeParts.durationSeconds else 0) =
      auth.policy.durationSeconds.getD 0 := by
  cases auth with
  | credentials source => rfl
  | unsigned => rfl
  | assumeRole roleArn source externalId roleSessionName durationSeconds =>
    cases durationSeconds <;> rfl

/-- The scalars of the parts are those of the policy. -/
theorem scalars_eq :
    auth.nativeParts.kind = auth.policy.kind ∧
      auth.nativeParts.source.kind = auth.policy.chain.kind ∧
      auth.nativeParts.source.disableEc2Metadata = auth.policy.chain.disableEc2Metadata := by
  cases auth with
  | credentials source => cases source <;> exact ⟨rfl, rfl, rfl⟩
  | unsigned => exact ⟨rfl, rfl, rfl⟩
  | assumeRole roleArn source externalId roleSessionName durationSeconds =>
    cases source <;> exact ⟨rfl, rfl, rfl⟩

/-- The texts that every static source or every role has. -/
theorem requiredTexts_eq :
    (textWhen auth.uses.staticCredentials auth.nativeParts.source.accessKeyId).converted =
        auth.policy.chain.accessKeyId ∧
      (textWhen auth.uses.staticCredentials auth.nativeParts.source.secretAccessKey).converted =
        auth.policy.chain.secretAccessKey ∧
      (textWhen auth.uses.assumeRole auth.nativeParts.roleArn).converted =
        auth.policy.roleArn := by
  cases auth with
  | credentials source => cases source <;> exact ⟨rfl, rfl, rfl⟩
  | unsigned => exact ⟨rfl, rfl, rfl⟩
  | assumeRole roleArn source externalId roleSessionName durationSeconds =>
    cases source <;> exact ⟨rfl, rfl, rfl⟩

theorem optionalTexts_eq :
    auth.sessionToken.map (·.text) = auth.policy.chain.sessionToken ∧
      auth.externalId.map (·.text) = auth.policy.externalId ∧
      auth.roleSessionName.map (·.text) = auth.policy.roleSessionName := by
  cases auth with
  | credentials source => cases source <;> exact ⟨rfl, rfl, rfl⟩
  | unsigned => exact ⟨rfl, rfl, rfl⟩
  | assumeRole roleArn source externalId roleSessionName durationSeconds =>
    cases source <;> exact ⟨rfl, rfl, rfl⟩

end Parts

theorem not_notBool_arguments (config : S3Config) : ¬ config.arguments.NotBool := by
  have htext : ∀ value, ¬ NotBool (normalizeOptionalText value).present := by
    intro value
    rw [present_normalizeOptionalText]
    exact not_notBool _
  unfold S3Arguments.NotBool S3Config.arguments
  dsimp only
  rw [sessionToken_nativeParts, externalId_nativeParts, roleSessionName_nativeParts]
  simp only [not_or]
  exact ⟨htext _, htext _, not_notBool _, htext _, htext _, htext _, not_notBool _,
    not_notBool _⟩

theorem s3Uses_arguments (config : S3Config) :
    s3Uses config.arguments = .ok config.auth.uses := by
  obtain ⟨bucket, region, root, endpoint, auth, virtualHostStyle⟩ := config
  cases auth with
  | credentials source => cases source <;> rfl
  | unsigned => rfl
  | assumeRole roleArn source externalId roleSessionName durationSeconds =>
    cases source <;> cases durationSeconds <;> rfl

/-- Every text that the stub converts is a text of the policy. -/
structure ConvertedTexts (auth : S3Auth) : Prop where
  accessKeyId : auth.uses.staticCredentials = true →
    auth.nativeParts.source.accessKeyId ∈ auth.texts
  secretAccessKey : auth.uses.staticCredentials = true →
    auth.nativeParts.source.secretAccessKey ∈ auth.texts
  sessionToken : ∀ text ∈ auth.sessionToken, text ∈ auth.texts
  roleArn : auth.uses.assumeRole = true → auth.nativeParts.roleArn ∈ auth.texts
  externalId : ∀ text ∈ auth.externalId, text ∈ auth.texts
  roleSessionName : ∀ text ∈ auth.roleSessionName, text ∈ auth.texts

theorem convertedTexts_source (source : S3CredentialSource) :
    (source.isStatic = true → source.nativeParts.accessKeyId ∈ source.texts) ∧
      (source.isStatic = true → source.nativeParts.secretAccessKey ∈ source.texts) ∧
      ∀ text ∈ source.sessionToken, text ∈ source.texts := by
  cases source with
  | defaultChain disable => exact ⟨nofun, nofun, nofun⟩
  | staticCredentials accessKeyId secretAccessKey token =>
    refine ⟨?_, ?_, ?_⟩
    · intro _
      exact List.mem_cons_self
    · intro _
      exact List.mem_cons_of_mem _ List.mem_cons_self
    · intro text htext
      apply List.mem_cons_of_mem
      apply List.mem_cons_of_mem
      exact Option.mem_toList.mpr htext

theorem convertedTexts (auth : S3Auth) : ConvertedTexts auth := by
  cases auth with
  | credentials source =>
    obtain ⟨hkey, hsecret, htoken⟩ := convertedTexts_source source
    exact ⟨hkey, hsecret, htoken, nofun, nofun, nofun⟩
  | unsigned => exact ⟨nofun, nofun, nofun, nofun, nofun, nofun⟩
  | assumeRole roleArn source externalId roleSessionName durationSeconds =>
    obtain ⟨hkey, hsecret, htoken⟩ := convertedTexts_source source
    have hsource : ∀ text ∈ source.texts,
        text ∈ (S3Auth.assumeRole roleArn source externalId roleSessionName durationSeconds).texts :=
      fun text htext => List.mem_cons_of_mem _ (List.mem_append_left _ (List.mem_append_left _ htext))
    refine ⟨fun h => hsource _ (hkey h), fun h => hsource _ (hsecret h),
      fun text h => hsource _ (htoken text h), fun _ => List.mem_cons_self, ?_, ?_⟩
    · intro text htext
      apply List.mem_cons_of_mem
      apply List.mem_append_left
      exact List.mem_append_right _ (Option.mem_toList.mpr htext)
    · intro text htext
      apply List.mem_cons_of_mem
      exact List.mem_append_right _ (Option.mem_toList.mpr htext)

/-! ## The carrier of the arguments -/

theorem textWhen_normalizeOptionalText (value : Option MoonString) :
    textWhen value.isSome (normalizeOptionalText value).text = normalizeOptionalText value := by
  cases value with
  | none => rfl
  | some text => rfl

section Fill

variable {malloc : Nat → Bool} (hmemory : ∀ n, malloc n = true)
include hmemory

theorem convert_textWhen (condition : Bool) (text : MoonString) (label : String)
    (h : condition = true → wellFormed text.units = true) :
    convertOptionalUtf8 malloc (textWhen condition text) label =
      .ok (optionalStringView (textWhen condition text).converted) := by
  apply convertOptionalUtf8_formed hmemory
  intro hpresent
  apply h
  cases condition with
  | false => exact absurd rfl hpresent
  | true => rfl

theorem convert_normalizeOptionalText (value : Option MoonString) (label : String)
    (h : ∀ text ∈ value, wellFormed text.units = true) :
    convertOptionalUtf8 malloc (normalizeOptionalText value) label =
      .ok (optionalStringView (value.map (·.text))) := by
  rw [← converted_normalizeOptionalText]
  apply convertOptionalUtf8_formed hmemory
  intro hpresent
  cases value with
  | none => exact absurd rfl hpresent
  | some text => exact h text rfl

/-- The stub fills the carrier of the policy. -/
theorem operatorS3Options_eq (config : S3Config)
    (hformed : ∀ text ∈ config.texts, wellFormed text.units = true) :
    operatorS3Options malloc config.arguments = .ok (s3Carrier config.policy) := by
  have hauthFormed : ∀ text ∈ config.auth.texts, wellFormed text.units = true := by
    intro text htext
    apply hformed
    apply List.mem_cons_of_mem
    apply List.mem_cons_of_mem
    exact List.mem_append_right _ htext
  have htexts := convertedTexts config.auth
  obtain ⟨hkind, hsourceKind, hdisable⟩ := scalars_eq config.auth
  obtain ⟨hkey, hsecret, hrole⟩ := requiredTexts_eq config.auth
  obtain ⟨htoken, hexternal, hsession⟩ := optionalTexts_eq config.auth
  have hbucket := convert_textWhen hmemory true config.bucket "S3 bucket"
    fun _ => hformed config.bucket List.mem_cons_self
  have hregion := convert_textWhen hmemory true config.region "S3 region"
    fun _ => hformed config.region (List.mem_cons_of_mem _ List.mem_cons_self)
  have hroot := convert_normalizeOptionalText hmemory config.root "S3 root" fun text htext =>
    hformed text (by simp [S3Config.texts, Option.mem_def.mp htext])
  have hendpoint := convert_normalizeOptionalText hmemory config.endpoint "S3 endpoint"
    fun text htext => hformed text (by simp [S3Config.texts, Option.mem_def.mp htext])
  have haccessKeyId := convert_textWhen hmemory config.auth.uses.staticCredentials
    config.auth.nativeParts.source.accessKeyId "S3 access_key_id"
    fun h => hauthFormed _ (htexts.accessKeyId h)
  have hsecretAccessKey := convert_textWhen hmemory config.auth.uses.staticCredentials
    config.auth.nativeParts.source.secretAccessKey "S3 secret_access_key"
    fun h => hauthFormed _ (htexts.secretAccessKey h)
  have hsessionToken := convert_normalizeOptionalText hmemory config.auth.sessionToken
    "S3 session_token" fun text h => hauthFormed _ (htexts.sessionToken text h)
  have hroleArn := convert_textWhen hmemory config.auth.uses.assumeRole
    config.auth.nativeParts.roleArn "S3 role_arn" fun h => hauthFormed _ (htexts.roleArn h)
  have hexternalId := convert_normalizeOptionalText hmemory config.auth.externalId
    "S3 external_id" fun text h => hauthFormed _ (htexts.externalId text h)
  have hroleSessionName := convert_normalizeOptionalText hmemory config.auth.roleSessionName
    "S3 role_session_name" fun text h => hauthFormed _ (htexts.roleSessionName text h)
  have hrootBit : (config.root.map (·.text)).isSome = config.root.isSome := Option.isSome_map
  have hendpointBit : (config.endpoint.map (·.text)).isSome = config.endpoint.isSome :=
    Option.isSome_map
  have htokenBit : config.auth.policy.chain.sessionToken.isSome = config.auth.sessionToken.isSome := by
    rw [← htoken, Option.isSome_map]
  have hexternalBit : config.auth.policy.externalId.isSome = config.auth.externalId.isSome := by
    rw [← hexternal, Option.isSome_map]
  have hsessionBit :
      config.auth.policy.roleSessionName.isSome = config.auth.roleSessionName.isSome := by
    rw [← hsession, Option.isSome_map]
  have hbits : s3Bits config.policy =
      mark (mark (mark (mark (mark (mark 0 1 (boolArgument config.root.isSome)) 2
        (boolArgument config.endpoint.isSome)) 4 (boolArgument config.auth.sessionToken.isSome)) 8
        (boolArgument config.auth.externalId.isSome)) 16
        (boolArgument config.auth.roleSessionName.isSome)) 32
        (boolArgument config.auth.policy.durationSeconds.isSome) := by
    rw [← hrootBit, ← hendpointBit, ← htokenBit, ← hexternalBit, ← hsessionBit]
    rfl
  have hflags : s3Flags config.policy = mark (mark 0 1 (boolArgument config.virtualHostStyle)) 2
      (boolArgument config.auth.nativeParts.source.disableEc2Metadata) := by
    rw [hdisable]
    rfl
  unfold operatorS3Options
  rw [if_neg (not_notBool_arguments config), CallResult.bind_of_ok (s3Uses_arguments config)]
  unfold fillS3Options S3Config.arguments
  dsimp only
  rw [hasSessionToken_eq, hasExternalId_eq, hasRoleSessionName_eq, hasDurationSeconds_eq,
    sessionToken_nativeParts, externalId_nativeParts, roleSessionName_nativeParts,
    textWhen_normalizeOptionalText, textWhen_normalizeOptionalText,
    textWhen_normalizeOptionalText, durationSeconds_eq, CallResult.bind_of_ok hbucket,
    CallResult.bind_of_ok hregion, CallResult.bind_of_ok hroot, CallResult.bind_of_ok hendpoint,
    CallResult.bind_of_ok haccessKeyId, CallResult.bind_of_ok hsecretAccessKey,
    CallResult.bind_of_ok hsessionToken, CallResult.bind_of_ok hroleArn,
    CallResult.bind_of_ok hexternalId, CallResult.bind_of_ok hroleSessionName, hkey, hsecret,
    hrole, htoken, hexternal, hsession, hkind, hsourceKind, present_normalizeOptionalText,
    present_normalizeOptionalText, s3Carrier, hbits, hflags]
  rfl

end Fill

/-! ## The contract -/

theorem texts_policy_source (source : S3CredentialSource) :
    source.policy.texts = source.texts.map (·.text) := by
  cases source with
  | defaultChain disable => rfl
  | staticCredentials accessKeyId secretAccessKey token => cases token <;> rfl

theorem texts_policy_auth (auth : S3Auth) : auth.policy.texts = auth.texts.map (·.text) := by
  cases auth with
  | credentials source => exact texts_policy_source source
  | unsigned => rfl
  | assumeRole roleArn source externalId roleSessionName durationSeconds =>
    dsimp only [S3Auth.policy, S3Auth.texts, ParsedS3Auth.texts]
    rw [texts_policy_source, List.map_cons, List.map_append, List.map_append, Option.toList_map,
      Option.toList_map]

theorem texts_policy (config : S3Config) : config.policy.texts = config.texts.map (·.text) := by
  unfold S3Config.policy S3Config.texts ParsedS3Options.texts
  rw [texts_policy_auth, List.map_cons, List.map_cons, List.map_append, List.map_append,
    Option.toList_map, Option.toList_map]

/-- A well-formed text that is not empty can be in a carrier. -/
theorem carried_text {text : MoonString} (hformed : wellFormed text.units = true)
    (hnonempty : text.units ≠ []) : Carried text.text := by
  refine ⟨?_, utf8ByteSize_text_le hformed⟩
  rw [← Bool.not_eq_true, String.isEmpty_iff]
  intro hempty
  apply hnonempty
  have hunits := Text.utf16_text ⟨text, hformed⟩
  rw [hempty] at hunits
  exact hunits.symm

/-- What the library reads of the carrier that the stub fills. -/
def S3Config.crossed (malloc : Nat → Bool) (config : S3Config) : CallResult ParsedS3Options :=
  operatorS3Options malloc config.arguments >>= fun carrier => parseS3Options (.valid carrier)

theorem crossed_eq {malloc : Nat → Bool} (hmemory : ∀ n, malloc n = true) {config : S3Config}
    (hformed : ∀ text ∈ config.texts, wellFormed text.units = true)
    (hnonempty : ∀ text ∈ config.texts, text.units ≠ []) :
    config.crossed malloc = (readAuth config.auth.policy).map fun _ => config.policy := by
  have hcarried : ∀ text ∈ config.policy.texts, Carried text := by
    intro text htext
    rw [texts_policy] at htext
    obtain ⟨source, hsource, rfl⟩ := List.mem_map.mp htext
    exact carried_text (hformed source hsource) (hnonempty source hsource)
  rw [S3Config.crossed, CallResult.bind_of_ok (operatorS3Options_eq hmemory config hformed)]
  exact parseS3Options_s3Carrier hcarried

structure S3PolicyContract : Prop where
  roundTrip : ∀ (malloc : Nat → Bool) (bucket region : MoonString)
    (root endpoint : Option MoonString) (auth : Option S3Auth) (virtualHostStyle : Bool)
    (config : S3Config), (∀ n, malloc n = true) → (∀ policy ∈ auth, policy.Built) →
    operatorS3 bucket region root endpoint auth virtualHostStyle = .ok config →
    (∀ text ∈ config.texts, wellFormed text.units = true) →
    config = ⟨bucket, region, root, endpoint, auth.getD .ofDefaultChain, virtualHostStyle⟩ ∧
    config.crossed malloc =
      if config.auth.policy.durationSeconds = some 0 then
        .error (invalidArgument "S3 assume-role duration_seconds must be positive")
      else .ok config.policy
  unmixed : ∀ (input : S3OptionsV1) (options : ParsedS3Options),
    parseS3Options (.valid input) = .ok options → input.Unmixed
  ambient : ∀ options : ParsedS3Options, (buildS3Builder options).Ambient options.auth.source

theorem s3Policy : S3PolicyContract where
  roundTrip := by
    intro malloc bucket region root endpoint auth virtualHostStyle config hmemory hauth hconfig
      hformed
    refine ⟨operatorS3_eq hconfig, ?_⟩
    rw [crossed_eq hmemory hformed (nonempty_operatorS3 hauth hconfig), readAuth]
    split_ifs with hzero
    · rfl
    · rfl
  unmixed := fun _ _ => unmixed_of_parseS3Options
  ambient := ambient_buildS3Builder

/-- A role over static keys without a token, for an hour. -/
def roleOverKeys : S3Auth :=
  .assumeRole versionText.toMoonString
    (.staticCredentials versionText.toMoonString versionText.toMoonString none)
    (some versionText.toMoonString) none (some 3600)

theorem built_roleOverKeys : roleOverKeys.Built := by
  have hsource : S3CredentialSource.ofStaticCredentials versionText.toMoonString
      versionText.toMoonString none = .ok (.staticCredentials versionText.toMoonString
        versionText.toMoonString none) := rfl
  have hrole : S3Auth.ofAssumeRole versionText.toMoonString
      (some (.staticCredentials versionText.toMoonString versionText.toMoonString none))
      (some versionText.toMoonString) none (some 3600) = .ok roleOverKeys := rfl
  apply S3Auth.Built.assumeRole _ hrole
  intro source h
  cases h
  exact .staticCredentials hsource

def roleConfig : S3Config where
  bucket := versionText.toMoonString
  region := versionText.toMoonString
  root := none
  endpoint := none
  auth := roleOverKeys
  virtualHostStyle := true

theorem s3Policy_roleOverKeys :
    roleConfig.crossed (fun _ => true) = .ok roleConfig.policy :=
  (s3Policy.roundTrip (fun _ => true) versionText.toMoonString versionText.toMoonString none none
    (some roleOverKeys) true roleConfig (fun _ => rfl)
    (by
      intro policy h
      cases h
      exact built_roleOverKeys)
    rfl (by decide)).2

end OpendalMbt.NativePackage
