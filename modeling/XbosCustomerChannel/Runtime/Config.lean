import XbosCustomerChannel.Data.Traversal
import XbosCustomerChannel.Transports.Inbound

/-!
# Configuration from the environment

`RuntimeConfig.from_environment`: five variables for Meta and the base URL of XBOS. What is refused is
refused by a `ValueError`, which is what the application looks out for.
-/

namespace XbosCustomerChannel

open Data Data.Traversal

/-- `os.environ`, or the mapping that is given for it. -/
abbrev Environment := String → Option String

namespace MetaWhatsAppConfig

/-- `__init__` and `__post_init__`. -/
def create (graphApiVersion phoneNumberId appSecret verificationToken accessToken : String) :
    Except Exc MetaWhatsAppConfig :=
  if hversion : (Text.afterPrefix "v" graphApiVersion).isSome then
    if hgiven : phoneNumberId ≠ "" ∧ appSecret ≠ "" ∧ verificationToken ≠ "" ∧ accessToken ≠ "" then
      .ok
        { graphApiVersion
          phoneNumberId
          appSecret
          verificationToken
          accessToken
          versioned := by
            obtain ⟨rest, hrest⟩ := Option.isSome_iff_exists.mp hversion
            exact ⟨rest, Text.afterPrefix_eq_some.mp hrest⟩
          given := hgiven }
    else .error ⟨.valueError, "meta_whatsapp_secret_configuration_required"⟩
  else .error ⟨.valueError, "graph_api_version_required"⟩

/-- `source[key]`, whose `KeyError` becomes a `ValueError` that names the variable. -/
def required (environ : Environment) (key : String) : Except Exc String :=
  match environ key with
  | some value => .ok value
  | none => .error ⟨.valueError, "missing_meta_whatsapp_configuration:" ++ key⟩

def fromEnvironment (environ : Environment) : Except Exc MetaWhatsAppConfig := do
  let graphApiVersion ← MetaWhatsAppConfig.required environ "META_WHATSAPP_GRAPH_API_VERSION"
  let phoneNumberId ← MetaWhatsAppConfig.required environ "META_WHATSAPP_PHONE_NUMBER_ID"
  let appSecret ← MetaWhatsAppConfig.required environ "META_WHATSAPP_APP_SECRET"
  let verificationToken ← MetaWhatsAppConfig.required environ "META_WHATSAPP_VERIFY_TOKEN"
  let accessToken ← MetaWhatsAppConfig.required environ "META_WHATSAPP_ACCESS_TOKEN"
  create graphApiVersion phoneNumberId appSecret verificationToken accessToken

end MetaWhatsAppConfig

structure RuntimeConfig where
  metaConfig : MetaWhatsAppConfig
  xbosPrivateBaseUrl : String

namespace RuntimeConfig

/-- `url.startswith(("http://", "https://"))`. -/
def hasHttpScheme (url : List Char) : Bool :=
  "http://".toList.isPrefixOf url || "https://".toList.isPrefixOf url

def fromEnvironment (environ : Environment) : Except Exc RuntimeConfig := do
  let config ← MetaWhatsAppConfig.fromEnvironment environ
  match environ "XAFPAY_CUSTOMER_CHANNEL_XBOS_PRIVATE_BASE_URL" with
  | none => .error ⟨.valueError, "missing_customer_channel_configuration:" ++
      "XAFPAY_CUSTOMER_CHANNEL_XBOS_PRIVATE_BASE_URL"⟩
  | some url =>
      let xbosBaseUrl := Text.strip url.toList
      if xbosBaseUrl = [] ∨ ¬ hasHttpScheme xbosBaseUrl then
        .error ⟨.valueError, "invalid_customer_channel_xbos_private_base_url"⟩
      else
        pure
          { metaConfig := config
            xbosPrivateBaseUrl := String.ofList (Text.rstrip '/' xbosBaseUrl) }

end RuntimeConfig

/-! ## What is accepted -/

theorem MetaWhatsAppConfig.required_ok {environ : Environment} {key value : String} :
    MetaWhatsAppConfig.required environ key = .ok value ↔ environ key = some value := by
  unfold MetaWhatsAppConfig.required
  cases environ key with
  | none => simp
  | some found => simp

theorem MetaWhatsAppConfig.create_ok {graphApiVersion phoneNumberId appSecret verificationToken
    accessToken : String} {config : MetaWhatsAppConfig} :
    create graphApiVersion phoneNumberId appSecret verificationToken accessToken = .ok config ↔
      graphApiVersion = config.graphApiVersion ∧ phoneNumberId = config.phoneNumberId ∧
        appSecret = config.appSecret ∧ verificationToken = config.verificationToken ∧
          accessToken = config.accessToken := by
  constructor
  · intro h
    unfold create at h
    split at h
    · split at h
      · obtain rfl := Except.ok.inj h
        exact ⟨rfl, rfl, rfl, rfl, rfl⟩
      · cases h
    · cases h
  · rintro ⟨rfl, rfl, rfl, rfl, rfl⟩
    have hversion : (Text.afterPrefix "v" config.graphApiVersion).isSome := by
      obtain ⟨rest, hrest⟩ := config.versioned
      rw [hrest, Text.afterPrefix_append]
      rfl
    unfold create
    rw [dif_pos hversion, dif_pos config.given]

/-- The variables that a configuration was read from. -/
structure Configured (environ : Environment) (config : RuntimeConfig) : Prop where
  graphApiVersion : environ "META_WHATSAPP_GRAPH_API_VERSION" = some config.metaConfig.graphApiVersion
  phoneNumberId : environ "META_WHATSAPP_PHONE_NUMBER_ID" = some config.metaConfig.phoneNumberId
  appSecret : environ "META_WHATSAPP_APP_SECRET" = some config.metaConfig.appSecret
  verificationToken : environ "META_WHATSAPP_VERIFY_TOKEN" = some config.metaConfig.verificationToken
  accessToken : environ "META_WHATSAPP_ACCESS_TOKEN" = some config.metaConfig.accessToken
  baseUrl : ∃ url, environ "XAFPAY_CUSTOMER_CHANNEL_XBOS_PRIVATE_BASE_URL" = some url ∧
    RuntimeConfig.hasHttpScheme (Text.strip url.toList) = true ∧
      config.xbosPrivateBaseUrl = String.ofList (Text.rstrip '/' (Text.strip url.toList))

theorem MetaWhatsAppConfig.fromEnvironment_ok {environ : Environment} {config : MetaWhatsAppConfig} :
    fromEnvironment environ = .ok config ↔
      environ "META_WHATSAPP_GRAPH_API_VERSION" = some config.graphApiVersion ∧
        environ "META_WHATSAPP_PHONE_NUMBER_ID" = some config.phoneNumberId ∧
          environ "META_WHATSAPP_APP_SECRET" = some config.appSecret ∧
            environ "META_WHATSAPP_VERIFY_TOKEN" = some config.verificationToken ∧
              environ "META_WHATSAPP_ACCESS_TOKEN" = some config.accessToken := by
  unfold fromEnvironment
  simp only [bind_eq_ok, required_ok, create_ok]
  constructor
  · rintro ⟨_, hversion, _, hphone, _, hsecret, _, htoken, _, haccess, rfl, rfl, rfl, rfl, rfl⟩
    exact ⟨hversion, hphone, hsecret, htoken, haccess⟩
  · rintro ⟨hversion, hphone, hsecret, htoken, haccess⟩
    exact ⟨_, hversion, _, hphone, _, hsecret, _, htoken, _, haccess, rfl, rfl, rfl, rfl, rfl⟩

theorem RuntimeConfig.fromEnvironment_ok {environ : Environment} {config : RuntimeConfig} :
    fromEnvironment environ = .ok config ↔ Configured environ config := by
  unfold fromEnvironment
  simp only [bind_eq_ok, MetaWhatsAppConfig.fromEnvironment_ok]
  constructor
  · rintro ⟨read, ⟨hversion, hphone, hsecret, htoken, haccess⟩, h⟩
    split at h
    · cases h
    · next url hurl =>
      split at h
      · cases h
      · next haccepted =>
        obtain rfl := Except.ok.inj h
        rw [not_or, not_not] at haccepted
        exact ⟨hversion, hphone, hsecret, htoken, haccess, url, hurl, haccepted.2, rfl⟩
  · rintro ⟨hversion, hphone, hsecret, htoken, haccess, url, hurl, hscheme, hbase⟩
    refine ⟨config.metaConfig, ⟨hversion, hphone, hsecret, htoken, haccess⟩, ?_⟩
    have hne : Text.strip url.toList ≠ [] := by
      intro hempty
      rw [hempty] at hscheme
      cases hscheme
    rw [hurl]
    dsimp only
    rw [if_neg (by simp [hne, hscheme]), ← hbase]
    rfl

/-- Nothing else than a `ValueError` is raised. -/
theorem RuntimeConfig.fromEnvironment_error {environ : Environment} {e : Exc}
    (h : fromEnvironment environ = .error e) : e.cls = .valueError := by
  have hrequired {key : String} {e : Exc}
      (h : MetaWhatsAppConfig.required environ key = .error e) : e.cls = .valueError := by
    unfold MetaWhatsAppConfig.required at h
    split at h
    · cases h
    · obtain rfl := Except.error.inj h
      rfl
  rcases bind_eq_error.mp h with hmeta | ⟨config, -, h⟩
  · unfold MetaWhatsAppConfig.fromEnvironment at hmeta
    simp only [bind_eq_error] at hmeta
    rcases hmeta with h | ⟨_, -, h | ⟨_, -, h | ⟨_, -, h | ⟨_, -, h | ⟨_, -, h⟩⟩⟩⟩⟩
    · exact hrequired h
    · exact hrequired h
    · exact hrequired h
    · exact hrequired h
    · exact hrequired h
    · unfold MetaWhatsAppConfig.create at h
      split at h
      · split at h
        · cases h
        · obtain rfl := Except.error.inj h
          rfl
      · obtain rfl := Except.error.inj h
        rfl
  · split at h
    · obtain rfl := Except.error.inj h
      rfl
    · dsimp only at h
      split at h
      · obtain rfl := Except.error.inj h
        rfl
      · cases h

end XbosCustomerChannel
