import JobHerald.Json.Parser
import JobHerald.Settings.DotEnv
import JobHerald.Validation.Record

/-!
# Settings

Settings come in sections.  Each setting is a variable with a name; its value is
taken from the arguments of the call, else from the environment, else from the
settings file, else it is the default.  A section with an unusable value is
rejected as a whole.

## Main definitions

* `SlackSettings`, `NotifySettings`, `DeliverySettings`, `WebAppSettings` — the sections.
* `Settings` — the sections together with the deployment's own settings.
* `Settings.Fault` — why settings cannot be loaded.
* `Settings.load` — the settings of an environment and a settings file.
-/

namespace JobHerald

/-! ### Sections -/

/-- How chat webhooks are called. -/
structure SlackSettings where
  /-- Seconds until a post is given up. -/
  timeout : Int
  /-- The host of genuine chat webhooks. -/
  host : String
  deriving DecidableEq, Repr

/-- The templated email service. -/
structure NotifySettings where
  /-- The address of the service. -/
  apiUrl : String
  /-- The account. -/
  clientId : Option String
  /-- The account's secret. -/
  clientSecret : Option String
  /-- The template for failed jobs. -/
  jobFailureTemplate : String
  /-- The template for successful jobs. -/
  jobSuccessTemplate : String
  /-- The template for disabled connections. -/
  disabledTemplate : String
  /-- The template for connections about to be disabled. -/
  disableWarningTemplate : String
  /-- The template for schema changes. -/
  schemaTemplate : String
  /-- The template for breaking changes to come. -/
  breakingWarningTemplate : String
  /-- The template for syncs disabled by a breaking change. -/
  breakingDisabledTemplate : String
  deriving DecidableEq, Repr

/-- What all deliveries share. -/
structure DeliverySettings where
  /-- Seconds until a request is given up. -/
  timeout : Int
  /-- The name that requests carry. -/
  userAgent : String
  /-- The most characters of a failure reason in a message. -/
  maxErrorLength : Int
  deriving DecidableEq, Repr

/-- Where the web application is. -/
structure WebAppSettings where
  /-- The base of its addresses. -/
  url : String
  deriving DecidableEq, Repr

/-- All settings. -/
structure Settings where
  /-- The name of the deployment; empty in production. -/
  stage : String
  /-- The least level of log entries. -/
  logLevel : String
  /-- The deployed revision. -/
  revision : String
  /-- How chat webhooks are called. -/
  slack : SlackSettings
  /-- The templated email service. -/
  notify : NotifySettings
  /-- What all deliveries share. -/
  delivery : DeliverySettings
  /-- Where the web application is. -/
  webApp : WebAppSettings
  deriving DecidableEq, Repr

/-- Whether this is the production deployment. -/
def Settings.isProduction (s : Settings) : Bool := s.stage == ""

/-! ### Reading sections -/

/-- The variables a section is read from: those given first count. -/
def Environment.toFields (env : Environment) : Fields := env.map fun (k, v) => (k, .str v)

/-- A section read from variables, or its issues. -/
def readSection {α : Type} (name : String) (r : Fields → Checked α) (values : Fields) :
    Except Rejection α :=
  match r values with
  | .valid a => .ok a
  | .invalid issues => .error ⟨name, issues⟩

/-- The section for chat webhooks. -/
def SlackSettings.read (fs : Fields) : Checked SlackSettings :=
  SlackSettings.mk
    <$> Read.optional "SLACK_WEBHOOK_TIMEOUT_SECONDS" Read.integer 30 fs
    <*> Read.optional "SLACK_WEBHOOK_HOST" Read.text "hooks.slack.com" fs

/-- The section for templated email. -/
def NotifySettings.read (fs : Fields) : Checked NotifySettings :=
  NotifySettings.mk
    <$> Read.optional "NOTIFY_API_URL" Read.text "" fs
    <*> Read.optional "NOTIFY_CLIENT_ID" (Read.nullable Read.text) none fs
    <*> Read.optional "NOTIFY_CLIENT_SECRET" (Read.nullable Read.text) none fs
    <*> Read.optional "NOTIFY_JOB_FAILURE_TEMPLATE_ID" Read.text "" fs
    <*> Read.optional "NOTIFY_JOB_SUCCESS_TEMPLATE_ID" Read.text "" fs
    <*> Read.optional "NOTIFY_CONNECTION_DISABLED_TEMPLATE_ID" Read.text "" fs
    <*> Read.optional "NOTIFY_CONNECTION_DISABLE_WARNING_TEMPLATE_ID" Read.text "" fs
    <*> Read.optional "NOTIFY_SCHEMA_PROPAGATED_TEMPLATE_ID" Read.text "" fs
    <*> Read.optional "NOTIFY_BREAKING_CHANGE_WARNING_TEMPLATE_ID" Read.text "" fs
    <*> Read.optional "NOTIFY_BREAKING_CHANGE_SYNCS_DISABLED_TEMPLATE_ID" Read.text "" fs

/-- The section that all deliveries share. -/
def DeliverySettings.read (fs : Fields) : Checked DeliverySettings :=
  DeliverySettings.mk
    <$> Read.optional "NOTIFICATION_HTTP_TIMEOUT_SECONDS" Read.integer 10 fs
    <*> Read.optional "NOTIFICATION_USER_AGENT" Read.text "job-notifications/1.0" fs
    <*> Read.optional "NOTIFICATION_MAX_ERROR_LENGTH" Read.integer 2500 fs

/-- The section of the web application. -/
def WebAppSettings.read (fs : Fields) : Checked WebAppSettings :=
  WebAppSettings.mk <$> Read.optional "WEBAPP_URL" Read.text "http://localhost:8000/" fs

/-! ### Loading -/

/-- The arguments given for a section. -/
def givenFor (section' : String) (given : Fields) : Fields :=
  ((Fields.get? section' given).bind Json.obj?).getD []

/-- The sections by name, each read from its variables. -/
def loadSlack (values : Fields) : Except Rejection SlackSettings :=
  readSection "SlackSettings" SlackSettings.read values

/-- The section for templated email, or its issues. -/
def loadNotify (values : Fields) : Except Rejection NotifySettings :=
  readSection "NotifySettings" NotifySettings.read values

/-- The section that all deliveries share, or its issues. -/
def loadDelivery (values : Fields) : Except Rejection DeliverySettings :=
  readSection "NotificationSettings" DeliverySettings.read values

/-- The section of the web application, or its issues. -/
def loadWebApp (values : Fields) : Except Rejection WebAppSettings :=
  readSection "WebAppSettings" WebAppSettings.read values

/-- The check of one section that is given as an argument. -/
def checkGiven (outer : Fields) : String × Json → Except Rejection Unit
  | ("slack", .obj args) => (loadSlack (args ++ outer)).map fun _ => ()
  | ("notify", .obj args) => (loadNotify (args ++ outer)).map fun _ => ()
  | ("notifications", .obj args) => (loadDelivery (args ++ outer)).map fun _ => ()
  | ("webapp", .obj args) => (loadWebApp (args ++ outer)).map fun _ => ()
  | _ => .ok ()

/-- Where the values of settings come from. -/
inductive Settings.Source where
  /-- The variables of the process. -/
  | environment
  /-- The settings file. -/
  | file
  deriving DecidableEq, Repr

/-- Why settings cannot be loaded. -/
inductive Settings.Fault where
  /-- A section has unusable values. -/
  | rejected (r : Rejection)
  /-- A variable has the name of a section, and does not write a value. -/
  | unreadable (section' : String) (source : Settings.Source)
  /-- A variable has the name of a section, and lists or objects in it are nested too
  deep. -/
  | tooDeep (container : String)
  deriving Repr

/-- The names of the sections, in order. -/
def Settings.sections : List String := ["slack", "notify", "notifications", "webapp"]

/-- Each variable with the name of a section has to write a value, though the value is
not used: the sections have variables of their own. -/
def Settings.checkSections (source : Settings.Source) (env : Environment) :
    Except Settings.Fault Unit :=
  Settings.sections.forM fun name =>
    match (env.get? name).map Json.ofText with
    | none | some (.ok _) => .ok ()
    | some (.error .deepList) => .error (.tooDeep "array")
    | some (.error .deepObject) => .error (.tooDeep "object")
    | some (.error _) => .error (.unreadable name source)

/-- The settings of an environment and a settings file, with further arguments for
sections and for single settings.  Sections that are given are read first, in the
order in which they are given. -/
def Settings.load (given : Fields) (env file : Environment) :
    Except Settings.Fault Settings := do
  let outer := env.toFields ++ file.toFields
  (given.forM (checkGiven outer)).mapError .rejected
  let slack ← (loadSlack (givenFor "slack" given ++ outer)).mapError .rejected
  let notify ← (loadNotify (givenFor "notify" given ++ outer)).mapError .rejected
  let delivery ← (loadDelivery (givenFor "notifications" given ++ outer)).mapError .rejected
  let webApp ← (loadWebApp (givenFor "webapp" given ++ outer)).mapError .rejected
  Settings.checkSections .environment env
  Settings.checkSections .file file
  (readSection "Settings"
    (fun fs =>
      (fun stage level revision => ⟨stage, level, revision, slack, notify, delivery, webApp⟩)
        <$> Read.optional "PREFIX" Read.text "" fs
        <*> Read.optional "LOG_LEVEL" Read.text "INFO" fs
        <*> Read.optional "GIT_SHA" Read.text "Unknown" fs)
    (given ++ outer)).mapError .rejected

/-- The settings of an environment and the text of a settings file. -/
def Settings.ofEnvironment (env : Environment) (file : String) :
    Except Settings.Fault Settings :=
  Settings.load [] env (DotEnv.parse env file).toEnvironment

/-! ### View -/

namespace Settings

/-- The settings by section, and whether this is the production deployment. -/
def toJson (s : Settings) : Json :=
  .obj
    [("PREFIX", .str s.stage), ("LOG_LEVEL", .str s.logLevel), ("GIT_SHA", .str s.revision),
      ("slack", .obj
        [("SLACK_WEBHOOK_TIMEOUT_SECONDS", .int s.slack.timeout),
          ("SLACK_WEBHOOK_HOST", .str s.slack.host)]),
      ("notify", .obj
        [("NOTIFY_API_URL", .str s.notify.apiUrl),
          ("NOTIFY_CLIENT_ID", .ofOption s.notify.clientId),
          ("NOTIFY_CLIENT_SECRET", .ofOption s.notify.clientSecret),
          ("NOTIFY_JOB_FAILURE_TEMPLATE_ID", .str s.notify.jobFailureTemplate),
          ("NOTIFY_JOB_SUCCESS_TEMPLATE_ID", .str s.notify.jobSuccessTemplate),
          ("NOTIFY_CONNECTION_DISABLED_TEMPLATE_ID", .str s.notify.disabledTemplate),
          ("NOTIFY_CONNECTION_DISABLE_WARNING_TEMPLATE_ID", .str s.notify.disableWarningTemplate),
          ("NOTIFY_SCHEMA_PROPAGATED_TEMPLATE_ID", .str s.notify.schemaTemplate),
          ("NOTIFY_BREAKING_CHANGE_WARNING_TEMPLATE_ID", .str s.notify.breakingWarningTemplate),
          ("NOTIFY_BREAKING_CHANGE_SYNCS_DISABLED_TEMPLATE_ID",
            .str s.notify.breakingDisabledTemplate)]),
      ("notifications", .obj
        [("http_timeout_seconds", .int s.delivery.timeout),
          ("user_agent", .str s.delivery.userAgent),
          ("max_error_length", .int s.delivery.maxErrorLength)]),
      ("webapp", .obj [("WEBAPP_URL", .str s.webApp.url)]),
      ("is_production", .bool s.isProduction)]

end Settings

end JobHerald
