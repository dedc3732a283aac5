import JobHerald.Mail.Token

/-!
# The templated email service

An email is a template with values for one address; a bulk job sends one template to
many addresses, as rows under a header row.

## Main definitions

* `Mail.authorization` — the header that names the account.
* `Mail.post` — a post to the service.
* `Mail.sendEmail`, `Mail.sendBulk` — one email, and a bulk job.
* `Mail.rows` — the rows of a bulk job.
-/

namespace JobHerald.Mail

/-! ### Posts -/

/-- The header that names the account of the settings. -/
def authorization : Action (String × String) := do
  let notify := (← Action.settings).notify
  match notify.clientId.filter (· ≠ ""), notify.clientSecret.filter (· ≠ "") with
  | none, _ => Token.refuse "authorization_header_creation_failed" .clientSetting
  | _, none => Token.refuse "authorization_header_creation_failed" .secretSetting
  | some client, some secret =>
      let token ← Token.issue (.str secret) (.str client)
      return ("Authorization", "Bearer " ++ token)

/-- A post to the service, once. -/
def post (url : String) (payload : Json) (timeout : Option Int) : Action Response := do
  let settings ← Action.settings
  let header ← authorization
  let body ← Action.body payload
  Action.send
    ⟨.general, url, body,
      [header, ("Content-Type", "application/json"),
        ("User-Agent", settings.delivery.userAgent)],
      timeout.getD settings.delivery.timeout⟩

/-- The address of an endpoint of the service. -/
def address (s : Settings) (endpoint : String) : String :=
  Text.trimEnd (· = '/') s.notify.apiUrl ++ endpoint

/-! ### Emails -/

/-- The endpoint for one email. -/
def emailEndpoint : String := "/v2/notifications/email"

/-- The endpoint for bulk jobs. -/
def bulkEndpoint : String := "/v2/notifications/bulk"

/-- The body of one email. -/
def emailPayload (receiver template : String) (values : Fields) : Json :=
  .obj [("email_address", .str receiver), ("template_id", .str template),
    ("personalisation", .obj values)]

/-- One email. -/
def sendEmail (receiver template : String) (values : Fields) : Action Response := do
  let settings ← Action.settings
  let response ← post (address settings emailEndpoint) (emailPayload receiver template values) none
  Action.info "notify_email_posted"
    [("template_id", .str template), ("response_code", .int response.status)]
  return response

/-! ### Bulk jobs -/

/-- The header row: the column of addresses, and one for each value. -/
def headerRow (values : Fields) : List Json := .str "email address" :: values.names.map .str

/-- The row of an address; every row has the same values. -/
def addressRow (values : Fields) (address : String) : List Json :=
  .str address :: values.map (·.2)

/-- The rows of a bulk job. -/
def rows (addresses : List String) (values : Fields) : List (List Json) :=
  headerRow values :: addresses.map (addressRow values)

/-- The body of a bulk job. -/
def bulkPayload (name template : String) (addresses : List String) (values : Fields) : Json :=
  .obj [("name", .str name), ("template_id", .str template),
    ("rows", .arr ((rows addresses values).map .arr))]

/-- A bulk job. -/
def sendBulk (name template : String) (addresses : List String) (values : Fields) :
    Action Response := do
  let settings ← Action.settings
  let response ←
    post (address settings bulkEndpoint) (bulkPayload name template addresses values) none
  Action.info "notify_bulk_email_posted"
    [("template_id", .str template), ("recipients", .int addresses.length),
      ("response_code", .int response.status)]
  return response

end JobHerald.Mail
