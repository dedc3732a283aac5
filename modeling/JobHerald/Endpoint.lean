import JobHerald.Action
import JobHerald.Json.Printer

/-!
# Posting to endpoints

A value is posted once, as JSON, to an endpoint of any kind.

## Main definitions

* `Endpoint.headers` — the headers that all such posts have.
* `Endpoint.post` — the posting of a value.
-/

namespace JobHerald.Endpoint

/-- The headers of a post. -/
def headers (userAgent : String) : List (String × String) :=
  [("Content-Type", "application/json"), ("User-Agent", userAgent)]

/-- The posting of a value, once; the response is returned whatever its status. -/
def post (url : String) (payload : Json) (timeout : Option Int) : Action Response := do
  let settings ← Action.settings
  let body ← Action.body payload
  let response ← Action.send
    ⟨.general, url, body, headers settings.delivery.userAgent,
      timeout.getD settings.delivery.timeout⟩
  Action.info "webhook_posted" [("status_code", .int response.status)]
  return response

end JobHerald.Endpoint
