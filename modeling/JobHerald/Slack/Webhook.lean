import JobHerald.Action
import JobHerald.Json.Printer
import JobHerald.Text.Blank
import JobHerald.Text.Casing
import JobHerald.Text.Slice

/-!
# Posting chat messages

A message is posted once to the address of a webhook.  The address must have a
scheme, and one that the client allows.

## Main definitions

* `Slack.Address` — an address as the client takes it apart.
* `Slack.body` — the body of a message.
* `Slack.post` — the posting of a message.
-/

namespace JobHerald.Slack

/-! ### Addresses -/

/-- An address without the marks that may surround it: blanks, angle brackets, and
a label in front. -/
def unwrapped (url : String) : String :=
  let s := Text.trim Text.isSpacing url
  let cs := s.toList
  let s :=
    if cs.head? = some '<' ∧ cs.getLast? = some '>' then
      Text.trim Text.isSpacing (String.ofList (cs.drop 1).dropLast)
    else s
  if Text.startsWith s "URL:" then Text.trim Text.isSpacing (String.ofList (s.toList.drop 4)) else s

/-- The part of an address before its last number sign, and the part after it. -/
def fragment (s : String) : String × Option String :=
  match Text.cutAt '#' s.toList.reverse with
  | some (tail, front) => (String.ofList front.reverse, some (String.ofList tail.reverse))
  | none => (s, none)

/-- An address in normal form: an empty part after the last number sign is dropped
with the sign. -/
def normalAddress (url : String) : String :=
  match fragment (unwrapped url) with
  | (front, some tail) => if tail = "" then front else front ++ "#" ++ tail
  | (front, none) => front

/-- Whether an address begins with a scheme. -/
def hasScheme (url : String) : Bool :=
  let cs := (fragment (unwrapped url)).1.toList
  let scheme := cs.takeWhile fun c => c ≠ '/' && c ≠ ':'
  !scheme.isEmpty && (cs.drop scheme.length).head? == some ':'

/-- Whether the client allows an address. -/
def isAllowed (url : String) : Bool := Text.startsWith (Text.lower url) "http"

/-- What is wrong with an address. -/
def addressFault? (url : String) : Option Failure :=
  if !hasScheme url then some (.unknownScheme (normalAddress url))
  else if !isAllowed url then some (.refusedAddress url)
  else none

/-! ### Posting -/

/-- The body of a message: members that are null are left out, and a message without
members is null. -/
def body (payload : Fields) : String :=
  if payload.isEmpty then Json.null.spaced
  else (Json.obj (payload.filter fun (_, v) => !v.isNull)).spaced

/-- The headers of a message. -/
def headers : List (String × String) := [("Content-Type", "application/json;charset=utf-8")]

/-- A bad status met when opening the address is a response with the body that came with it. -/
def asResponse : Failure → Action Response
  | .badStatus status _ body => pure ⟨status, body⟩
  | e => .fail e

/-- The posting of a message, once. -/
def post (url : String) (payload : Fields) (timeout : Option Int) : Action Response := do
  let settings ← Action.settings
  match addressFault? url with
  | some e => .fail e
  | none =>
      let request : Request :=
        ⟨.messages, normalAddress url, body payload, headers,
          timeout.getD settings.slack.timeout⟩
      let response ← (Action.send request).handle asResponse
      Action.info "slack_webhook_posted" [("status_code", .int response.status)]
      return response

end JobHerald.Slack
