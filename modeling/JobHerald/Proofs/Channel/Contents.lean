import JobHerald.Channel.Factory
import JobHerald.Proofs.Channel.Verdict
import JobHerald.Proofs.Json.Printing

/-!
# What is posted

The body of a request is the printed form of a payload: whatever characters the names, reasons and
summaries in it consist of, the body is ASCII, and who reads it gets back what the channel has made
of the notice, member by member.  There is one request at most, and there is one if the notice has
been delivered.

## Main definitions

* `Request.Carries` — requests that carry a payload.
* `Posted` — what comes of an announcement.
* `Slack.Target.Says`, `Endpoint.Target.Says`, `Mail.Account.Says` — the payloads that a channel
  makes of a notice.

## Main results

* `Announced.posts` — an announcement posts what its one request carries.
* `Slack.Target.carries_of_reached`, `Endpoint.Target.carries_of_reached`,
  `Mail.Account.carries_of_reached` — the request of a channel carries the payload about the notice.
* `Channel.posts_payload` — **the request of a channel carries what it makes of the notice.**
-/

namespace JobHerald

open JobHerald.Action

/-! ### Requests and payloads -/

/-- A request whose body is ASCII, and is read as a payload. -/
structure Request.Carries (rq : Request) (payload : Json) : Prop where
  /-- All characters of the body are ASCII. -/
  ascii : Text.IsAscii rq.body.toList
  /-- Who reads the body gets the payload. -/
  read : Json.parse? rq.body = some payload

/-- A printed payload is carried by its request. -/
theorem Request.carries_of_body {rq : Request} {payload : Json} (hexact : payload.IsExact)
    (hlimit : payload.isWithinLimit = true) (h : rq.body = payload.spaced) :
    rq.Carries payload where
  ascii := by
    have hlist : payload.spaced.toList = Json.chars .spaced payload := String.toList_ofList
    rw [h, hlist]
    exact Json.isAscii_chars payload hexact
  read := by
    rw [h]
    exact Json.parse?_spaced hexact hlimit

/-- What comes of an announcement: there was no request, and the notice is not delivered, or there
was one, which carries one of some payloads. -/
inductive Posted (Q : Json → Prop) : Except Failure Json → List Request → Prop
  /-- Nothing was sent. -/
  | unsent {v : Except Failure Json} (h : v ≠ .ok delivered) : Posted Q v []
  /-- One of the payloads was sent. -/
  | sent (v : Except Failure Json) {rq : Request} {payload : Json} (hpayload : Q payload)
      (h : rq.Carries payload) : Posted Q v [rq]

/-- An announcement that makes one request at most has posted what the request carries, whatever it
says of the answer. -/
theorem Announced.posts {kind : ChannelKind} {c : Course}
    {Reached : Except Failure Response → List Request → Prop} {s : Surroundings} {w : World}
    {Q : Json → Prop} {v : Except Failure Json} {rqs : List Request}
    (honce : ∀ {r rqs}, Reached r rqs → AsksOnce kind s w r rqs)
    (hcarries : ∀ {r rqs}, Reached r rqs → ∀ rq ∈ rqs, ∃ payload, Q payload ∧ rq.Carries payload)
    (hv : Announced kind c Reached v rqs) : Posted Q v rqs := by
  cases hv with
  | declined _ => exact .unsent (by simp [JobHerald.declined, delivered])
  | failed _ _ => exact .unsent (by simp)
  | posted _ hr =>
    -- whichever request was made on the way carries such a payload
    have hall := hcarries hr
    cases honce hr with
    | unasked _ => exact .unsent (by simp [ChannelKind.verdict])
    | asked rq =>
      obtain ⟨payload, hpayload, hcarried⟩ := hall rq (List.mem_singleton_self rq)
      exact .sent _ hpayload hcarried

/-! ### Payloads of the webhook channel -/

namespace Endpoint.Target

/-- The payload about a notice. -/
inductive Says (n : Notice) : Json → Prop
  /-- It has the text. -/
  | text {text : String} (h : text? n = some (.ok text)) : Says n (.obj [("text", .str text)])

variable {s : Surroundings} {w : World}

/-- The request of the webhook channel carries the text about the notice. -/
theorem carries_of_reached {t : Target} {n : Notice} {r : Except Failure Response}
    {rqs : List Request} (h : t.Reached n s w r rqs) :
    ∀ rq ∈ rqs, ∃ payload, Says n payload ∧ rq.Carries payload := by
  obtain ⟨-, text, htext, rfl⟩ := h
  intro rq hrq
  obtain ⟨agent, patience, rfl⟩ := mem_asks hrq
  have hexact : (Json.obj [("text", .str text)]).IsExact :=
    ⟨by simp [Fields.names], trivial, trivial⟩
  exact ⟨_, .text htext, Request.carries_of_body hexact rfl rfl⟩

theorem posted_deliver (t : Target) (n : Notice) :
    (t.deliver n).Trades s w (Posted (Says n)) :=
  (t.announced_deliver n).mono fun _ _ hv => hv.posts Reached.asksOnce carries_of_reached

end Endpoint.Target

/-! ### Payloads of the email channel -/

namespace Mail

namespace Account

/-- The payload about a notice. -/
inductive Says (a : Account) (n : Notice) : Json → Prop
  /-- One email, to the receiver and with the values of the notice. -/
  | email {receiver : String} {values : Fields}
      (hreceiver : a.receiverFor n.receiver? = some receiver)
      (hvalues : values? n = some (.ok values)) :
      Says a n (.obj [("email_address", .str receiver),
        ("template_id", .str (a.settings.templateFor n.capability)),
        ("personalisation", .obj values)])
  /-- A bulk job, with a row for each receiver of the change. -/
  | bulk {title : String} {change : BreakingChange} (h : bulk? n = some (title, change)) :
      Says a n (.obj [("name", .str (title ++ ": " ++ change.connector)),
        ("template_id", .str (a.settings.templateFor n.capability)),
        ("rows", .arr ((rows (change.receivers.map (·.address)) (bulkValues change)).map .arr))])

theorem isExact_jobValues {summary : EventSummary} {values : Fields}
    (h : jobValues summary = .ok values) : (Json.obj values).IsExact := by
  rw [jobValues] at h
  split at h
  · cases h
  · cases h
    simp [Json.IsExact, Json.MembersExact, Fields.names]

/-- The values of a template are texts and whole numbers under different names, so that nothing of
them is lost when they are printed. -/
theorem isExact_values {n : Notice} {values : Fields} (h : values? n = some (.ok values)) :
    (Json.obj values).IsExact := by
  cases n with
  | jobFailure summary receiver => exact isExact_jobValues (Option.some.inj h)
  | jobSuccess summary receiver => exact isExact_jobValues (Option.some.inj h)
  | connectionDisabled event =>
    cases h
    simp [Json.IsExact, Json.MembersExact, Fields.names, connectionValues,
      Template.connectionValues]
  | connectionDisableWarning event =>
    cases h
    simp [Json.IsExact, Json.MembersExact, Fields.names, connectionValues,
      Template.connectionValues]
  | schemaPropagated summary update =>
    cases h
    simp [Json.IsExact, Json.MembersExact, Fields.names, schemaValues]
  | breakingChangeWarning change => cases h
  | breakingChangeSyncsDisabled change => cases h
  | test message => cases h

/-- The rows of a bulk job consist of texts. -/
theorem itemsExact_rows (addresses : List String) (change : BreakingChange) :
    Json.ItemsExact ((rows addresses (bulkValues change)).map .arr) := by
  have hrow : ∀ address, Json.ItemsExact (addressRow (bulkValues change) address) := fun address =>
    ⟨trivial, trivial, trivial, trivial, trivial, trivial, trivial, trivial⟩
  refine Json.itemsExact_iff.mpr fun v hv => ?_
  rw [rows, List.map_cons, List.map_map, List.mem_cons, List.mem_map] at hv
  rcases hv with rfl | ⟨address, -, rfl⟩
  · exact ⟨trivial, trivial, trivial, trivial, trivial, trivial, trivial, trivial⟩
  · exact hrow address

variable {s : Surroundings} {w : World}

/-- What is posted to the service has nothing but exact values. -/
theorem Payload.isExact {a : Account} {n : Notice} {endpoint : String} {payload : Json}
    (h : a.Payload n endpoint payload) : payload.IsExact := by
  cases h with
  | email _ hvalues =>
    exact ⟨by simp [Fields.names], trivial, trivial, isExact_values hvalues, trivial⟩
  | @bulk title change _ =>
    exact ⟨by simp [Fields.names], trivial, trivial, itemsExact_rows _ change, trivial⟩

/-- What is posted to the service is what the channel says. -/
theorem Payload.says {a : Account} {n : Notice} {endpoint : String} {payload : Json}
    (h : a.Payload n endpoint payload) : a.Says n payload := by
  cases h with
  | email hreceiver hvalues => exact .email hreceiver hvalues
  | bulk h => exact .bulk h

/-- The request of the email channel carries the payload about the notice. -/
theorem carries_of_reached {a : Account} {n : Notice} {r : Except Failure Response}
    {rqs : List Request} (h : a.Reached n s w r rqs) :
    ∀ rq ∈ rqs, ∃ payload, a.Says n payload ∧ rq.Carries payload := by
  obtain ⟨-, endpoint, payload, hpayload, rfl⟩ := h
  intro rq hrq
  obtain ⟨known, header, -, -, hwritten, rfl⟩ := mem_asks hrq
  exact ⟨payload, hpayload.says, Request.carries_of_body hpayload.isExact hwritten rfl⟩

theorem posted_deliver (a : Account) (n : Notice) :
    (a.deliver n).Trades s w (Posted (a.Says n)) :=
  (a.announced_deliver n).mono fun _ _ hv => hv.posts Reached.asksOnce carries_of_reached

end Account

end Mail

/-! ### Payloads of the chat channel -/

namespace Slack

/-- The members of a message that are posted: those that are not null. -/
def kept (payload : Fields) : Fields := payload.filter fun (_, v) => !v.isNull

/-- The message about a finished job has a text and blocks. -/
theorem jobMessage_shape {summary : EventSummary} {text : String} {limit : Option Int}
    {payload : Fields} (h : (jobMessage summary text limit).CanReturn payload) :
    ∃ items, payload = [("text", .str text), ("blocks", .arr items)] := by
  obtain ⟨⟨label, duration⟩, -, h⟩ := canReturn_bind h
  obtain ⟨title, -, h⟩ := canReturn_bind h
  obtain ⟨ends, -, h⟩ := canReturn_bind h
  obtain ⟨reason, -, h⟩ := canReturn_bind h
  obtain ⟨totals, -, h⟩ := canReturn_bind h
  obtain ⟨sum, -, h⟩ := canReturn_bind h
  exact ⟨_, (canReturn_pure h).symm⟩

theorem schemaMessage_shape {summary : String} {update : SchemaUpdate} {payload : Fields}
    (h : (schemaMessage summary update).CanReturn payload) :
    ∃ text items, payload = [("text", .str text), ("blocks", .arr items)] := by
  obtain ⟨title, -, h⟩ := canReturn_bind h
  obtain ⟨ends, -, h⟩ := canReturn_bind h
  obtain ⟨changes, -, h⟩ := canReturn_bind h
  exact ⟨_, _, (canReturn_pure h).symm⟩

namespace Target

/-- The payload that the message about a notice is, in every run. -/
def Renders (t : Target) (n : Notice) (payload : Fields) : Prop :=
  ∃ render, t.message? n = some render ∧ ∀ s w, ∃ w', render s w = (.ok payload, w')

/-- The payload about a notice. -/
inductive Says (t : Target) (n : Notice) : Json → Prop
  /-- It has the text alone. -/
  | plain {text : String} (h : t.Renders n [("text", .str text)]) :
      Says t n (.obj [("text", .str text)])
  /-- It has the text and the blocks. -/
  | blocks {text : String} {blocks : List Block}
      (h : t.Renders n [("text", .str text), ("blocks", .arr (blocks.map Block.toJson))]) :
      Says t n (.obj [("text", .str text), ("blocks", .arr (blocks.map Block.toJson))])

section Messages

variable {t : Target} {n : Notice} {render : Action Fields} {payload : Fields}

/-- A message has a text, and blocks unless it is plain: there is no other member. -/
theorem message_shape (h : t.message? n = some render) (hpayload : render.CanReturn payload) :
    (∃ text, payload = [("text", .str text)]) ∨
      ∃ text items, payload = [("text", .str text), ("blocks", .arr items)] := by
  -- what is told of a job or a schema has blocks
  have hjob : ∀ {template : String} {summary : EventSummary},
      (t.jobPayload template summary).CanReturn payload →
      ∃ text items, payload = [("text", .str text), ("blocks", .arr items)] := by
    intro template summary hjob
    obtain ⟨text, -, hmessage⟩ := canReturn_bind hjob
    exact ⟨text, jobMessage_shape hmessage⟩
  -- what is told of a connection is plain
  have hplain : ∀ {template : String} {event : ConnectionEvent},
      (connectionPayload template event).CanReturn payload →
      ∃ text, payload = [("text", .str text)] := by
    intro template event hconnection
    obtain ⟨text, -, hmessage⟩ := canReturn_bind hconnection
    exact ⟨text, (canReturn_pure hmessage).symm⟩
  cases n with
  | jobFailure summary receiver => cases h; exact .inr (hjob hpayload)
  | jobSuccess summary receiver => cases h; exact .inr (hjob hpayload)
  | connectionDisabled event => cases h; exact .inl (hplain hpayload)
  | connectionDisableWarning event => cases h; exact .inl (hplain hpayload)
  | schemaPropagated summary update => cases h; exact .inr (schemaMessage_shape hpayload)
  | breakingChangeWarning change => cases h
  | breakingChangeSyncsDisabled change => cases h
  | test message => cases h; exact .inl ⟨message, (canReturn_pure hpayload).symm⟩

/-- A message that is made once is made in every run, and is what the channel says. -/
theorem says_of_canReturn (h : t.message? n = some render) (hpayload : render.CanReturn payload) :
    t.Says n (.obj payload) := by
  obtain ⟨r, es, -, hr, hrun⟩ := makes_message h
  -- the payload at hand comes of one run, and all runs come to the same
  have hmade : r = .ok payload := by
    obtain ⟨s, w, w', hreturned⟩ := hpayload
    rw [hrun] at hreturned
    exact congrArg Prod.fst hreturned
  subst hmade
  have hrenders : t.Renders n payload := ⟨render, h, fun s w => ⟨_, hrun s w⟩⟩
  cases hr with
  | made hpossible hlaid =>
    rcases message_shape h hpayload with ⟨text, rfl⟩ | ⟨text, items, rfl⟩
    · exact .plain hrenders
    · obtain ⟨blocks, -, hblocks⟩ := hlaid
      obtain rfl : items = blocks.map Block.toJson := by
        simpa [blocksOf, Fields.get?_cons] using hblocks
      exact .blocks hrenders

end Messages

end Target

theorem isExact_markup (s : String) : (Block.markup s).IsExact := by
  rw [Block.markup]
  split <;> simp [Json.IsExact, Json.MembersExact, Fields.names]

theorem isExact_toJson (b : Block) : b.toJson.IsExact := by
  cases b with
  | text s =>
    exact ⟨by simp [Fields.names], isExact_markup s, trivial, trivial⟩
  | fields texts =>
    refine ⟨by simp [Fields.names], Json.itemsExact_iff.mpr fun v hv => ?_, trivial, trivial⟩
    obtain ⟨text, -, rfl⟩ := List.mem_map.mp hv
    exact isExact_markup text
  | divider => exact ⟨by simp [Fields.names], trivial, trivial⟩

theorem isWithinLimit_markup (s : String) : (Block.markup s).isWithinLimit = true := by
  rw [Block.markup]
  split <;> simp [Json.isWithinLimit, Json.membersWithinLimit]

theorem isWithinLimit_toJson (b : Block) : b.toJson.isWithinLimit = true := by
  cases b with
  | text s => simp [Block.toJson, Json.isWithinLimit, Json.membersWithinLimit, isWithinLimit_markup]
  | fields texts =>
    have htexts : Json.itemsWithinLimit (texts.map Block.markup) = true := by
      refine Json.itemsWithinLimit_iff.mpr fun v hv => ?_
      obtain ⟨text, -, rfl⟩ := List.mem_map.mp hv
      exact isWithinLimit_markup text
    simp [Block.toJson, Json.isWithinLimit, Json.membersWithinLimit, htexts]
  | divider => simp [Block.toJson, Json.isWithinLimit, Json.membersWithinLimit]

namespace Target

/-- Nothing is lost of what the channel says: no member is null, and all are exact. -/
theorem Says.whole {t : Target} {n : Notice} {payload : Fields} (h : t.Says n (.obj payload)) :
    payload ≠ [] ∧ kept payload = payload ∧ (Json.obj payload).IsExact ∧
      (Json.obj payload).isWithinLimit = true := by
  cases h with
  | plain _ =>
    refine ⟨by simp, rfl, ⟨by simp [Fields.names], trivial, trivial⟩, ?_⟩
    simp [Json.isWithinLimit, Json.membersWithinLimit]
  | @blocks text blocks _ =>
    have hexact : Json.ItemsExact (blocks.map Block.toJson) := by
      refine Json.itemsExact_iff.mpr fun v hv => ?_
      obtain ⟨b, -, rfl⟩ := List.mem_map.mp hv
      exact isExact_toJson b
    have hlimit : Json.itemsWithinLimit (blocks.map Block.toJson) = true := by
      refine Json.itemsWithinLimit_iff.mpr fun v hv => ?_
      obtain ⟨b, -, rfl⟩ := List.mem_map.mp hv
      exact isWithinLimit_toJson b
    refine ⟨by simp, rfl, ⟨by simp [Fields.names], trivial, hexact, trivial⟩, ?_⟩
    simp [Json.isWithinLimit, Json.membersWithinLimit, hlimit]

variable {s : Surroundings} {w : World}

/-- The request of the chat channel carries the message about the notice. -/
theorem carries_of_reached {t : Target} {n : Notice} {r : Except Failure Response}
    {rqs : List Request} (h : t.Reached n s w r rqs) :
    ∀ rq ∈ rqs, ∃ payload, t.Says n payload ∧ rq.Carries payload := by
  obtain ⟨-, payload, ⟨render, hmessage, hreturned⟩, rfl⟩ := h
  intro rq hrq
  obtain ⟨patience, rfl⟩ := mem_asks hrq
  have hsays := says_of_canReturn hmessage hreturned
  obtain ⟨hne, hkept, hexact, hlimit⟩ := hsays.whole
  -- no member is dropped, since none is null
  have hbody : Slack.body payload = (Json.obj (kept payload)).spaced := by
    rw [Slack.body, if_neg (by simpa using hne)]
    rfl
  rw [hkept] at hbody
  exact ⟨_, hsays, Request.carries_of_body hexact hlimit hbody⟩

theorem posted_deliver (t : Target) (n : Notice) :
    (t.deliver n).Trades s w (Posted (t.Says n)) :=
  (t.announced_deliver n).mono fun _ _ hv => hv.posts Reached.asksOnce carries_of_reached

end Target

end Slack

/-! ### The channels -/

namespace Channel

variable {s : Surroundings} {w : World}

theorem posted_invoke {c : Channel} {n : Notice} {Q : Json → Prop}
    (h : (c.deliver n).Trades s w (Posted Q)) : (c.invoke n).Trades s w (Posted Q) := by
  rw [invoke]
  split
  · exact h
  · exact ⟨_, [], ends_fail _, .unsent (by simp)⟩

/-- **The request of a channel carries what it makes of the notice.**  Every invocation makes one
request at most, and one if the notice has been delivered.  Whatever characters there are in the
names, reasons, summaries and values of the notice, its body is ASCII, and is read as the text of a
webhook, as the receiver, the template and the values of an email, as the title, the template and
the rows of a bulk job, or as the text and the blocks of a chat message. -/
theorem posts_payload (n : Notice) (s : Surroundings) (w : World) :
    (∀ t : Slack.Target, (t.channel.invoke n).Trades s w (Posted (t.Says n))) ∧
      (∀ t : Endpoint.Target,
        (t.channel.invoke n).Trades s w (Posted (Endpoint.Target.Says n))) ∧
      ∀ a : Mail.Account, (a.channel.invoke n).Trades s w (Posted (a.Says n)) :=
  ⟨fun t => posted_invoke (t.posted_deliver n), fun t => posted_invoke (t.posted_deliver n),
    fun a => posted_invoke (a.posted_deliver n)⟩

end Channel

end JobHerald
