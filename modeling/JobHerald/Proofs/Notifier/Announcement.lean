import JobHerald.Proofs.Channel.Verdict
import JobHerald.Proofs.Notifier.Mailing

/-!
# Announcements of breaking changes

A breaking change is announced to many workspaces at once, by one bulk job of the email service.
The job is a table: a header row names the columns, and below it there is a row for each receiver.

## Main definitions

* `Mail.IsTable` — rows with a header, and below it a row for each address.
* `NotifySettings.announcementTemplate`, `BreakingChange.jobName` — the template of an announcement,
  and the name of its bulk job.

## Main results

* `Mail.isTable_rows` — the rows of a bulk job are such a table.
* `Mail.ends_sendAll_request` — a bulk job is one request to the bulk endpoint.
* `Notifier.announces_in_one_request` — **an announcement is one request, with a row for each
  receiver, and every bulk job is a table.**
-/

namespace JobHerald

open JobHerald.Action

/-- Fields that all have different names are found by their names in their order. -/
theorem Fields.get?_of_getElem?_names {fs : Fields} (h : fs.names.Nodup) {j : Nat} {name : String}
    (hj : fs.names[j]? = some name) : Fields.get? name fs = (fs.map (·.2))[j]? := by
  induction fs generalizing j with
  | nil => cases hj
  | cons m rest ih =>
    obtain ⟨k, v⟩ := m
    obtain ⟨hk, hrest⟩ := List.nodup_cons.mp h
    cases j with
    | zero =>
      cases hj
      exact if_pos rfl
    | succ j =>
      have hj : (names rest)[j]? = some name := hj
      -- the name is that of a later field, and so not that of the first one
      have hne : k ≠ name := fun heq => hk (heq ▸ List.mem_of_getElem? hj)
      rw [get?_cons, if_neg hne, ih hrest hj]
      rfl

/-! ### The rows of a bulk job -/

namespace Mail

/-- Rows that make a table of addresses and values. -/
structure IsTable (addresses : List String) (values : Fields) (rows : List (List Json)) :
    Prop where
  /-- There is one row, and one for each address. -/
  length : rows.length = 1 + addresses.length
  /-- The first row names the columns: the one of the addresses, and one for each value. -/
  header : rows[0]? = some (.str "email address" :: values.names.map .str)
  /-- All rows are as long as the first one. -/
  width : ∀ row ∈ rows, row.length = 1 + values.names.length
  /-- The row of an address begins with it, and has the value of each name in the column of the
  name. -/
  row : ∀ i address, addresses[i]? = some address → ∃ row, rows[i + 1]? = some row ∧
    row[0]? = some (.str address) ∧
    ∀ j name, values.names[j]? = some name →
      ∃ v, Fields.get? name values = some v ∧ row[j + 1]? = some v

/-- The rows of a bulk job are a table of its addresses, in their order, and its values. -/
theorem isTable_rows (addresses : List String) {values : Fields} (h : values.names.Nodup) :
    IsTable addresses values (rows addresses values) where
  length := by
    rw [rows, List.length_cons, List.length_map, Nat.add_comm]
  header := rfl
  width := by
    intro row hrow
    rcases List.mem_cons.mp hrow with rfl | hrow
    · simp [headerRow, Nat.add_comm]
    · obtain ⟨address, -, rfl⟩ := List.mem_map.mp hrow
      simp [addressRow, Fields.names, Nat.add_comm]
  row := by
    intro i address haddress
    refine ⟨addressRow values address, ?_, rfl, fun j name hname => ?_⟩
    · rw [rows, List.getElem?_cons_succ, List.getElem?_map, haddress]
      rfl
    -- a name stands above the value that it is looked up with
    · have hlookup := Fields.get?_of_getElem?_names h hname
      have hthere : (values.map (·.2))[j]?.isSome = true := by
        have hj := (List.getElem?_eq_some_iff.mp hname).1
        simpa [Fields.names] using hj
      obtain ⟨v, hv⟩ := Option.isSome_iff_exists.mp hthere
      exact ⟨v, hlookup.trans hv, by rw [addressRow, List.getElem?_cons_succ, hv]⟩

theorem nodup_names_bulkValues (change : BreakingChange) : (bulkValues change).names.Nodup := by
  have hnames : (bulkValues change).names = ["connector_name", "connector_type",
      "connector_version", "breaking_change_message", "upgrade_deadline",
      "migration_documentation_url"] := rfl
  rw [hnames]
  decide

/-- The body of a bulk job with rows. -/
def jobBody (name template : String) (rows : List (List Json)) : Json :=
  .obj [("name", .str name), ("template_id", .str template), ("rows", .arr (rows.map .arr))]

variable {s : Surroundings} {w : World} {known : Settings} {header : String × String}

/-- A bulk job makes one request as soon as the process has settings and an account, and comes to
the verdict on the answer. -/
theorem ends_sendAll_request {a : Account} {template : String} (title : String)
    (change : BreakingChange) (hconfigured : a.isConfigured template = true)
    (hknown : (settings s w).1 = .ok known) (hheader : known.notify.header s.clock = .ok header) :
    (a.sendAll title template change).Ends s w
      (ChannelKind.email.verdict (some (ChannelKind.email.reply s w)))
      [request known header bulkEndpoint (jobBody (title ++ ": " ++ change.connector) template
        (rows (change.receivers.map (·.address)) (bulkValues change)))] := by
  have hcall := (Account.checks_conclude template).ends (ends_sendBulk (s := s) (w := w)
    (title ++ ": " ++ change.connector) template (change.receivers.map (·.address))
    (bulkValues change))
  have hwritten := isWithinLimit_bulkPayload (title ++ ": " ++ change.connector) template
    (change.receivers.map (·.address)) change
  rw [asks_sent hknown hheader hwritten, reach_sent hknown hheader hwritten] at hcall
  rw [Account.sendAll, if_pos hconfigured]
  exact hcall

end Mail

/-! ### Announcements -/

/-- The template of an announcement. -/
def NotifySettings.announcementTemplate (s : NotifySettings) (syncsDisabled : Bool) : String :=
  if syncsDisabled then s.breakingDisabledTemplate else s.breakingWarningTemplate

/-- The name of the bulk job of an announcement. -/
def BreakingChange.jobName (change : BreakingChange) (syncsDisabled : Bool) : String :=
  (if syncsDisabled then "Breaking change syncs disabled" else "Breaking change warning") ++ ": " ++
    change.connector

namespace Notifier

variable {s : Surroundings} {w : World} {known : Settings} {header : String × String}

/-- The request of an announcement, as settings say. -/
def announcementRequest (known : Settings) (header : String × String) (change : BreakingChange)
    (syncsDisabled : Bool) (rows : List (List Json)) : Request :=
  Mail.request known header Mail.bulkEndpoint
    (Mail.jobBody (change.jobName syncsDisabled) (known.notify.announcementTemplate syncsDisabled)
      rows)

/-- The notice of an announcement is one request, through the channel for emails. -/
theorem ends_announcement (hknown : (settings s w).1 = .ok known)
    (hheader : known.notify.header s.clock = .ok header) (change : BreakingChange)
    (syncsDisabled : Bool) (hservice : known.notify.apiUrl ≠ "")
    (htemplate : known.notify.announcementTemplate syncsDisabled ≠ "") :
    ((Channel.ofSettings known .email none none).invoke
        (if syncsDisabled then .breakingChangeSyncsDisabled change
          else .breakingChangeWarning change)).Ends s w
      (ChannelKind.email.verdict (some (ChannelKind.email.reply s w)))
      [announcementRequest known header change syncsDisabled
        (Mail.rows (change.receivers.map (·.address)) (Mail.bulkValues change))] := by
  have hconfigured : Mail.Account.isConfigured ⟨known.notify, none⟩
      (known.notify.announcementTemplate syncsDisabled) = true := by
    simp [Mail.Account.isConfigured, hservice, htemplate]
  cases syncsDisabled with
  | true => exact Mail.ends_sendAll_request _ change hconfigured hknown hheader
  | false => exact Mail.ends_sendAll_request _ change hconfigured hknown hheader

/-- A notifier that is made for the settings of the process has a dispatcher for them. -/
theorem ends_create (repository : Repository) (analytics : Analytics) (metrics : Metrics)
    (hknown : (settings s w).1 = .ok known) :
    (create repository analytics metrics none none).Ends s w
      (.ok ⟨repository, analytics, (Dispatch.standard (some known) metrics).dispatcher,
        WebUrls.ofBase known.webApp.url⟩) [] :=
  ends_known_bind hknown fun _ _ => ends_pure _

/-- A notifier with a dispatcher for the settings of the process makes the request of an
announcement, and no other. -/
theorem ends_notifyBreakingChange (n : Notifier) (metrics : Metrics)
    (hd : n.dispatcher = (Dispatch.standard (some known) metrics).dispatcher)
    (hknown : (settings s w).1 = .ok known) (hheader : known.notify.header s.clock = .ok header)
    (change : BreakingChange) (syncsDisabled : Bool) (hservice : known.notify.apiUrl ≠ "")
    (htemplate : known.notify.announcementTemplate syncsDisabled ≠ "") :
    ∃ a, (n.notifyBreakingChange change syncsDisabled).Ends s w (.ok a)
      [announcementRequest known header change syncsDisabled
        (Mail.rows (change.receivers.map (·.address)) (Mail.bulkValues change))] := by
  -- the context that is bound for the announcement is no part of the settings
  let binding : Log.Binding :=
    { Log.Binding.none with extra := [("connector", .str change.connector)] }
  have hbound : (settings s { w with
      context := Log.enter w.context (binding.fields s.fresh) }).1 = .ok known :=
    (settings_of_context ..).trans hknown
  have hused (w' : World) : (settingsOr (some known) s w').1 = .ok known := rfl
  obtain ⟨label, hdelivered⟩ := Dispatch.ends_deliver metrics (hused _) none none none
    fun w' hw' => hw'.reply_eq ▸ ends_announcement (hw'.settings.trans hbound) hheader change
      syncsDisabled hservice htemplate
  obtain ⟨repository, analytics, dispatcher, urls⟩ := n
  cases hd
  refine Exists.imp (fun _ h => Ends.within h) ?_
  exact ⟨_, (hdelivered.attemptUnless Attempt.clean_nil).bind_last fun _ => ends_pure _⟩

/-- **An announcement is one request**: a bulk job of which the rows are a table with a row for each
receiver, in their order, below the names of what they are told.  And every bulk job is such a
table, whatever its receivers and values are. -/
theorem announces_in_one_request (repository : Repository) (analytics : Analytics)
    (metrics : Metrics) (change : BreakingChange) (syncsDisabled : Bool)
    (hknown : (settings s w).1 = .ok known) (hheader : known.notify.header s.clock = .ok header)
    (hservice : known.notify.apiUrl ≠ "")
    (htemplate : known.notify.announcementTemplate syncsDisabled ≠ "") :
    (∃ a rows, (create repository analytics metrics none none >>= fun n =>
        n.notifyBreakingChange change syncsDisabled).Ends s w (.ok a)
          [announcementRequest known header change syncsDisabled rows] ∧
        Mail.IsTable (change.receivers.map (·.address)) (Mail.bulkValues change) rows) ∧
      ∀ name template addresses values, (Fields.names values).Nodup → ∀ s w, ∃ r rows,
        (Mail.sendBulk name template addresses values).Ends s w r
          (Mail.asks Mail.bulkEndpoint (Mail.jobBody name template rows) s w) ∧
        Mail.IsTable addresses values rows := by
  constructor
  -- the settings are loaded when the notifier is made, and are the same for the request
  · obtain ⟨w', hcreated, hlater, hgo⟩ := (ends_create repository analytics metrics hknown).after
    obtain ⟨a, hannounced⟩ := ends_notifyBreakingChange
      ⟨repository, analytics, _, WebUrls.ofBase known.webApp.url⟩ metrics rfl
      (hlater.settings.trans hknown) hheader change syncsDisabled hservice htemplate
    exact ⟨a, _, hgo hannounced (bind_ok hcreated),
      Mail.isTable_rows _ (Mail.nodup_names_bulkValues change)⟩
  · intro name template addresses values hnames s w
    exact ⟨_, _, Mail.ends_sendBulk name template addresses values,
      Mail.isTable_rows addresses hnames⟩

/-- A breaking change of which one receiver is told twice. -/
def upgrade : BreakingChange :=
  ⟨[⟨"ops@acme.example"⟩, ⟨"ops@globex.example"⟩, ⟨"ops@acme.example"⟩], "Crm", .source, "2.0.0",
    "Streams are renamed", "2030-01-01", none⟩

/-- The warning about a breaking change goes out in one request, with three rows below the header,
and so does another bulk job with one. -/
theorem announces_in_one_request_emailing :
    ∃ header, emailing.notify.header Surroundings.busy.clock = .ok header ∧
      emailing.notify.apiUrl ≠ "" ∧ emailing.notify.announcementTemplate false ≠ "" ∧
      ∃ a rows, (create (.knowing alerted "Crm") alerting.analytics
          (Metrics.collector fun _ => none) none none >>= fun n =>
            n.notifyBreakingChange upgrade false).Ends .busy (.settled emailing) (.ok a)
          [announcementRequest emailing header upgrade false rows] ∧ rows.length = 4 ∧
        ∃ r rows', (Mail.sendBulk "Plans" "plans" ["ops@acme.example"]
            [("plan", .str "basic"), ("seats", .int 3)]).Ends .busy (.settled emailing) r
          (Mail.asks Mail.bulkEndpoint (Mail.jobBody "Plans" "plans" rows') .busy
            (.settled emailing)) ∧ rows'.length = 2 := by
  have hissued : (emailing.notify.header Surroundings.busy.clock).isOk = true := by decide +kernel
  have hservice : emailing.notify.apiUrl ≠ "" := by decide
  have htemplate : emailing.notify.announcementTemplate false ≠ "" := by decide
  obtain ⟨header, hheader⟩ :
      ∃ header, emailing.notify.header Surroundings.busy.clock = .ok header := by
    cases hresult : emailing.notify.header Surroundings.busy.clock with
    | ok header => exact ⟨header, rfl⟩
    | error e =>
      rw [hresult] at hissued
      cases hissued
  obtain ⟨⟨a, rows, hends, htable⟩, hjobs⟩ := announces_in_one_request (.knowing alerted "Crm")
    alerting.analytics (Metrics.collector fun _ => none) upgrade false
    (s := .busy) (w := .settled emailing) rfl hheader hservice htemplate
  obtain ⟨r, rows', hends', htable'⟩ := hjobs "Plans" "plans" ["ops@acme.example"]
    [("plan", .str "basic"), ("seats", .int 3)] (by decide) .busy (.settled emailing)
  exact ⟨header, hheader, hservice, htemplate, a, rows, hends, htable.length, r, rows', hends',
    htable'.length⟩

end Notifier

end JobHerald
