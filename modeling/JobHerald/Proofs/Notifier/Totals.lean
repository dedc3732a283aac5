import Mathlib.Algebra.BigOperators.Group.List.Basic
import Mathlib.Algebra.Ring.Int.Defs
import JobHerald.Proofs.Notifier.Resolved

/-!
# Totals and summaries

The counters of all attempts are added up before a summary carries them.  On the way in a counter
may be missing or negative; on the way out it may not.  So whether there is a summary is a matter of
the sums, in which attempts can make up for each other, and of nothing else.

## Main definitions

* `Counter` — the four counters, and where each of them stands.
* `AttemptStats.totals` — what an attempt adds to the totals; totals are added counter by counter.
* `Checked.ofIssues` — a value unless there are issues.
* `Totals.negatives` — the counters whose totals are negative.
* `EventSummary.Reckons` — what building a summary comes to.
* `Notifier.Resolves` — the look-ups of a job event answer.

## Main results

* `Totals.ofAttempts_eq_sum` — the totals are a sum in the monoid of totals.
* `Counter.total_ofAttempts` — each total is the sum of its own counter.
* `EventSummary.reckons_build` — a summary is rejected with one issue for each negative total.
* `Notifier.finished_job_abandoned_iff` — a finished job is abandoned for its totals or its scope.
* `summary_built_unless_total_negative` — **a summary can be built unless a total is negative.**
-/

namespace JobHerald

open JobHerald.Action

/-! ### Counters -/

/-- The four counters. -/
inductive Counter where
  /-- Records read. -/
  | recordsEmitted
  /-- Records written. -/
  | recordsCommitted
  /-- Bytes read. -/
  | bytesEmitted
  /-- Bytes written. -/
  | bytesCommitted
  deriving DecidableEq, Repr

namespace Counter

/-- All counters, in the order of a summary. -/
def all : List Counter := [recordsEmitted, recordsCommitted, bytesEmitted, bytesCommitted]

theorem mem_all (c : Counter) : c ∈ all := by cases c <;> decide

/-- The name of a counter in a summary. -/
def name : Counter → String
  | recordsEmitted => "records_emitted"
  | recordsCommitted => "records_committed"
  | bytesEmitted => "bytes_emitted"
  | bytesCommitted => "bytes_committed"

/-- A counter of an attempt, if it is known. -/
def stat? : Counter → SyncStats → Option Int
  | recordsEmitted, s => s.recordsEmitted
  | recordsCommitted, s => s.recordsCommitted
  | bytesEmitted, s => s.bytesEmitted
  | bytesCommitted, s => s.bytesCommitted

/-- The total of a counter. -/
def total : Counter → Totals → Int
  | recordsEmitted, t => t.recordsEmitted
  | recordsCommitted, t => t.recordsCommitted
  | bytesEmitted, t => t.bytesEmitted
  | bytesCommitted, t => t.bytesCommitted

/-- A counter as a summary carries it. -/
def carried : Counter → EventSummary → Nat
  | recordsEmitted, e => e.recordsEmitted
  | recordsCommitted, e => e.recordsCommitted
  | bytesEmitted, e => e.bytesEmitted
  | bytesCommitted, e => e.bytesCommitted

theorem stat?_toStats (c : Counter) (t : Totals) : c.stat? t.toStats = some (c.total t) := by
  cases c <;> rfl

end Counter

/-- A counter of an attempt; it counts nothing if it is missing, or if all of them are. -/
def AttemptStats.count (a : AttemptStats) (c : Counter) : Int := (a.combined.bind c.stat?).getD 0

/-- What an attempt adds to the totals. -/
def AttemptStats.totals (a : AttemptStats) : Totals :=
  ⟨a.count .recordsEmitted, a.count .recordsCommitted, a.count .bytesEmitted,
    a.count .bytesCommitted⟩

/-! ### Sums of totals -/

instance : Zero Totals := ⟨Totals.zero⟩

instance : Add Totals where
  add t u := ⟨t.recordsEmitted + u.recordsEmitted, t.recordsCommitted + u.recordsCommitted,
    t.bytesEmitted + u.bytesEmitted, t.bytesCommitted + u.bytesCommitted⟩

namespace Counter

@[simp] theorem total_zero (c : Counter) : c.total 0 = 0 := by cases c <;> rfl

@[simp] theorem total_add (c : Counter) (t u : Totals) :
    c.total (t + u) = c.total t + c.total u := by cases c <;> rfl

@[simp] theorem total_totals (c : Counter) (a : AttemptStats) : c.total a.totals = a.count c := by
  cases c <;> rfl

end Counter

namespace Totals

theorem ext_total {t u : Totals} (h : ∀ c : Counter, c.total t = c.total u) : t = u := by
  obtain ⟨a, b, c, d⟩ := t
  obtain ⟨a', b', c', d'⟩ := u
  cases (h .recordsEmitted : a = a')
  cases (h .recordsCommitted : b = b')
  cases (h .bytesEmitted : c = c')
  cases (h .bytesCommitted : d = d')
  rfl

instance : AddCommMonoid Totals where
  add_assoc t u v := ext_total fun c => by simp only [Counter.total_add, Int.add_assoc]
  zero_add t := ext_total fun c => by
    simp only [Counter.total_add, Counter.total_zero, Int.zero_add]
  add_zero t := ext_total fun c => by
    simp only [Counter.total_add, Counter.total_zero, Int.add_zero]
  add_comm t u := ext_total fun c => by simp only [Counter.total_add, Int.add_comm]
  nsmul := nsmulRec

theorem add_eq (t : Totals) (a : AttemptStats) : t.add a = t + a.totals := by
  obtain ⟨combined⟩ := a
  cases combined with
  | none => exact (add_zero t).symm
  | some s => rfl

/-- The totals are a sum in the monoid of totals. -/
theorem ofAttempts_eq_sum (attempts : List AttemptStats) :
    ofAttempts attempts = (attempts.map AttemptStats.totals).sum := by
  have hadd : add = fun t a => t + a.totals := funext₂ add_eq
  rw [ofAttempts, hadd, List.sum_eq_foldl, List.foldl_map]
  rfl

theorem ofAttempts_append (xs ys : List AttemptStats) :
    ofAttempts (xs ++ ys) = ofAttempts xs + ofAttempts ys := by
  simp only [ofAttempts_eq_sum, List.map_append, List.sum_append]

/-- The totals do not know how the attempts were grouped. -/
theorem ofAttempts_flatten (groups : List (List AttemptStats)) :
    ofAttempts groups.flatten = (groups.map ofAttempts).sum := by
  induction groups with
  | nil => rfl
  | cons xs groups ih =>
    rw [List.flatten_cons, ofAttempts_append, ih, List.map_cons, List.sum_cons]

/-- The totals do not know in which order the attempts came. -/
theorem ofAttempts_perm {xs ys : List AttemptStats} (h : xs.Perm ys) :
    ofAttempts xs = ofAttempts ys := by
  rw [ofAttempts_eq_sum, ofAttempts_eq_sum]
  exact (h.map AttemptStats.totals).sum_eq

end Totals

/-- Each total is the sum of its own counter. -/
theorem Counter.total_ofAttempts (c : Counter) (attempts : List AttemptStats) :
    c.total (Totals.ofAttempts attempts) = (attempts.map (·.count c)).sum := by
  rw [Totals.ofAttempts_eq_sum]
  induction attempts with
  | nil => exact c.total_zero
  | cons a attempts ih =>
    rw [List.map_cons, List.sum_cons, total_add, total_totals, ih, List.map_cons, List.sum_cons]

/-! ### Checked counters -/

namespace Checked

variable {α β : Type}

/-- A value, unless there are issues. -/
def ofIssues (is : List Issue) (a : α) : Checked α :=
  match is with
  | [] => valid a
  | i :: is => invalid (i :: is)

theorem map_ofIssues (f : α → β) (is : List Issue) (a : α) :
    f <$> ofIssues is a = ofIssues is (f a) := by
  cases is <;> rfl

/-- Values are put together, and so are their issues. -/
theorem seq_ofIssues (is js : List Issue) (f : α → β) (a : α) :
    ofIssues is f <*> ofIssues js a = ofIssues (is ++ js) (f a) := by
  cases is <;> cases js <;> rfl

end Checked

/-- The issue of a total that is negative. -/
def Counter.issue (c : Counter) (n : Int) : Issue := ⟨[c.name], .negative, .int n⟩

/-- The issues of a total: one if it is negative. -/
def Counter.issues (c : Counter) (t : Totals) : List Issue :=
  if c.total t < 0 then [c.issue (c.total t)] else []

theorem counter_eq (c : Counter) (t : Totals) :
    counter c.name (c.total t) = .ofIssues (c.issues t) (c.total t).toNat := by
  rw [Counter.issues]
  cases c.total t with
  | ofNat n => rfl
  | negSucc n =>
    rw [if_pos (Int.negSucc_lt_zero n)]
    rfl

/-- The counters whose totals are negative. -/
def Totals.negatives (t : Totals) : List Counter := Counter.all.filter (·.total t < 0)

/-- One issue for each negative total. -/
def Totals.issues (t : Totals) : List Issue := t.negatives.map fun c => c.issue (c.total t)

theorem Totals.negatives_ne_nil_iff (t : Totals) :
    t.negatives ≠ [] ↔ ∃ c : Counter, c.total t < 0 := by
  rw [← List.isEmpty_eq_false_iff]
  simp [negatives, Counter.mem_all]

/-- The issues of all totals are those of the negative ones. -/
theorem Totals.issues_eq (t : Totals) : t.issues = Counter.all.flatMap (·.issues t) := by
  rw [issues, negatives]
  induction Counter.all with
  | nil => rfl
  | cons c rest ih =>
    rw [List.flatMap_cons, ← ih, Counter.issues]
    -- a total that is negative is kept, and has its one issue
    by_cases h : c.total t < 0
    · rw [List.filter_cons_of_pos (by simpa using h), if_pos h]
      rfl
    · rw [List.filter_cons_of_neg (by simpa using h), if_neg h]
      rfl

/-! ### Summaries -/

namespace EventSummary

/-- What building a summary comes to, given the totals of the attempts. -/
structure Reckons (job : Job) (t : Totals) (reason : Option String)
    (built : Except Rejection EventSummary) : Prop where
  /-- It is rejected if some total is negative, and in no other case. -/
  rejected_iff : (∃ r, built = .error r) ↔ ∃ c : Counter, c.total t < 0
  /-- A rejection has one issue for each negative total, and no other. -/
  issues : ∀ r, built = .error r → r.record = "EventSummary" ∧
    r.issues = (Counter.all.filter (·.total t < 0)).map fun c =>
      ⟨[c.name], .negative, .int (c.total t)⟩
  /-- A summary carries the totals. -/
  totals : ∀ e, built = .ok e → ∀ c : Counter, (c.carried e : Int) = c.total t
  /-- It carries the times of the job. -/
  times : ∀ e, built = .ok e →
    e.startedAt = some job.createdAt ∧ e.finishedAt = some job.updatedAt
  /-- It is one of a success if the job succeeded, and in no other case. -/
  isSuccess_iff : ∀ e, built = .ok e → (e.isSuccess = true ↔ job.status = .succeeded)
  /-- It carries the reason. -/
  reason : ∀ e, built = .ok e → e.errorMessage = reason

variable {job : Job} {attempts : List AttemptStats} {workspace : Workspace}
  {connection : Connection} {source : Source} {destination : Destination} {urls : WebUrls}
  {reason : Option String}

/-- The summary that is built if no total is negative. -/
def ofTotals (job : Job) (t : Totals) (workspace : Workspace) (connection : Connection)
    (source : Source) (destination : Destination) (urls : WebUrls) (reason : Option String) :
    EventSummary where
  workspace := ⟨workspace.name, workspace.id, urls.workspace workspace.id⟩
  connection := ⟨connection.name, connection.id, urls.connection workspace.id connection.id⟩
  source := ⟨source.name, source.id, urls.source workspace.id source.id⟩
  destination := ⟨destination.name, destination.id, urls.destination workspace.id destination.id⟩
  startedAt := some job.createdAt
  finishedAt := some job.updatedAt
  isSuccess := job.status == .succeeded
  jobId := .number job.id
  errorMessage := reason
  recordsEmitted := t.recordsEmitted.toNat
  recordsCommitted := t.recordsCommitted.toNat
  bytesEmitted := t.bytesEmitted.toNat
  bytesCommitted := t.bytesCommitted.toNat

theorem carried_ofTotals (c : Counter) (t : Totals) :
    c.carried (ofTotals job t workspace connection source destination urls reason)
      = (c.total t).toNat := by
  cases c <;> rfl

/-- The issues of the four totals decide what is built. -/
theorem build_eq : build job attempts workspace connection source destination urls reason =
    match Checked.ofIssues (Totals.ofAttempts attempts).issues (ofTotals job
      (Totals.ofAttempts attempts) workspace connection source destination urls reason) with
    | .valid e => .ok e
    | .invalid issues => .error ⟨"EventSummary", issues⟩ := by
  -- each counter is checked by itself, in this order
  have hemitted := counter_eq .recordsEmitted (Totals.ofAttempts attempts)
  have hcommitted := counter_eq .recordsCommitted (Totals.ofAttempts attempts)
  have hread := counter_eq .bytesEmitted (Totals.ofAttempts attempts)
  have hwritten := counter_eq .bytesCommitted (Totals.ofAttempts attempts)
  simp only [Counter.name, Counter.total] at hemitted hcommitted hread hwritten
  rw [build, Totals.issues_eq]
  simp only [hemitted, hcommitted, hread, hwritten, Checked.map_ofIssues, Checked.seq_ofIssues,
    Counter.all, List.flatMap_cons, List.flatMap_nil, List.append_nil, List.append_assoc]
  rfl

theorem build_of_negative (h : ∃ c : Counter, c.total (Totals.ofAttempts attempts) < 0) :
    build job attempts workspace connection source destination urls reason =
      .error ⟨"EventSummary", (Totals.ofAttempts attempts).issues⟩ := by
  have hissues : (Totals.ofAttempts attempts).issues ≠ [] := by
    rw [Totals.issues, Ne, List.map_eq_nil_iff]
    exact (Totals.negatives_ne_nil_iff _).mpr h
  rw [build_eq]
  cases hi : (Totals.ofAttempts attempts).issues with
  | nil => exact absurd hi hissues
  | cons i is => rfl

theorem build_of_nonneg (h : ∀ c : Counter, 0 ≤ c.total (Totals.ofAttempts attempts)) :
    build job attempts workspace connection source destination urls reason =
      .ok (ofTotals job (Totals.ofAttempts attempts) workspace connection source destination urls
        reason) := by
  have hissues : (Totals.ofAttempts attempts).issues = [] := by
    rw [Totals.issues, List.map_eq_nil_iff]
    by_contra hne
    obtain ⟨c, hc⟩ := (Totals.negatives_ne_nil_iff _).mp hne
    exact absurd (h c) (Int.not_le.mpr hc)
  rw [build_eq, hissues]
  rfl

/-- A summary is rejected with one issue for each negative total, or carries the totals. -/
theorem reckons_build : Reckons job (Totals.ofAttempts attempts) reason
    (build job attempts workspace connection source destination urls reason) := by
  by_cases h : ∃ c : Counter, c.total (Totals.ofAttempts attempts) < 0
  · rw [build_of_negative h]
    refine ⟨⟨fun _ => h, fun _ => ⟨_, rfl⟩⟩, ?_, fun _ he => (nomatch he),
      fun _ he => (nomatch he), fun _ he => (nomatch he), fun _ he => (nomatch he)⟩
    rintro r ⟨⟩
    exact ⟨rfl, rfl⟩
  -- no total is negative: each is carried as it is
  · have hnonneg : ∀ c : Counter, 0 ≤ c.total (Totals.ofAttempts attempts) :=
      fun c => Int.not_lt.mp fun hc => h ⟨c, hc⟩
    rw [build_of_nonneg hnonneg]
    refine ⟨⟨fun ⟨r, hr⟩ => (nomatch hr), fun hneg => absurd hneg h⟩,
      fun _ hr => (nomatch hr), ?_, ?_, ?_, ?_⟩
    · rintro e ⟨⟩ c
      rw [carried_ofTotals]
      exact Int.toNat_of_nonneg (hnonneg c)
    · rintro e ⟨⟩
      exact ⟨rfl, rfl⟩
    · rintro e ⟨⟩
      exact beq_iff_eq
    · rintro e ⟨⟩
      rfl

end EventSummary

/-! ### Finished jobs -/

namespace Notifier

/-- The look-ups of a job event answer: that of the workspace, and those of the connection if the
job's scope names one. -/
structure Resolves (n : Notifier) (job : Job) : Prop where
  /-- The workspace is found. -/
  workspace : ∃ w, n.Finds job none w
  /-- The connection is known. -/
  connection : ∀ c, job.connectionId = .ok c → ∃ m, n.repository.Knows c m

/-- A job that cannot be told of: some total of its attempts is negative, or its scope is no
identifier. -/
def Unfit (job : Job) (attempts : List AttemptStats) : Prop :=
  (∃ c : Counter, c.total (Totals.ofAttempts attempts) < 0) ∨ ∃ f, job.connectionId = .error f

variable {n : Notifier} {d : Dispatch} {event : JobEvent} {job : Job}
  {attempts : List AttemptStats} {reason : Option String} {c : Uuid} {m : Metadata}
  {s : Surroundings}

theorem asks_summary (hr : n.repository.Sound) (hm : n.repository.Knows c m) (job : Job)
    (attempts : List AttemptStats) (w : Workspace) (reason : Option String) (s : Surroundings) :
    ∃ source destination, (n.summary job attempts w m reason).Asks s
      ((EventSummary.build job attempts w m.connection source destination n.urls
        reason).mapError .rejected) [] := by
  obtain ⟨source, hsource⟩ := hm.source_eq_some hr
  obtain ⟨destination, hdestination⟩ := hm.destination_eq_some hr
  refine ⟨source, destination, ?_⟩
  rw [summary, hsource, hdestination, present_some, present_some, pure_bind, pure_bind]
  exact asks_ofExcept _

/-- The notice about a finished job is its summary. -/
theorem jobNotice_eq_summary (n : Notifier) (he : event = .failure ∨ event = .success)
    (w : Workspace) :
    ∃ f : EventSummary → Notice, ∀ job attempts m reason, n.jobNotice event job attempts w m reason
      = n.summary job attempts w m reason >>= fun e => pure (f e) := by
  rcases he with rfl | rfl
  · exact ⟨fun e => .jobFailure e (receiverOf w), fun _ _ _ _ => rfl⟩
  · exact ⟨fun e => .jobSuccess e (receiverOf w), fun _ _ _ _ => rfl⟩

/-- The notice about a finished job cannot be made if some total is negative, and in no other
case. -/
theorem jobNotice_fails_iff (hr : n.repository.Sound) (hm : n.repository.Knows c m)
    (he : event = .failure ∨ event = .success) (w : Workspace) :
    (∃ e, (n.jobNotice event job attempts w m reason).Asks s (.error e) []) ↔
      ∃ k : Counter, k.total (Totals.ofAttempts attempts) < 0 := by
  obtain ⟨source, destination, hsummary⟩ := asks_summary hr hm job attempts w reason s
  obtain ⟨f, hnotice⟩ := n.jobNotice_eq_summary he w
  have hreckons : EventSummary.Reckons job (Totals.ofAttempts attempts) reason
      (EventSummary.build job attempts w m.connection source destination n.urls reason) :=
    EventSummary.reckons_build
  rw [hnotice, ← hreckons.rejected_iff]
  cases hbuilt : EventSummary.build job attempts w m.connection source destination n.urls
    reason with
  | error r =>
    rw [hbuilt] at hsummary
    exact ⟨fun _ => ⟨r, rfl⟩, fun _ => ⟨_, hsummary.bind_error⟩⟩
  | ok e =>
    rw [hbuilt] at hsummary
    refine ⟨fun ⟨e', hfails⟩ => ?_, fun ⟨r, hr⟩ => nomatch hr⟩
    -- an action has one result in a world
    have hrun := ((hsummary.bind (asks_pure (f e))) .initial).symm.trans (hfails .initial)
    cases hrun

/-- With all look-ups answered, a finished job is abandoned for its totals or its scope. -/
theorem finished_job_abandoned_iff (hr : n.repository.Sound) (hresolves : n.Resolves job)
    {t : Trigger} (ht : t.jobEvent? = some event) (he : event = .failure ∨ event = .success) :
    n.AbandonsTrigger s t job attempts none reason ↔ Unfit job attempts := by
  obtain ⟨w, hw⟩ := hresolves.workspace
  constructor
  · intro habandons
    cases habandons with
    | trigger hnone =>
      rw [ht] at hnone
      cases hnone
    | event he' habandons =>
      rw [ht] at he'
      cases he'
      cases habandons with
      | workspace hloses => exact absurd hloses hw.not_loses
      | scope hf => exact .inr ⟨_, hf⟩
      | connection hc hlacks =>
        obtain ⟨m, hm⟩ := hresolves.connection _ hc
        exact absurd hlacks hm.not_lacks
      | notice _ _ hm hfails => exact .inl ((jobNotice_fails_iff hr hm he _).mp ⟨_, hfails⟩)
  · intro hunfit
    refine .event ht ?_
    -- the scope is read before the totals are added up
    cases hc : job.connectionId with
    | error f => exact .scope hc
    | ok c =>
      obtain ⟨m, hm⟩ := hresolves.connection c hc
      rcases hunfit with hnegative | ⟨f, hf⟩
      · obtain ⟨e, hfails⟩ := (jobNotice_fails_iff hr hm he w).mpr hnegative
        exact .notice hw hc hm hfails
      · rw [hc] at hf
        cases hf

end Notifier

/-- **A summary can be built unless a total is negative.**  Each total is the sum of its own
counter, in which missing values count as zero, and knows neither the order nor the grouping of the
attempts.  A rejection has one issue for each negative total; any other summary carries the totals.
So a finished job for which all look-ups answer is told of unless some total is negative, or its
scope is no identifier. -/
theorem summary_built_unless_total_negative :
    (∀ xs ys, Totals.ofAttempts (xs ++ ys) = Totals.ofAttempts xs + Totals.ofAttempts ys) ∧
    (∀ xs ys, xs.Perm ys → Totals.ofAttempts xs = Totals.ofAttempts ys) ∧
    (∀ groups : List (List AttemptStats),
      Totals.ofAttempts groups.flatten = (groups.map Totals.ofAttempts).sum) ∧
    (∀ (c : Counter) attempts,
      c.stat? (Totals.ofAttempts attempts).toStats = some (attempts.map (·.count c)).sum) ∧
    (∀ job attempts workspace connection source destination urls reason,
      EventSummary.Reckons job (Totals.ofAttempts attempts) reason
        (EventSummary.build job attempts workspace connection source destination urls reason)) ∧
    ∀ (n : Notifier) (d : Dispatch), n.dispatcher = d.dispatcher → n.repository.Sound →
      ∀ job, n.Resolves job → ∀ attempts reason s w,
        (n.failJob reason job attempts).EndsUnless s w (Notifier.Unfit job attempts) ∧
        (n.succeedJob job attempts).EndsUnless s w (Notifier.Unfit job attempts) := by
  refine ⟨Totals.ofAttempts_append, fun _ _ h => Totals.ofAttempts_perm h,
    Totals.ofAttempts_flatten, fun c attempts => ?_,
    fun _ _ _ _ _ _ _ _ => EventSummary.reckons_build, ?_⟩
  · rw [c.stat?_toStats, c.total_ofAttempts]
  · intro n d hd hr job hresolves attempts reason s w
    -- the two operations are notifications of job events, without a known workspace
    have hends : ∀ (t : Trigger) (event : JobEvent) (reason : Option String),
        t.jobEvent? = some event → event = .failure ∨ event = .success →
          (n.notifyJob t job attempts none reason).EndsUnless s w
            (Notifier.Unfit job attempts) := by
      intro t event reason ht he
      rw [← Notifier.finished_job_abandoned_iff hr hresolves ht he]
      exact n.notifyJob_ends hd hr t job attempts none reason s w
    exact ⟨hends .failure .failure reason rfl (.inl rfl),
      hends .success .success none rfl (.inr rfl)⟩

/-- Two attempts with counters, of which only the bytes that were read make up for each other. -/
def overdrawn : List AttemptStats :=
  [⟨some ⟨some 5, none, some (-3), none⟩⟩, ⟨none⟩, ⟨some ⟨some (-7), some 1, some 3, none⟩⟩]

theorem Repository.knows_knowing (w : Workspace) (name : String) (c : Uuid) :
    (knowing w name).Knows c ⟨⟨c, name, default, default⟩, some ⟨default, name, none⟩,
      some ⟨default, name, none⟩, some ⟨default, name, "", ""⟩, some ⟨default, name, "", ""⟩⟩ :=
  ⟨rfl, rfl, rfl, rfl, rfl⟩

theorem summary_built_unless_total_negative_overdrawn :
    Notifier.alerting.repository.Sound ∧ Notifier.alerting.Resolves Notifier.failedJob ∧
      Totals.ofAttempts overdrawn = ⟨-2, 1, 0, 0⟩ ∧
      (Notifier.alerting.failJob none Notifier.failedJob overdrawn).EndsUnless .busy .initial
        (Notifier.Unfit Notifier.failedJob overdrawn) ∧
      ∃ w', Notifier.alerting.failJob none Notifier.failedJob overdrawn .busy .initial
        = (.ok none, w') := by
  have hsound := Repository.sound_knowing Notifier.alerted "Crm"
  have hresolves : Notifier.alerting.Resolves Notifier.failedJob :=
    ⟨⟨Notifier.alerted, .owner rfl rfl⟩, fun c _ => ⟨_, Repository.knows_knowing _ _ c⟩⟩
  obtain ⟨-, -, -, -, -, hends⟩ := summary_built_unless_total_negative
  have hfail := (hends Notifier.alerting _ rfl hsound Notifier.failedJob hresolves overdrawn none
    .busy .initial).1
  have hanswers := hfail
  obtain ⟨answer, w', hrun, hnone, -⟩ := hanswers
  have hanswer : answer = none := hnone.mpr (.inl ⟨.recordsEmitted, by decide⟩)
  subst hanswer
  exact ⟨hsound, hresolves, by decide, hfail, w', hrun⟩

end JobHerald
