import JobHerald.Job.Notifier
import JobHerald.Json.Parser
import JobHerald.Log.Line
import JobHerald.Outcome.Maker
import JobHerald.Proofs.Action.Attempting
import JobHerald.Proofs.Catalog.Layout
import JobHerald.Proofs.Catalog.Reading
import JobHerald.Proofs.Channel.Contents
import JobHerald.Proofs.Channel.Fence
import JobHerald.Proofs.Channel.Filling
import JobHerald.Proofs.Channel.Grammar
import JobHerald.Proofs.Channel.Validity
import JobHerald.Proofs.Dispatch.Backing
import JobHerald.Proofs.Dispatch.Labels
import JobHerald.Proofs.Dispatch.Secrecy
import JobHerald.Proofs.Dispatch.Surfacing
import JobHerald.Proofs.Dispatch.Unconfigured
import JobHerald.Proofs.Json.Printing
import JobHerald.Proofs.Log.Bracketing
import JobHerald.Proofs.Log.Masking
import JobHerald.Proofs.Message.Coarse
import JobHerald.Proofs.Message.Instants
import JobHerald.Proofs.Message.Volumes
import JobHerald.Proofs.Notifier.Announcement
import JobHerald.Proofs.Notifier.Blame
import JobHerald.Proofs.Notifier.Context
import JobHerald.Proofs.Notifier.Credentials
import JobHerald.Proofs.Notifier.Missing
import JobHerald.Proofs.Notifier.Service
import JobHerald.Proofs.Notifier.Totals
