import Remedy.Artifact
import Remedy.Config.Document
import Remedy.Config.Overrides
import Remedy.Github.Client
import Remedy.Service.Batch
import Remedy.Workflow.Script
import Remedy.Proofs.Limiter.Sweep
import Remedy.Proofs.Service.Gates
import Remedy.Proofs.Service.Schedules
import Remedy.Proofs.Service.DryRuns
import Remedy.Proofs.Service.Rollbacks
import Remedy.Proofs.Service.Tally
import Remedy.Proofs.Service.Blacklist
import Remedy.Proofs.Program.Transcripts
import Remedy.Proofs.Workflow.Waiting
import Remedy.Proofs.Rerun.Conversations
import Remedy.Proofs.Rerun.Reports
import Remedy.Proofs.Rerun.Attempts
import Remedy.Proofs.Rerun.Restraint
import Remedy.Proofs.Rerun.Precedence
import Remedy.Proofs.Service.Notes
import Remedy.Proofs.Service.Reruns
import Remedy.Proofs.Service.Admissions
import Remedy.Proofs.Rerun.Waits
import Remedy.Proofs.Service.Batches
import Remedy.Proofs.Artifact.Storage
import Remedy.Proofs.Service.Coherence
import Remedy.Proofs.Service.Undoing
import Remedy.Proofs.Service.Announcements
import Remedy.Proofs.Service.Independence
import Remedy.Proofs.Github.Addresses
import Remedy.Proofs.Rerun.Durations
import Remedy.Proofs.Limiter.Expiry
import Remedy.Proofs.Limiter.Forgetting
import Remedy.Proofs.Github.Pages
import Remedy.Proofs.Limiter.Tracking
import Remedy.Proofs.Limiter.Keys
import Remedy.Proofs.Artifact.Failures
import Remedy.Proofs.Config.Bounds
import Remedy.Proofs.Rule.Rejections
import Remedy.Proofs.Checks.Batteries
import Remedy.Proofs.Rule.Blacklist
import Remedy.Proofs.Json.Incidents
import Remedy.Proofs.Github.Refusals
