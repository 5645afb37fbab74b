import Tactix.AuthService.Ldap
import Tactix.AuthService.Sessions
import Tactix.Bootstrap.Service
import Tactix.Discovery.Restarts
import Tactix.Discovery.Servers
import Tactix.Eng.Clients
import Tactix.Eng.History
import Tactix.Eng.Roles
import Tactix.Gateway
import Tactix.Incident.History
import Tactix.Incident.Replay
import Tactix.Incident.Submit
import Tactix.IncidentSvc.Activity
import Tactix.IncidentSvc.Crash
import Tactix.IncidentSvc.Evaluation
import Tactix.IncidentSvc.Listing
import Tactix.IncidentSvc.Messages
import Tactix.IncidentSvc.Operations
import Tactix.IncidentSvc.Polling
import Tactix.IncidentSvc.Search
import Tactix.IncidentSvc.Upload
import Tactix.IncidentSvc.Upsert
import Tactix.Mcp.Agent
import Tactix.Migrate.Compose
import Tactix.Migrate.Stopped
import Tactix.PlaybookSvc
import Tactix.Rbac.Assignments
import Tactix.Realtime.CatchUp
import Tactix.Realtime.Consumer
import Tactix.Realtime.Delivery
import Tactix.Realtime.Subscription
import Tactix.Realtime.Upgrade
import Tactix.Schedule.Active
import Tactix.Schedule.Envelopes
import Tactix.Schedule.Overlaps
import Tactix.Schedule.Patch
import Tactix.Schedule.Race
import Tactix.TakIngest.Cache
import Tactix.Through
import Tactix.Ui.Deployed
import Tactix.Ui.Notify
import Tactix.Ui.Session
import Tactix.Ui.Tasks
import Tactix.Warlog
import Tactix.ZeroTrust.Gate
import Tactix.ZeroTrust.Update
import Tactix.ZtAudit.Gate
