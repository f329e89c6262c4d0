import FilterFleet.Blocking.Summary
import FilterFleet.Main
import FilterFleet.Proofs.Blocking.Summary
import FilterFleet.Proofs.Client.Conduct
import FilterFleet.Proofs.Client.Logout
import FilterFleet.Proofs.Client.Outcomes
import FilterFleet.Proofs.Client.Password
import FilterFleet.Proofs.Client.Rules
import FilterFleet.Proofs.Client.SingleFlight
import FilterFleet.Proofs.Cluster.FollowUp
import FilterFleet.Proofs.Cluster.Pages
import FilterFleet.Proofs.Cluster.Paging
import FilterFleet.Proofs.Config.Faults
import FilterFleet.Proofs.Cursor.Canonical
import FilterFleet.Proofs.Cursor.Upkeep
import FilterFleet.Proofs.Events.Delivery
import FilterFleet.Proofs.Events.Streams
import FilterFleet.Proofs.Events.Wire
import FilterFleet.Proofs.Health.Board
import FilterFleet.Proofs.Health.Grace
import FilterFleet.Proofs.Health.Polling
import FilterFleet.Proofs.Health.Provenance
import FilterFleet.Proofs.Health.Schedule
import FilterFleet.Proofs.Json.Codes
import FilterFleet.Proofs.QueryLog.Parameters
import FilterFleet.Proofs.Rule.Listings
import FilterFleet.Proofs.Server.Membership
import FilterFleet.Proofs.Server.Needs
import FilterFleet.Proofs.Server.Searches
import FilterFleet.Proofs.Time.Saturation
