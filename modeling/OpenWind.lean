import OpenWind.Workflow.TransitionIdempotency
import OpenWind.Workflow.RuleStates
import OpenWind.Entity.HierarchyLimits
import OpenWind.Entity.DirectWrites
import OpenWind.ThirdParty.Answers
import OpenWind.OrgDirectory.SyncRuns
import OpenWind.Entity.MandatoryValues
import OpenWind.Entity.TenantRefs
import OpenWind.DueDate.Notices
import OpenWind.Automation.Cascades
import OpenWind.Automation.OncallOnce
import OpenWind.DueDate.Triggers
import OpenWind.Entity.AccessEdits
import OpenWind.Webhooks.Deliveries
import OpenWind.Tenants.StatusCache
import OpenWind.Tenants.ModuleConfig
import OpenWind.Tenants.Deletion
import OpenWind.Workflow.RuledPairs
import OpenWind.Erasure.EventWriters
import OpenWind.Plugins.Dependencies
import OpenWind.Alerts.TicketAlerts
import OpenWind.Automation.CreatedChildren
import OpenWind.Tenants.SandboxProvisioning
import OpenWind.OnCall.StopResume
import OpenWind.Entity.SensitiveValues
import OpenWind.Connectors.PollJobs
import OpenWind.ThirdParty.AttachmentBindings
import OpenWind.Schedule.RuleEdits
import OpenWind.OnCall.TeamMembers
import OpenWind.Files.Bindings
import OpenWind.Files.Bytes
import OpenWind.Retention.OutboxRows
import OpenWind.Connectors.OutboundJobs
import OpenWind.Automation.RuleRuns
import OpenWind.Sla.Breaches
import OpenWind.Workflow.AvailableTransitions
import OpenWind.OnCall.FairRotation
import OpenWind.OnCall.Projection
import OpenWind.OrgDirectory.Cycles
import OpenWind.Entity.InstancePages
import OpenWind.Entity.ConditionText
import OpenWind.Entity.ChildCounts
import OpenWind.ApiKeys.ActingPerson
import OpenWind.ApiKeys.Lineages
import OpenWind.ThirdParty.MentionGrants
import OpenWind.Auth.ClientIp
import OpenWind.Webhooks.SignedParts
import OpenWind.Connectors.PollSchedule
import OpenWind.OrgDirectory.Queries
import OpenWind.Schedule.IsoWeek
import OpenWind.Mfa.GuessBudget
import OpenWind.Entity.LiveLookups
import OpenWind.Plugins.LintedTables
import OpenWind.Schedule.CatchUp
import OpenWind.Entity.Exports
import OpenWind.Entity.ComputedFields
import OpenWind.Automation.PolicyDryRun
import OpenWind.Automation.ChannelFailures
import OpenWind.Automation.WebhookTargets
import OpenWind.Admin.AuditPages
import OpenWind.Erasure.PersonScrub
import OpenWind.OnCall.Resize
import OpenWind.OnCall.MemberPositions
import OpenWind.Automation.CircuitBreaker
import OpenWind.Connectors.DeadLetters
import OpenWind.Tenants.UsageMetering
import OpenWind.Entity.AccessRequests
import OpenWind.Notifications.Handoffs
import OpenWind.Auth.IssuerKeys
import OpenWind.Entity.TenantIsolation
