import UnifiedService.Library.Table
import UnifiedService.Library.Journal
import UnifiedService.Library.Machine
import UnifiedService.Library.Transaction
import UnifiedService.Library.ReadCommitted
import UnifiedService.Rewards.Vocabulary
import UnifiedService.Rewards.Wallet
import UnifiedService.Rewards.WalletProperties
import UnifiedService.Rewards.Programs
import UnifiedService.Rewards.Evaluator
import UnifiedService.Rewards.Engine
import UnifiedService.Rewards.ReversalProperties
import UnifiedService.Rewards.LifetimeProperties
import UnifiedService.Rewards.ValueProperties
import UnifiedService.Rewards.TranspositionProperties
import UnifiedService.Rewards.GrantProperties
import UnifiedService.Rewards.RoundTripProperties
import UnifiedService.Rewards.PeriodKeyProperties
import UnifiedService.Rewards.ThresholdProperties
import UnifiedService.Rewards.TimeWindowProperties
import UnifiedService.Rewards.StorageProperties
import UnifiedService.Rewards.PlaceProperties
import UnifiedService.Rewards.SweepProperties
import UnifiedService.Access.EscalationProperties
import UnifiedService.Access.RemovalProperties
import UnifiedService.Access.MintingProperties
import UnifiedService.Access.RoleNameProperties
import UnifiedService.Access.GrantTenantProperties
import UnifiedService.Access.DestinationCapProperties
import UnifiedService.Access.PasswordProperties
import UnifiedService.Access.LoginLockProperties
import UnifiedService.Access.ActivationProperties
import UnifiedService.Access.ReissueProperties
import UnifiedService.Library.Crew
import UnifiedService.Library.Instant
import UnifiedService.Outbound.LeaseProperties
import UnifiedService.Outbound.DeliveryProperties
import UnifiedService.Outbound.KeyProperties
import UnifiedService.Sync.SlotProperties
import UnifiedService.Inbound.RouteProperties
import UnifiedService.Inbound.WebhookProperties
import UnifiedService.Inbound.SeparationProperties
import UnifiedService.Budgets
import UnifiedService.Projection.OfferProperties
import UnifiedService.Projection.MarkProperties
import UnifiedService.Projection.ReceiptProperties
import UnifiedService.Projection.IdempotenceProperties
import UnifiedService.Projection.CounterProperties
import UnifiedService.Projection.ParentProperties
import UnifiedService.Projection.CommentProperties
import UnifiedService.Projection.PostProperties
import UnifiedService.Projection.StatusProperties
import UnifiedService.Leases
import UnifiedService.Listing.PageProperties
import UnifiedService.Threads.VisibilityProperties
import UnifiedService.Threads.EvidenceProperties
import UnifiedService.Threads.LinkProperties
import UnifiedService.Usage.FlushProperties
import UnifiedService.Usage.AccountingProperties
import UnifiedService.Connections.ChannelProperties
import UnifiedService.Audit.VersionProperties
import UnifiedService.Library.Solo
import UnifiedService.Sync.Walk
import UnifiedService.Sync.PipelineProperties
import UnifiedService.Sync.WalkProperties
import UnifiedService.Sync.WalkRunProperties
import UnifiedService.Sync.WalkBudgetProperties
import UnifiedService.Threads.Replies
import UnifiedService.Threads.ReplyProperties
import UnifiedService.Workers.Poller
import UnifiedService.Workers.PollerProperties
import UnifiedService.Access.SessionCapProperties
import UnifiedService.Features.Service
import UnifiedService.Features.LifecycleProperties
import UnifiedService.Features.AuditProperties
import UnifiedService.Features.ExpiryProperties
import UnifiedService.Library.Tickets
import UnifiedService.Connections.OauthStates
import UnifiedService.Connections.OauthStateProperties
