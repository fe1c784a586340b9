import TrillionniumGame.Runtime.WorldCommand.Cluster
import TrillionniumGame.Runtime.WorldCommand.AttemptEvidence
import TrillionniumGame.Persistence.Outbox
import TrillionniumGame.Persistence.MigrationSafety
import TrillionniumGame.Persistence.RuntimePolicy
import TrillionniumGame.Runtime.WorldTransitionV1.Agreement
import TrillionniumGame.Presence.Subscribers
import TrillionniumGame.Presence.DisconnectAudit
import TrillionniumGame.Token.KeyEpochTimelines
import TrillionniumGame.Runtime.Nakama.StrictJson
import TrillionniumGame.Authority.CommitHistory
import TrillionniumGame.TokenCore.Verification
import TrillionniumGame.TokenLifecycle.Overlap
import TrillionniumGame.Identity.Permanence
import TrillionniumGame.Identity.CommandLog
import TrillionniumGame.Social.GroupAuthority
import TrillionniumGame.Social.CommandLog
import TrillionniumGame.Social.Pagination
import TrillionniumGame.Storage.Integrity
import TrillionniumGame.Token.SignerAtomicity
import TrillionniumGame.Presence.ReconnectReplay
import TrillionniumGame.Presence.ConnectionDrain
import TrillionniumGame.RealtimeWire.FrameReader
import TrillionniumGame.RealtimeWire.Envelopes
import TrillionniumGame.Presence.Rollover
import TrillionniumGame.Canonical.Limits
import TrillionniumGame.PresenceCore.Isolation
import TrillionniumGame.PersistencePg.SessionLaws
import TrillionniumGame.PersistencePg.LeaseRuns
import TrillionniumGame.PersistencePg.AuthorityFencing
import TrillionniumGame.PersistencePg.RetryingCommits
import TrillionniumGame.PersistencePg.CancellationRuns
import TrillionniumGame.PersistencePg.ObjectListing
import TrillionniumGame.TokenJwt.ProviderAgreement
import TrillionniumGame.TokenJwt.JsonSafety
import TrillionniumGame.TokenCore.KeyRings
import TrillionniumGame.Presence.Capacity
import TrillionniumGame.QueryCore.Rendering
import TrillionniumGame.QueryCore.Escaping
import TrillionniumGame.QueryCore.Dates
import TrillionniumGame.Runtime.Nakama.ArchivePages
import TrillionniumGame.Runtime.WorldTransition.Verify
import TrillionniumGame.Server.HttpFraming
