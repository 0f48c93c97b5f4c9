import GrokingClawId.Lib.Text
import GrokingClawId.Lib.Slices
import GrokingClawId.Lib.Codec
import GrokingClawId.Lib.HashChain
import GrokingClawId.Lib.Interrupted
import GrokingClawId.Lib.WriteOnce
import GrokingClawId.Lib.Run
import GrokingClawId.Lib.SharedCell
import GrokingClawId.Lib.ParentLinks
import GrokingClawId.Core.Crypto
import GrokingClawId.Core.Panics
import GrokingClawId.Lib.Json
import GrokingClawId.Lib.JsonOrder
import GrokingClawId.Lib.JsonText
import GrokingClawId.Core.Models
import GrokingClawId.Core.Audit
import GrokingClawId.Daemon.Chain
import GrokingClawId.Daemon.Edits
import GrokingClawId.Daemon.AuditWriters
import GrokingClawId.Daemon.Anchor
import GrokingClawId.Daemon.AnchorRuns
import GrokingClawId.Lib.MerkleTree
import GrokingClawId.Daemon.MerkleRoots
import GrokingClawId.Daemon.AnchorBatches
import GrokingClawId.Lib.SlidingWindow
import GrokingClawId.Lib.Semver
import GrokingClawId.Lib.Listing
import GrokingClawId.Lib.MissingDirs
import GrokingClawId.Lib.AccessLog
import GrokingClawId.Lib.Spreading
import GrokingClawId.Proxy.Scope
import GrokingClawId.Proxy.RateLimit
import GrokingClawId.Proxy.Server
import GrokingClawId.Proxy.Reach
import GrokingClawId.Proxy.ScopeAgreement
import GrokingClawId.Proxy.Oauth
import GrokingClawId.Core.HttpSig
import GrokingClawId.Core.HttpSigRoundTrip
import GrokingClawId.Core.HttpSigText
import GrokingClawId.Core.HttpSigSlices
import GrokingClawId.Core.WsMessage
import GrokingClawId.Core.Pem
import GrokingClawId.Core.PemMarkers
import GrokingClawId.Proxy.Signer
import GrokingClawId.Core.Revocation
import GrokingClawId.Core.RevocationRegistry
import GrokingClawId.Lib.Separated
import GrokingClawId.Core.Challenge
import GrokingClawId.Core.ChallengeBytes
import GrokingClawId.Core.ChallengeMinimum
import GrokingClawId.Core.HttpSigBinds
import GrokingClawId.Core.SignedPayloads
import GrokingClawId.Cli.CanonicalJson
import GrokingClawId.Cli.CardPayload
import GrokingClawId.Cli.Issue
import GrokingClawId.Cli.AuditList
import GrokingClawId.Cli.Verify
import GrokingClawId.Cli.Rotate
import GrokingClawId.Cli.RotateFiles
import GrokingClawId.Cli.Lifecycle
import GrokingClawId.Cli.Delegate
import GrokingClawId.Cli.Revoke
import GrokingClawId.Cli.Challenge
import GrokingClawId.Cli.Sign
import GrokingClawId.Cli.Stripping
import GrokingClawId.Cli.Guard
import GrokingClawId.Cli.GuardSession
import GrokingClawId.Cli.GuardAgreement
import GrokingClawId.Cli.GuardLockout
import GrokingClawId.Cli.GuardInit
import GrokingClawId.Cli.GuardScheme
import GrokingClawId.Cli.GuardExpiry
import GrokingClawId.Daemon.Supervisor
import GrokingClawId.Daemon.AuditQuery
import GrokingClawId.Daemon.AuditFilter
import GrokingClawId.Daemon.A2aAuth
import GrokingClawId.Daemon.A2aTasks
import GrokingClawId.Daemon.A2a
import GrokingClawId.Daemon.A2aRuns
import GrokingClawId.Daemon.A2aTerminal
import GrokingClawId.Daemon.A2aSigner
import GrokingClawId.Daemon.OauthStore
import GrokingClawId.Daemon.OauthCascade
import GrokingClawId.Daemon.Host
import GrokingClawId.Daemon.MainLoop
import GrokingClawId.Daemon.RestartBudget
import GrokingClawId.Daemon.DelegationExpiry
import GrokingClawId.Daemon.Updates
import GrokingClawId.Daemon.UpdateRuns
import GrokingClawId.Daemon.Sidecars
import GrokingClawId.Daemon.OauthFlow
import GrokingClawId.Daemon.Oauth
import GrokingClawId.Daemon.OauthMethods
import GrokingClawId.Daemon.OauthStoreRuns
import GrokingClawId.Daemon.OauthRuns
import GrokingClawId.Lib.FileTree
import GrokingClawId.Lib.Disk
import GrokingClawId.Core.License
import GrokingClawId.Proxy.OauthTasks
import GrokingClawId.Lib.LastWrite
import GrokingClawId.Proxy.OauthBindings
import GrokingClawId.Proxy.AuditLog
import GrokingClawId.Daemon.OauthRenewal
import GrokingClawId.Daemon.OauthAddress
import GrokingClawId.Proxy.OauthExpiry
import GrokingClawId.Daemon.OauthReach
import GrokingClawId.Daemon.OauthDelegation
import GrokingClawId.Daemon.OauthRevocation
import GrokingClawId.Daemon.AgentFiles
import GrokingClawId.Daemon.Templates
import GrokingClawId.Daemon.TemplateStore
import GrokingClawId.Daemon.TemplateAtomic
import GrokingClawId.Daemon.TemplateCopy
import GrokingClawId.Daemon.TemplateOverlap
import GrokingClawId.Daemon.TemplateAccess
import GrokingClawId.Daemon.TemplateConfined
import GrokingClawId.Daemon.Birth
import GrokingClawId.Daemon.BirthFiles
import GrokingClawId.Daemon.BirthMesh
import GrokingClawId.Daemon.BirthReached
import GrokingClawId.Daemon.BirthPayload
import GrokingClawId.Daemon.BirthConfined
import GrokingClawId.Daemon.BirthIdentity
import GrokingClawId.Daemon.BirthFailures
import GrokingClawId.Daemon.BirthAnswers
import GrokingClawId.Daemon.BirthSigned
import GrokingClawId.Daemon.BirthRuns
import GrokingClawId.Daemon.KeyFiles
import GrokingClawId.Daemon.Ttl
import GrokingClawId.Daemon.Expiries
import GrokingClawId.Core.Iota
import GrokingClawId.Daemon.AnchorSubmission
import GrokingClawId.Daemon.AnchorPending
import GrokingClawId.Proxy.SignatureCover
import GrokingClawId.Daemon.Mesh
import GrokingClawId.Daemon.Ipc
import GrokingClawId.Daemon.IpcAnswers
import GrokingClawId.Daemon.IpcCalls
import GrokingClawId.Daemon.A2aHttp
import GrokingClawId.Lib.Percent
import GrokingClawId.Daemon.OauthRequests
import GrokingClawId.Daemon.SingleInstance
import GrokingClawId.Cli.Wallet
