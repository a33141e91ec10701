import InviteSystem.Authentication
import InviteSystem.AuditLog
import InviteSystem.Chrono
import InviteSystem.SingleUse
import InviteSystem.InviteLifetime
import InviteSystem.Sessions
import InviteSystem.AdminRoutes
import InviteSystem.AdminAuthorisation
import InviteSystem.Programs
import InviteSystem.Lldap
import InviteSystem.SubmitInvite
import InviteSystem.Redemption
import InviteSystem.Panics
import InviteSystem.RedemptionSystem
import InviteSystem.DirectoryServer
import InviteSystem.Compensation
import InviteSystem.RedeemedInvites
import InviteSystem.OneAccount
import InviteSystem.SuccessfulRedemption
import InviteSystem.DistinguishedNames
import InviteSystem.PasswordTarget
import InviteSystem.DirectoryPrivacy
import InviteSystem.StoreFrame
import InviteSystem.GeneratedInvites
import InviteSystem.LoginThrottle
import InviteSystem.Passages
import InviteSystem.ProvisioningGate
import InviteSystem.UniquenessChecks
import InviteSystem.NamesUsed
import InviteSystem.AllOrNothing
import InviteSystem.RequestLogs
import InviteSystem.LoggedCodes
import InviteSystem.PasswordRules
import InviteSystem.MutationResults
import InviteSystem.TransportUrls
import InviteSystem.TimestampOrder
import InviteSystem.AdminPrograms
import InviteSystem.Application
import InviteSystem.AdminTraces
import InviteSystem.SignIns
import InviteSystem.AccountProvenance
import InviteSystem.Completion
import InviteSystem.Registers
import InviteSystem.InviteLedger
import InviteSystem.RedemptionTable
import InviteSystem.Onboarding
import InviteSystem.Linearization
import InviteSystem.Restarts
import InviteSystem.Startup
