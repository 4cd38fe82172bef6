import AuthProfile.Process.Wp
import AuthProfile.Process.Solo
import AuthProfile.Process.Focus
import AuthProfile.Table
import AuthProfile.Replay
import AuthProfile.Escalation
import AuthProfile.Race
import AuthProfile.Administration
import AuthProfile.Security.Redis
import AuthProfile.Security.Jwt
import AuthProfile.Revocation
import AuthProfile.RelayOrder
import AuthProfile.RelayProgress
import AuthProfile.RelayDelivery
import AuthProfile.Messaging.ConsumerLoop
import AuthProfile.AtLeastOnce
import AuthProfile.Library
import AuthProfile.Duplicates
import AuthProfile.LibraryRace
import AuthProfile.Inventory
import AuthProfile.ShelfReads
import AuthProfile.TopFive
import AuthProfile.UpsertTopPosts
import AuthProfile.WireEvents
import AuthProfile.TopicOrder
import AuthProfile.EventTrip
import AuthProfile.Passwords
import AuthProfile.RegistrationRace
import AuthProfile.Seeding
import AuthProfile.ComingOnline
import AuthProfile.Suggestions
import AuthProfile.Recipients
import AuthProfile.Approvals
import AuthProfile.Rest.ProfileController
import AuthProfile.Visitors
import AuthProfile.Rest.Exceptions
import AuthProfile.Rest.RoleAdminController
import AuthProfile.RoleAdmin
import AuthProfile.Process.Server
import AuthProfile.Process.Rely
import AuthProfile.Bystanders
import AuthProfile.Privileges
import AuthProfile.Online
import AuthProfile.Onward
import AuthProfile.LoginAudit
import AuthProfile.Ownership
import AuthProfile.Enrolment
import AuthProfile.Mirror
