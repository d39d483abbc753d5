import TeamspeakNotifications.Properties.ShellRoundTrip
import TeamspeakNotifications.Properties.MoveRoles
import TeamspeakNotifications.Properties.MembershipReplay
import TeamspeakNotifications.Properties.StringLedger
import TeamspeakNotifications.Properties.OwnActions
import TeamspeakNotifications.Properties.DisplayConnections
import TeamspeakNotifications.Properties.Connecting
import TeamspeakNotifications.Properties.UrgencySeparation
import TeamspeakNotifications.Properties.UndefinedResults
import TeamspeakNotifications.Properties.ConnectionIsolation
import TeamspeakNotifications.Properties.TextMessages
import TeamspeakNotifications.Properties.MoveAgreement
import TeamspeakNotifications.Properties.SingleReport
import TeamspeakNotifications.Properties.ChannelTruth
import TeamspeakNotifications.Properties.FocusGate
import TeamspeakNotifications.Properties.Startup
import TeamspeakNotifications.Properties.OptionSafety
import TeamspeakNotifications.Properties.TextAssembly
import TeamspeakNotifications.Properties.IniRefinement
import TeamspeakNotifications.Properties.IniEntries
import TeamspeakNotifications.Properties.IniRoundTrip
import TeamspeakNotifications.Properties.IniLines
import TeamspeakNotifications.Properties.ConfigFile
import TeamspeakNotifications.Properties.StringOwnership
import TeamspeakNotifications.Properties.OverlappingConnections
import TeamspeakNotifications.Properties.Delivery
import TeamspeakNotifications.Properties.AnySchedule
import TeamspeakNotifications.Properties.Returning
import TeamspeakNotifications.Properties.FailureLog
