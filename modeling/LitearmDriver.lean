import LitearmDriver.Executor
import LitearmDriver.LicenseRecord
import LitearmDriver.AxisCount
import LitearmDriver.CachedFrame
import LitearmDriver.FeedbackAge
import LitearmDriver.Noninterference
import LitearmDriver.CommandSurface
import LitearmDriver.Configuration
import LitearmDriver.Interlock
import LitearmDriver.SessionRelease
import LitearmDriver.MotionAuthority
import LitearmDriver.FiniteNumbers
import LitearmDriver.IntegerArguments
import LitearmDriver.JointAddressing
import LitearmDriver.ZeroGravity
import LitearmDriver.JointStates
import LitearmDriver.StatusSnapshots
import LitearmDriver.DiagnosticsAgreement
import LitearmDriver.LogDirectory
import LitearmDriver.Waypoints
import LitearmDriver.JointArrays
import LitearmDriver.Interaction.Monitor
import LitearmDriver.SessionProtocol
import LitearmDriver.Interaction.Serial
import LitearmDriver.Serializability
import LitearmDriver.TransitionCode
import LitearmDriver.ParameterScope
import LitearmDriver.FreshStart
import LitearmDriver.OptIns
import LitearmDriver.Interaction.Inevitable
import LitearmDriver.Launch
import LitearmDriver.Interaction.Knowledge
import LitearmDriver.Settings
import LitearmDriver.Pause
import LitearmDriver.Watching
import LitearmDriver.PrintedTables
import LitearmDriver.Interaction.Autonomy
import LitearmDriver.Coexistence
