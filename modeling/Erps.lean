import Erps.Properties.PortMap
import Erps.Properties.Failures
import Erps.Properties.Commands
import Erps.Properties.LocalBlock
import Erps.Properties.TimerPriority
import Erps.Properties.LoopFree
import Erps.Properties.PortSync
import Erps.Properties.RoundTrip
import Erps.Properties.FailedPosts
import Erps.Properties.GuardPeriod
import Erps.Properties.LateExpiry
import Erps.Properties.Stopped
import Erps.Properties.Election
import Erps.Properties.Roles
import Erps.Properties.Startup
import Erps.Properties.Flushing
import Erps.Properties.FailedShut
import Erps.Properties.RemoteSwitch
import Erps.Properties.Bursts
import Erps.Properties.Homecoming
import Erps.Properties.AllOrNothing
import Erps.Properties.Foreign
import Erps.Properties.Lookups
import Erps.Properties.ShellNumbers
import Erps.Properties.WireRefines
import Erps.Properties.PortsAgree
import Erps.Properties.LateFrames
import Erps.Properties.IdleRing
import Erps.Properties.SwitchOver
import Erps.Properties.NonRevertive
import Erps.Properties.RingReturn
import Erps.Properties.SwitchCompletes
import Erps.Properties.Recovery
import Erps.Properties.Isolation
import Erps.Properties.RingsAgree
