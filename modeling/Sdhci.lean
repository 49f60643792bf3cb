import Sdhci.Regs
import Sdhci.Prog
import Sdhci.Poll
import Sdhci.DescTable
import Sdhci.Command
import Sdhci.Footprint
import Sdhci.Outcome
import Sdhci.Termination
import Sdhci.Clock
import Sdhci.Init
import Sdhci.RegisterFile
import Sdhci.BusModes
import Sdhci.StatusRegs
import Sdhci.Divider
import Sdhci.Response
import Sdhci.Watch
import Sdhci.Session
import Sdhci.Protocol
import Sdhci.Interrupt
import Sdhci.ClockProtocol
import Sdhci.Transfer
