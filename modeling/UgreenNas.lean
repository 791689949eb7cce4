import UgreenNas.Effect.Proc
import UgreenNas.Effect.Loop
import UgreenNas.Fan.Fallback
import UgreenNas.Fan.Hold
import UgreenNas.Led.Cs201x.Discipline
import UgreenNas.Led.Cs201x.Holder
import UgreenNas.Led.Mcu.Transact
import UgreenNas.Led.Service.Confirmed
import UgreenNas.Led.Service.Rpc
import UgreenNas.Disk.Calibration
import UgreenNas.Disk.Conflicts
import UgreenNas.Disk.Exclusive
import UgreenNas.Disk.Resolve
import UgreenNas.Disk.Revision
import UgreenNas.Led.Service.Legal
import UgreenNas.Fan.Registers
import UgreenNas.Disk.Bijection
import UgreenNas.Disk.Coalesce
import UgreenNas.Fan.Attributes
import UgreenNas.Fan.DirectWrite
import UgreenNas.Fan.Floor
import UgreenNas.Disk.Calibrated
import UgreenNas.Disk.CalibrationPorts
import UgreenNas.Fan.Comments
import UgreenNas.Fan.Numbers
import UgreenNas.Fan.Stock
import UgreenNas.Effect.Finally
import UgreenNas.Startup.Execute
import UgreenNas.Startup.Marks
import UgreenNas.Startup.Truthful
import UgreenNas.Effect.Asks
import UgreenNas.Startup.Acknowledged
import UgreenNas.Json.Print
import UgreenNas.Json.Sound
import UgreenNas.Startup.Json
import UgreenNas.Startup.Persist
import UgreenNas.Core.Compatible
import UgreenNas.Effect.History
import UgreenNas.Led.N76.Confined
import UgreenNas.Led.N76.FailStop
import UgreenNas.Core.HardwareCli
import UgreenNas.Core.LedExecute
import UgreenNas.Core.Parsed
import UgreenNas.Core.Requests
import UgreenNas.Core.Selected
import UgreenNas.Effect.Along
import UgreenNas.Fan.Sense
import UgreenNas.Led.Cs201x.Restored
import UgreenNas.Package.Dependencies
import UgreenNas.Led.Sysfs.Driver
import UgreenNas.Led.Sysfs.Executable
import UgreenNas.Led.Sysfs.Request
import UgreenNas.Network.Wol
import UgreenNas.Power.RtcTransaction
import UgreenNas.Led.Interpreter
import UgreenNas.Network.Selection
import UgreenNas.Network.Verified
import UgreenNas.Startup.Concurrent
import UgreenNas.SuperIo.Commands
import UgreenNas.Wake.Confirmed
import UgreenNas.Plugins.Released
import UgreenNas.Plugins.Authorised
