import Stm8Flash.Lib.Image
import Stm8Flash.Lib.Drv
import Stm8Flash.Lib.Word
import Stm8Flash.Lib.Stdio
import Stm8Flash.Lib.Glob
import Stm8Flash.Device
import Stm8Flash.Target
import Stm8Flash.Programming
import Stm8Flash.Ihex.Read
import Stm8Flash.Ihex.Record
import Stm8Flash.Ihex.Decode
import Stm8Flash.Ihex.Write
import Stm8Flash.Ihex.Bounds
import Stm8Flash.Ihex.Conform
import Stm8Flash.Ihex.LineEnds
import Stm8Flash.Srec.Read
import Stm8Flash.Srec.Line
import Stm8Flash.Srec.Bounds
import Stm8Flash.Srec.Record
import Stm8Flash.Srec.Place
import Stm8Flash.Srec.Accept
import Stm8Flash.Srec.WellFormed
import Stm8Flash.Srec.Write
import Stm8Flash.Srec.Conform
import Stm8Flash.Srec.Sound
import Stm8Flash.Srec.Detect
import Stm8Flash.Ihex.Sound
import Stm8Flash.Stlinkv2.Model
import Stm8Flash.Stlinkv2.Commands
import Stm8Flash.Stlinkv2.Range
import Stm8Flash.Stlinkv2.Transfers
import Stm8Flash.Stlinkv2.Sends
import Stm8Flash.Stlinkv2.Polling
import Stm8Flash.Espstlink.Model
import Stm8Flash.Espstlink.Range
import Stm8Flash.Changed
import Stm8Flash.Stlinkv2.Trace
import Stm8Flash.Espstlink.Trace
import Stm8Flash.DiffWrite
import Stm8Flash.Stlink.Model
import Stm8Flash.Stlink.Commands
import Stm8Flash.Stlink.Range
import Stm8Flash.Stlink.Addresses
import Stm8Flash.Stlink.Padding
import Stm8Flash.Spans
import Stm8Flash.Readers
import Stm8Flash.Espstlink.Failures
import Stm8Flash.Espstlink.Serial
import Stm8Flash.Espstlink.Sound
import Stm8Flash.Espstlink.Connect
import Stm8Flash.Main.Model
import Stm8Flash.Main.Verify
import Stm8Flash.Main.Area
import Stm8Flash.Main.Buffers
import Stm8Flash.Main.Report
import Stm8Flash.Waits
import Stm8Flash.Stlink.Read
import Stm8Flash.Stlink.Retry
import Stm8Flash.ReadRange
import Stm8Flash.Locks
import Stm8Flash.Stlink.Locks
import Stm8Flash.Espstlink.Locks
import Stm8Flash.Relock
import Stm8Flash.Pieces
import Stm8Flash.Stlink.Fetch
import Stm8Flash.Stlinkv2.Fetch
import Stm8Flash.Stlinkv2.Rounds
import Stm8Flash.Espstlink.Fetch
import Stm8Flash.Espstlink.Partial
import Stm8Flash.Delivery
import Stm8Flash.Main.Usb
import Stm8Flash.Main.Part
import Stm8Flash.Srec.RoundTrip
import Stm8Flash.Effects
import Stm8Flash.Interrupt
import Stm8Flash.Stlinkv2.Effects
import Stm8Flash.Stlink.Effects
import Stm8Flash.Espstlink.Effects
import Stm8Flash.Stlinkv2.Interrupt
import Stm8Flash.Stlink.Interrupt
import Stm8Flash.Main.Backend
import Stm8Flash.Main.Read
import Stm8Flash.Main.Interrupt
import Stm8Flash.Main.Unlock
import Stm8Flash.Main.History
import Stm8Flash.Lib.Getopt
import Stm8Flash.Main.CommandLine
import Stm8Flash.Lib.Sim
import Stm8Flash.Espstlink.Interface
import Stm8Flash.Espstlink.Wire
import Stm8Flash.Main.Session
import Stm8Flash.Stlink.Open
import Stm8Flash.Stlinkv2.Open
import Stm8Flash.Main.Request
import Stm8Flash.Main.Program
import Stm8Flash.Main.Outcome
import Stm8Flash.Main.Listing
import Stm8Flash.Lib.Parts
import Stm8Flash.Main.Apart
