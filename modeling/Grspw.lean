import Grspw.Lib.Machine
import Grspw.Lib.Latch
import Grspw.Transmit
import Grspw.Receive
import Grspw.Codec
import Grspw.Overlap
import Grspw.Bus
import Grspw.Lib.Ring
import Grspw.Rings
import Grspw.Reset
import Grspw.Drain
import Grspw.Interrupts
import Grspw.Plugin
import Grspw.TimeCode
import Grspw.Acknowledge
import Grspw.Access
import Grspw.Invariants
import Grspw.Latches
import Grspw.AccessClasses
import Grspw.Footprint
import Grspw.Arming
import Grspw.Relay
import Grspw.PartialPackets
import Grspw.Leftovers
import Grspw.ControlWrite
import Grspw.Reception
import Grspw.Decoder
import Grspw.Encoder
import Grspw.Lib.Groups
import Grspw.ByteOrder
import Grspw.TimeSequence
import Grspw.Lib.Loop
import Grspw.Termination
import Grspw.Projection
import Grspw.WholePlugin
import Grspw.Lib.Progress
import Grspw.Progress
import Grspw.Burst
import Grspw.Stream
import Grspw.Lib.Overlay
import Grspw.HeldBack
import Grspw.LateRelease
import Grspw.TxThread
import Grspw.Polling
import Grspw.Positions
import Grspw.Touches
import Grspw.Lib.Fifo
import Grspw.Queues
import Grspw.Lib.Clock
import Grspw.Clocks
import Grspw.Lib.Cell
import Grspw.PlainRegisters
import Grspw.Lib.Line
import Grspw.InterruptLines
import Grspw.RingOrder
