import Solar48.BoundedMem
import Solar48.BuildArgc
import Solar48.BulkFraming
import Solar48.ByteMem
import Solar48.Calendar
import Solar48.CommandCheck
import Solar48.ConsoleDate
import Solar48.ControlAnswer
import Solar48.ControlLimits
import Solar48.ControlReplies
import Solar48.ControlRun
import Solar48.ControlTransfer
import Solar48.Crc
import Solar48.CrcBurst
import Solar48.CursorCopy
import Solar48.Decimal
import Solar48.DownCounter
import Solar48.DriverReads
import Solar48.Ep2000
import Solar48.Ep2000Record
import Solar48.ErrorLog
import Solar48.HalI2c
import Solar48.HalI2cBytes
import Solar48.Hexadecimal
import Solar48.Json
import Solar48.LongArgument
import Solar48.Memory
import Solar48.OledPrintf
import Solar48.OledText
import Solar48.PagedImage
import Solar48.Process
import Solar48.ReceptionError
import Solar48.ReportConsole
import Solar48.ReportJson
import Solar48.ReportStatus
import Solar48.Reports
import Solar48.RingBuffer
import Solar48.Rs485Bounds
import Solar48.Rs485EndToEnd
import Solar48.Rs485Frame
import Solar48.Rs485Noise
import Solar48.Rs485Request
import Solar48.Rs485Response
import Solar48.Rs485Slave
import Solar48.Rs485SlaveRefusal
import Solar48.Rs485Truncation
import Solar48.Rs485WriteResponse
import Solar48.Rtc
import Solar48.RtcAdvance
import Solar48.RtcDecode
import Solar48.RtcRead
import Solar48.RtcSet
import Solar48.RtcWeekday
import Solar48.ShiftRegister
import Solar48.Ssd1306
import Solar48.Ssd1306Panel
import Solar48.StackPeak
import Solar48.StepSystem
import Solar48.StringNumber
import Solar48.SysQueue
import Solar48.SysQueueCall
import Solar48.SysQueueFifo
import Solar48.SysQueueInvariant
import Solar48.SysQueueStart
import Solar48.Template
import Solar48.Timeout
import Solar48.TimeoutPeriod
import Solar48.Tokens
import Solar48.Tracer
import Solar48.TracerRecord
import Solar48.Types
import Solar48.U64toa
import Solar48.Uart1Completion
import Solar48.Uart1Master
import Solar48.Uart2Slave
import Solar48.UsbCommand
import Solar48.UsbDevice
import Solar48.UsbStrings
import Solar48.UsbTransmit
