import CellularData.Slot.Obligations
import CellularData.Slot.Teardown
import CellularData.Slot.ActivationGate
import CellularData.Slot.Registration
import CellularData.Slot.LinkReports
import CellularData.Slot.Orphans
import CellularData.Slot.Retries
import CellularData.Slot.SingleConnection
import CellularData.Slot.GateClosing
import CellularData.Slot.ApnChoice
import CellularData.Slot.Activation
import CellularData.Slot.DataState
import CellularData.Machine.Timers
import CellularData.Machine.Answers
import CellularData.Incall.Lifetime
import CellularData.Incall.Records
import CellularData.Monitor.StallDetection
import CellularData.Apn.Transport
import CellularData.Agent.Consistency
import CellularData.Slot.Settings
import CellularData.Slot.DisconnectReason
import CellularData.Slot.ActReport
import CellularData.Slot.StatePush
import CellularData.Slot.SingleDecision
import CellularData.Slot.TeardownRequest
import CellularData.Slot.ReportDelivery
import CellularData.Machine.ActiveFlags
import CellularData.Apn.Atomicity
import CellularData.Machine.Slicing
import CellularData.Slot.MmsReturn
import CellularData.Apn.RetrySelection
import CellularData.Apn.SameApns
import CellularData.Apn.AttachChoice
import CellularData.Apn.RetryDelay
import CellularData.Slot.ApnUpdate
import CellularData.Slot.ActAverages
import CellularData.Slot.ClearAll
import CellularData.Slot.BadMarks
import CellularData.Monitor.StallTrigger
import CellularData.Text.Split
import CellularData.Text.AddressParsers
import CellularData.Machine.IpTypes
import CellularData.Machine.MtuConfig
import CellularData.Machine.ProxyAddress
import CellularData.Machine.SliceDescriptor
import CellularData.Slot.Requests
import CellularData.Machine.Supply
import CellularData.Slot.Orderly
import CellularData.Slot.OrderlyEvents
import CellularData.Slot.StandingOrder
import CellularData.Slot.Capabilities
import CellularData.Slot.Offers
import CellularData.Device.Service
import CellularData.Device.System
import CellularData.Device.Composition
import CellularData.Device.Requests
import CellularData.Device.Switching
import CellularData.Device.Refinement
import CellularData.Agent.Routing
import CellularData.Device.Routing
