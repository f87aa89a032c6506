import T7xx.Transition.Runs
import T7xx.Kernel.Primitives
import T7xx.Ring.Slots
import T7xx.Ring.Holdings
import T7xx.Pci.SleepLockRuns
import T7xx.Pci.ReprobeCap
import T7xx.Pci.PmRequest
import T7xx.Pci.SuspendAbort
import T7xx.Pci.LastRequest
import T7xx.Fsm.HandshakeWorks
import T7xx.Fsm.RuntimeData
import T7xx.Fsm.CommandRefs
import T7xx.Fsm.ResetDevice
import T7xx.Fsm.ReprobeStart
import T7xx.Fsm.RuntimeUsage
import T7xx.Fsm.PortEnumInt
import T7xx.Fsm.LateWork
import T7xx.Dpmaif.NapiPoll
import T7xx.Dpmaif.TxBudget
import T7xx.Dpmaif.TxOwnership
import T7xx.Dpmaif.TxAnnounce
import T7xx.Dpmaif.BatBitmap
import T7xx.Dpmaif.BatAnnounce
import T7xx.Dpmaif.NapiContract
import T7xx.Dpmaif.RxSkb
import T7xx.Dpmaif.DoneWorks
import T7xx.Dpmaif.RxMarks
import T7xx.Dpmaif.DataRange
import T7xx.Dpmaif.PitBooks
import T7xx.Dpmaif.StartRecovery
import T7xx.Cldma.SendSkb
import T7xx.Cldma.RxFromQ
import T7xx.Cldma.RxMapping
import T7xx.Cldma.ResumeAddr
import T7xx.Cldma.LateInit
import T7xx.Cldma.RingCalls
import T7xx.Cldma.MappingLedger
import T7xx.Hif.RuntimeRefs
import T7xx.Port.Lifecycles
import T7xx.Port.SeqNumbers
import T7xx.Netdev.Ccmni
import T7xx.Netdev.LinkTable
import T7xx.Netdev.LinkState
import T7xx.Netdev.NapiSwitch
import T7xx.Netdev.TxWake
import T7xx.Dpmaif.StopFlags
import T7xx.Port.ControlMsg
import T7xx.Port.ControlThread
import T7xx.Fsm.CommandFinish
import T7xx.Pci.RoundTrip
import T7xx.Pci.Removal
import T7xx.Dpmaif.TxRelease
import T7xx.Dpmaif.TxRollback
import T7xx.Dpmaif.TxLayout
import T7xx.Dpmaif.TxBurstRuns
import T7xx.Dpmaif.BatCleanup
import T7xx.Dpmaif.BatRelease
import T7xx.Fsm.RequiredFeatures
import T7xx.Dpmaif.RxBatch
import T7xx.Dpmaif.PitSeq
import T7xx.Port.FastbootTx
import T7xx.Dpmaif.RingCount
import T7xx.Port.CtrlTx
import T7xx.Dpmaif.TxThread
import T7xx.Fsm.EventWait
import T7xx.Pci.NoirqResume
import T7xx.Pci.RguRearm
import T7xx.Kernel.Unwind
import T7xx.Dpmaif.SwAllocs
import T7xx.Cldma.StopMasks
import T7xx.Cldma.SwitchCfg
import T7xx.Port.WwanMtu
import T7xx.Fsm.DeviceRtData
import T7xx.Dpmaif.IntrCount
import T7xx.Cldma.GpdLinks
import T7xx.Dpmaif.HwQueues
import T7xx.Cldma.IrqWakeups
import T7xx.Cldma.RxStream
import T7xx.Cldma.TxStream
import T7xx.Pci.AddressTranslation
import T7xx.Fsm.Notifiers
import T7xx.Port.WireMessages
import T7xx.Dpmaif.RxPackets
import T7xx.Dpmaif.DrbStream
