import NvidiaOot.Analysis.IvcWakeup
import NvidiaOot.Analysis.IvcReset
import NvidiaOot.Analysis.PvaChannels
import NvidiaOot.Analysis.PvaApps
import NvidiaOot.Analysis.PvaUserFences
import NvidiaOot.Analysis.Msgq
import NvidiaOot.Analysis.MemManager
import NvidiaOot.Analysis.IovaMngr
import NvidiaOot.Analysis.PvaBuffers
import NvidiaOot.Analysis.PagePool
import NvidiaOot.Analysis.CommChannel
import NvidiaOot.Analysis.IvmIds
import NvidiaOot.Analysis.NvmapSciIpc
import NvidiaOot.Analysis.IvmImport
import NvidiaOot.Analysis.StreamCopy
import NvidiaOot.Analysis.StreamObjs
import NvidiaOot.Analysis.NvmapSubRange
import NvidiaOot.Analysis.VmapObjs
import NvidiaOot.Analysis.NvmapReadOnly
import NvidiaOot.Analysis.NvmapRefs
import NvidiaOot.Analysis.NvmapRefTree
import NvidiaOot.Analysis.NvmapRw
import NvidiaOot.Analysis.NvmapVma
import NvidiaOot.Analysis.Host1xFence
import NvidiaOot.Analysis.Host1xChannel
import NvidiaOot.Analysis.Host1xContext
import NvidiaOot.Analysis.DceClientIpc
import NvidiaOot.Analysis.RtcpuTrace
import NvidiaOot.Analysis.RtcpuTraceEvent
import NvidiaOot.Analysis.HspMailbox
import NvidiaOot.Analysis.DceIpcMessage
import NvidiaOot.Analysis.DceFsm
import NvidiaOot.Analysis.DceBoot
import NvidiaOot.Analysis.DceSyncCall
import NvidiaOot.Analysis.CaptureIvc
import NvidiaOot.Analysis.DceEventWork
import NvidiaOot.Analysis.VblkData
import NvidiaOot.Analysis.VblkSuspend
import NvidiaOot.Analysis.CaptureControl
import NvidiaOot.Analysis.IspUnpins
import NvidiaOot.Analysis.CaptureBuffers
import NvidiaOot.Analysis.IvcCounters
import NvidiaOot.Analysis.IvcRegions
import NvidiaOot.Analysis.PvaCircularBuffers
import NvidiaOot.Analysis.PvaFrameBounds
import NvidiaOot.Analysis.MttcanRx
import NvidiaOot.Analysis.VblkIoctl
import NvidiaOot.Analysis.AppRelocations
import NvidiaOot.Analysis.AppSymbols
import NvidiaOot.Analysis.AppBranches
import NvidiaOot.Analysis.PvaL2sram
import NvidiaOot.Analysis.PvaVpuAssembly
import NvidiaOot.Analysis.PvaBlockSurfaces
import NvidiaOot.Analysis.PvaHwseqBlob
import NvidiaOot.Analysis.PvaParams
import NvidiaOot.Analysis.PvaSubmitTasks
import NvidiaOot.Analysis.AppBranches
import NvidiaOot.Analysis.CamFsync
