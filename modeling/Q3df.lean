import Q3df.Library.Transition
import Q3df.Client.Quake3
import Q3df.Client.Q3Event
import Q3df.Client.VmMain
import Q3df.Client.ApiAsyncExecuter
import Q3df.Client.ExecuterShutdown
import Q3df.Client.PluginShutdown
import Q3df.Client.Q3User
import Q3df.Client.ProxyWorld
import Q3df.Client.UserManagementPlugin
import Q3df.Client.UserCommandsPlugin
import Q3df.Client.PluginEvents
import Q3df.Client.LoginIsolation
import Q3df.Client.LoginAgreement
import Q3df.Client.CommandReplies
import Q3df.Client.GameImport
import Q3df.Client.Q3SysCall
import Q3df.Client.SysCalls
import Q3df.Library.DoublingMask
import Q3df.Library.Memory
import Q3df.Client.Vm
import Q3df.Client.ImageBounds
import Q3df.Client.Q3VmCreate
import Q3df.Client.Q3VmRun
import Q3df.Client.DataMask
import Q3df.Library.SignedWord
import Q3df.Client.VmStacks
import Q3df.Client.CallbackOrder
import Q3df.Client.QueueLocks
import Q3df.Client.InfoMap
import Q3df.Server.ClientList
import Q3df.Server.ServerInfo
import Q3df.Library.Printf
import Q3df.Server.ConsoleTty
import Q3df.Server.Q3dfEnv
import Q3df.Server.Commands
import Q3df.Server.Q3dfApiImpl
import Q3df.Server.ServerConn
import Q3df.Server.ClientText
import Q3df.Server.CommandClients
import Q3df.Server.ServerIdentity
import Q3df.Client.SlotView
import Q3df.Client.PluginHandlers
import Q3df.Client.ProxyRun
import Q3df.Client.SlotEvents
import Q3df.Client.SessionPairs
import Q3df.Client.UserinfoCache
import Q3df.Client.CodeShape
import Q3df.Client.NestedExec
import Q3df.Client.ExecTransparency
import Q3df.Client.SegmentLoad
import Q3df.Client.DataSegment
import Q3df.Client.CodeSegment
import Q3df.Server.HandshakeKeys
import Q3df.Client.StepWorlds
import Q3df.Client.LoginRestore
import Q3df.Server.MysqlPool
import Q3df.Client.ServerRecordsPlugin
import Q3df.Server.ConsoleLock
import Q3df.Client.BlockCopy
import Q3df.Client.TrapForwarding
import Q3df.Client.IntegerOpcodes
import Q3df.Client.Q3VmRestart
import Q3df.Client.InfoRefusal
import Q3df.Client.UserBuffers
import Q3df.Client.TokenizerMemory
import Q3df.Client.TokenizerQuoting
import Q3df.Library.Decimal
import Q3df.Server.MstimeToDftime
import Q3df.Client.RepeatedLogin
import Q3df.Server.CommandFailures
import Q3df.Library.Buffer
import Q3df.Server.ConsoleWin32
import Q3df.Server.ConsoleHistory
import Q3df.Server.LineEditor
import Q3df.Server.PromptVisibility
import Q3df.Server.ColorPrint
import Q3df.Client.ReplyStream
import Q3df.Server.ConnectionClients
import Q3df.Library.Varint
import Q3df.Library.Crc
import Q3df.Rpc.HashCrc32
import Q3df.Rpc.Conn
import Q3df.Rpc.Frames
import Q3df.Rpc.CodedStream
import Q3df.Rpc.CodedOutput
import Q3df.Rpc.WireFormat
import Q3df.Rpc.WirePb
import Q3df.Rpc.Wire
import Q3df.Rpc.Service
import Q3df.Rpc.Registry
import Q3df.Rpc.Call
import Q3df.Rpc.Session
import Q3df.Remote.ProxyCalls
import Q3df.Library.Screen
import Q3df.Server.TtyInput
import Q3df.Server.TtyScreen
import Q3df.Server.DaemonMain
