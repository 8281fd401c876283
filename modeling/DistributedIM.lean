import DistributedIM.Lib.Trace
import DistributedIM.Lib.Bytes
import DistributedIM.Lib.Loop
import DistributedIM.Lib.Outcome
import DistributedIM.Lib.NodeList
import DistributedIM.Lib.Text
import DistributedIM.Lib.Interleave
import DistributedIM.Lib.Exclusive
import DistributedIM.Lib.Transaction
import DistributedIM.Lib.Count
import DistributedIM.Lib.Json
import DistributedIM.Lib.Paging
import DistributedIM.Lib.FilePath
import DistributedIM.Lib.Lease
import DistributedIM.Lib.JsonText
import DistributedIM.Lib.Routine
import DistributedIM.Buffer.MsgNode
import DistributedIM.Buffer.SessionReceive
import DistributedIM.Client.DataRetrieve
import DistributedIM.Client.Reassembly
import DistributedIM.Client.ReceiveBounds
import DistributedIM.Client.ChattingMessageBuffer
import DistributedIM.Client.LocalPromotion
import DistributedIM.Client.UserChatThread
import DistributedIM.Client.FileTransferThread
import DistributedIM.Client.ChattingStackPage
import DistributedIM.Client.TextFrames
import DistributedIM.ResourcesServer.FileUploading
import DistributedIM.ResourcesServer.UploadPath
import DistributedIM.Protocol.FileUpload
import DistributedIM.ResourcesServer.BlockAcknowledgement
import DistributedIM.ResourcesServer.StreamSwitching
import DistributedIM.ResourcesServer.Login
import DistributedIM.ChattingServer.Session
import DistributedIM.ChattingServer.OneWriter
import DistributedIM.ChattingServer.DeferredTermination
import DistributedIM.ChattingServer.RedisLock
import DistributedIM.ChattingServer.UserBasicInfo
import DistributedIM.ChattingServer.UserManager
import DistributedIM.ChattingServer.TerminationZone
import DistributedIM.ChattingServer.Login
import DistributedIM.ChattingServer.Logout
import DistributedIM.ChattingServer.LoginReply
import DistributedIM.Protocol.ClusterRuns
import DistributedIM.Protocol.SingleLogin
import DistributedIM.Protocol.DeadSessions
import DistributedIM.Protocol.ConnectionCounter
import DistributedIM.Protocol.CounterUpdates
import DistributedIM.Protocol.RoutingKeys
import DistributedIM.Protocol.HeartBeatPurge
import DistributedIM.Protocol.SharedRouting
import DistributedIM.ChattingServer.ConnectionPool
import DistributedIM.ChattingServer.Database
import DistributedIM.ChattingServer.MySQLConnection
import DistributedIM.ChattingServer.MessageBatch
import DistributedIM.ChattingServer.DatabaseRun
import DistributedIM.ChattingServer.FriendConfirmation
import DistributedIM.ChattingServer.MessageThreads
import DistributedIM.ChattingServer.PrivateChats
import DistributedIM.ChattingServer.FriendTables
import DistributedIM.ChattingServer.FriendLists
import DistributedIM.ChattingServer.Requests
import DistributedIM.ChattingServer.TextChatMsg
import DistributedIM.ChattingServer.FriendRequests
import DistributedIM.Protocol.ActingAs
import DistributedIM.ChattingServer.ChatThreads
import DistributedIM.ChattingServer.ThreadPaging
import DistributedIM.ChattingServer.ChatRecords
import DistributedIM.ChattingServer.RecordPaging
import DistributedIM.ChattingServer.Confidentiality
import DistributedIM.ChattingServer.GrpcDistributedChatting
import DistributedIM.ChattingServer.RequestReplies
import DistributedIM.ChattingServer.OptionalAccess
import DistributedIM.Client.UserAccountManager
import DistributedIM.Protocol.ThreadSync
import DistributedIM.Client.HistoryLoading
import DistributedIM.Client.AccountMaps
import DistributedIM.Protocol.HistorySync
import DistributedIM.GatewayServer.Registration
import DistributedIM.BalanceServer.ServerRegistry
import DistributedIM.BalanceServer.LoadBalancer
import DistributedIM.BalanceServer.UserTokens
import DistributedIM.ChattingServer.IOServicePool
import DistributedIM.ChattingServer.WritePump
import DistributedIM.Client.MessagePointers
import DistributedIM.Client.ListPaging
import DistributedIM.ChattingServer.HealthCheck
import DistributedIM.ResourcesServer.LoginCounter
import DistributedIM.Protocol.BlockArithmetic
import DistributedIM.Client.MsgTextEdit
import DistributedIM.Client.ImageCropperQLabel
import DistributedIM.ChattingServer.RequestQueue
import DistributedIM.ChattingServer.StubWaiters
import DistributedIM.ResourcesServer.Dispatching
import DistributedIM.GatewayServer.Accounts
import DistributedIM.CaptchaServer.VerificationServer
import DistributedIM.Protocol.TokenLogin
import DistributedIM.Protocol.ServerLifecycle
import DistributedIM.Protocol.LiveTexts
import DistributedIM.GatewayServer.HttpServer
import DistributedIM.GatewayServer.Descriptors
