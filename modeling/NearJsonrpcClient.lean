import NearJsonrpcClient.Auth
import NearJsonrpcClient.Call
import NearJsonrpcClient.LegacyFallback
import NearJsonrpcClient.Methods.Any
import NearJsonrpcClient.Classification
import NearJsonrpcClient.Reference.Web
import NearJsonrpcClient.Reference.Replies
import NearJsonrpcClient.Statuses
import NearJsonrpcClient.Lib.Tokens
import NearJsonrpcClient.QueryDecode
import NearJsonrpcClient.Lib.Encoding
import NearJsonrpcClient.TxEncoding
import NearJsonrpcClient.Node
import NearJsonrpcClient.Routes
import NearJsonrpcClient.Lib.Handles
import NearJsonrpcClient.Lib.LastWrite
import NearJsonrpcClient.Session
import NearJsonrpcClient.LastWriter
import NearJsonrpcClient.ContentType
import NearJsonrpcClient.Secrets
import NearJsonrpcClient.Credentials
import NearJsonrpcClient.Lib.Shortcut
import NearJsonrpcClient.UnknownBlock
import NearJsonrpcClient.Lib.Pool
import NearJsonrpcClient.AsyncCall
import NearJsonrpcClient.Network
import NearJsonrpcClient.Requests
import NearJsonrpcClient.Outcomes
import NearJsonrpcClient.RemoteCalls
import NearJsonrpcClient.Lib.Contract
import NearJsonrpcClient.Scripts
import NearJsonrpcClient.Submission
import NearJsonrpcClient.Lib.Lineage
import NearJsonrpcClient.Untyped
import NearJsonrpcClient.Workspace
import NearJsonrpcClient.RemoteSubmission
import NearJsonrpcClient.Confidentiality
