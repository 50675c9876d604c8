/-
# Clients and connectors

`JsonRpcClientConnector`, `JsonRpcInnerClient` and `JsonRpcClient` of `lib.rs`: the ways to
connect a client, its header map, and its `Debug` implementation.  A handle shares its
inner client with its clones and owns its header map; nothing mutates an inner client, so
sharing one is the same as having a copy of it.
-/
import NearJsonrpcClient.Http

namespace NearJsonrpcClient

/-! ## `Debug` builders of the standard library -/

namespace Fmt

/-- A line of an alternate rendering, indented by one level. -/
def indent (s : String) : String := "    " ++ s.replace "\n" "\n    "

/-- `Formatter::debug_tuple`. -/
def debugTuple (alternate : Bool) (name : String) (fields : List String) : String :=
  if alternate then
    name ++ "(\n" ++ String.join (fields.map fun field => indent field ++ ",\n") ++ ")"
  else
    name ++ "(" ++ ", ".intercalate fields ++ ")"

/-- `Formatter::debug_struct`. -/
def debugStruct (alternate : Bool) (name : String) (fields : List (String × String)) : String :=
  if alternate then
    name ++ " \x7b\n"
      ++ String.join (fields.map fun field => indent (field.1 ++ ": " ++ field.2) ++ ",\n") ++ "\x7d"
  else
    name ++ " \x7b " ++ ", ".intercalate (fields.map fun field => field.1 ++ ": " ++ field.2) ++ " \x7d"

end Fmt

variable [Reqwest]

/-- NEAR JSON RPC client connector. -/
structure JsonRpcClientConnector where
  client : WebClient

structure JsonRpcInnerClient where
  serverAddr : String
  client : WebClient

/-- A NEAR JSON RPC Client. -/
structure JsonRpcClient where
  inner : JsonRpcInnerClient
  headers : HeaderMap

/-- Return a client that connects to the specified server. -/
def JsonRpcClientConnector.connect (self : JsonRpcClientConnector) (serverAddr : String) :
    JsonRpcClient :=
  { inner := { serverAddr := serverAddr, client := self.client }
    headers := Http.emptyMap }

namespace JsonRpcClient

/-- Manually create a new client connector. -/
def newClient : JsonRpcClientConnector :=
  let headers := Http.insert Http.emptyMap HeaderName.contentType
    (Http.fromStatic "application/json")
  { client := Reqwest.buildWithDefaultHeaders headers }

/-- `DEFAULT_CONNECTOR`. -/
def defaultConnector : JsonRpcClientConnector := newClient

/-- Connect to a JSON RPC server using the default connector. -/
def connect (serverAddr : String) : JsonRpcClient := defaultConnector.connect serverAddr

/-- `JsonRpcClient::with`: create a new client constructor using a custom web client. -/
def withClient (client : WebClient) : JsonRpcClientConnector := { client := client }

/-- Get the server address the client connects to. -/
def serverAddr (self : JsonRpcClient) : String := self.inner.serverAddr

/-- `fmt::Debug for JsonRpcClient`. -/
def debug (alternate : Bool) (self : JsonRpcClient) : String :=
  Fmt.debugStruct alternate "JsonRpcClient"
    [("server_addr", Http.debugStr self.inner.serverAddr),
      ("headers", Http.debugMap alternate self.headers),
      ("client", Reqwest.debugClient alternate self.inner.client)]

end JsonRpcClient

end NearJsonrpcClient
