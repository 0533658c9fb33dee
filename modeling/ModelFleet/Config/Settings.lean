import ModelFleet.Config.Error
import ModelFleet.Json.Decode
import ModelFleet.Net.Address

/-!
# Settings

What a daemon can be told, with the defaults, and the form of all this in documents.
-/

namespace ModelFleet

/-- Where the daemon answers requests from people. -/
structure ServerSettings where
  listen : SocketAddress
  cors : Bool
  deriving DecidableEq

/-- How cycles are run. -/
structure SyncSettings where
  intervalSecs : Nat
  graceSecs : Nat
  gatherTimeoutMillis : Nat
  pageSize : Nat
  modelCollection : String
  configCollection : String
  masterKeyId : String
  deriving DecidableEq

/-- What the node is called. -/
structure ClusterSettings where
  node : String
  deriving DecidableEq

/-- How the daemon writes its log. -/
structure LoggingSettings where
  level : String
  json : Bool
  deriving DecidableEq

structure Settings where
  server : ServerSettings
  sync : SyncSettings
  cluster : ClusterSettings
  logging : LoggingSettings
  deriving DecidableEq

namespace ServerSettings

instance : Inhabited ServerSettings := ⟨⟨⟨.v4 [127, 0, 0, 1], 8080⟩, true⟩⟩

def readAddress : Decoder SocketAddress
  | .str s => match SocketAddress.parse s with
    | some address => .ok address
    | none => .error .badAddress
  | value => .error (.wrongType value.found "socket address")

def toJson (s : ServerSettings) : Json :=
  .object [("listen_addr", .str s.listen.toString), ("enable_cors", .bool s.cors)]

def ofJson : Decoder ServerSettings :=
  Decode.record "ServerConfig" (mk <$> .required "listen_addr" readAddress
    <*> .withDefault "enable_cors" Decode.bool true)

end ServerSettings

namespace SyncSettings

instance : Inhabited SyncSettings :=
  ⟨⟨10, 30, 5000, 100, ".plugins-ml-model", ".plugins-ml-config", "master_key"⟩⟩

/-- The time from one cycle to the next, of at least one second. -/
def intervalMillis (s : SyncSettings) : Nat := max s.intervalSecs 1 * 1000

/-- How long a record that was just changed is left alone. -/
def graceMillis (s : SyncSettings) : Nat := s.graceSecs * 1000

def toJson (s : SyncSettings) : Json :=
  .object [("interval_secs", .int s.intervalSecs), ("grace_period_secs", .int s.graceSecs),
    ("gather_timeout_ms", .int s.gatherTimeoutMillis), ("scan_page_size", .int s.pageSize),
    ("model_collection", .str s.modelCollection), ("config_collection", .str s.configCollection),
    ("master_key_id", .str s.masterKeyId)]

def readCount : Decoder Nat := Decode.natural (2 ^ 64) "u64"

def ofJson : Decoder SyncSettings :=
  let d : SyncSettings := default
  Decode.record "SyncConfig" (mk <$> .withDefault "interval_secs" readCount d.intervalSecs
    <*> .withDefault "grace_period_secs" readCount d.graceSecs
    <*> .withDefault "gather_timeout_ms" readCount d.gatherTimeoutMillis
    <*> .withDefault "scan_page_size" (Decode.natural (2 ^ 64) "usize") d.pageSize
    <*> .withDefault "model_collection" Decode.text d.modelCollection
    <*> .withDefault "config_collection" Decode.text d.configCollection
    <*> .withDefault "master_key_id" Decode.text d.masterKeyId)

end SyncSettings

namespace ClusterSettings

instance : Inhabited ClusterSettings := ⟨⟨"node-0"⟩⟩

def toJson (s : ClusterSettings) : Json := .object [("node_id", .str s.node)]

def ofJson : Decoder ClusterSettings :=
  Decode.record "ClusterConfig" (mk <$> .withDefault "node_id" Decode.text "node-0")

end ClusterSettings

namespace LoggingSettings

instance : Inhabited LoggingSettings := ⟨⟨"info", false⟩⟩

def toJson (s : LoggingSettings) : Json := .object [("level", .str s.level), ("json", .bool s.json)]

def ofJson : Decoder LoggingSettings :=
  Decode.record "LoggingConfig" (mk <$> .withDefault "level" Decode.text "info"
    <*> .withDefault "json" Decode.bool false)

end LoggingSettings

namespace Settings

instance : Inhabited Settings := ⟨⟨default, default, default, default⟩⟩

def toJson (s : Settings) : Json :=
  .object [("server", s.server.toJson), ("sync", s.sync.toJson), ("cluster", s.cluster.toJson),
    ("logging", s.logging.toJson)]

def ofJson : Decoder Settings :=
  Decode.record "DaemonConfig" (mk <$> .withDefault "server" ServerSettings.ofJson default
    <*> .withDefault "sync" SyncSettings.ofJson default
    <*> .withDefault "cluster" ClusterSettings.ofJson default
    <*> .withDefault "logging" LoggingSettings.ofJson default)

/-- Refuses settings with which no daemon can work. -/
def check (s : Settings) : Except DaemonError Unit :=
  if s.sync.pageSize = 0 then .error (.config "sync.scan_page_size must be positive") else .ok ()

end Settings

end ModelFleet
