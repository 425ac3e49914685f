import Parley.Config.Secret
import Parley.Retry.Policy
import Parley.Wire.Request

/-!
Contract: the settings of a client as a configuration file holds them.

Everything but the version and the key has a default, and keys that are not known
are refused.

Owns: `Settings`, `Defaults`, `Connection`, their codecs and renderings.
Does not own: which settings are admissible, see `Config.Validation`.
-/

namespace Parley.Config

open Parley.Numeric (Single)
open Parley.Schema (Codec Record)
open Parley.Wire (Request)

/-- The only version of configuration files. -/
def supportedVersion : String := "0.1"

def publicBaseUrl : String :=
  "https://open.bigmodel.cn/api/paas/v3/model-api"

/-- The parameters of calls that set none of their own. -/
structure Defaults where
  model : String
  temperature : Option Single
  topP : Option Single
deriving DecidableEq

namespace Defaults

/-- The parameters of files that set none. -/
def standard : Defaults :=
  ⟨Wire.defaultModel, some Wire.defaultTemperature, some Wire.defaultTopP⟩

def record : Record Defaults where
  name := "DefaultParams"
  blank := standard
  closed := true
  members := [
    .plain "model" .defaulted .plainText (·.model)
      fun model defaults => { defaults with model },
    .plain "temperature" .defaulted (.optional .single) (·.temperature)
      fun temperature defaults => { defaults with temperature },
    .plain "top_p" .defaulted (.optional .single) (·.topP)
      fun topP defaults => { defaults with topP }]

def codec : Codec Defaults := record.codec

/-- The request with these parameters and no turns. -/
def toRequest (defaults : Defaults) : Request :=
  ⟨defaults.model, defaults.temperature, defaults.topP, []⟩

end Defaults

/-- How long to wait for the service, in milliseconds. -/
structure Connection where
  connectTimeoutMs : UInt64
  requestTimeoutMs : UInt64
deriving DecidableEq, Repr

namespace Connection

/-- Ten seconds to connect and one minute for an answer. -/
def standard : Connection :=
  ⟨10000, 60000⟩

def record : Record Connection where
  name := "ConnectionConfig"
  blank := standard
  closed := true
  members := [
    .plain "connect_timeout_ms" .defaulted .u64 (·.connectTimeoutMs)
      fun connectTimeoutMs connection => { connection with connectTimeoutMs },
    .plain "request_timeout_ms" .defaulted .u64 (·.requestTimeoutMs)
      fun requestTimeoutMs connection => { connection with requestTimeoutMs }]

def codec : Codec Connection := record.codec

end Connection

structure Settings where
  version : String
  apiKey : Secret
  baseUrl : String
  retry : Retry.Policy
  defaults : Defaults
  connection : Connection
deriving DecidableEq

namespace Settings

/-- The settings of a file that holds nothing but a key. -/
def ofKey (apiKey : Secret) : Settings :=
  ⟨supportedVersion, apiKey, publicBaseUrl, .standard, .standard, .standard⟩

def record : Record Settings where
  name := "ZhipuConfig"
  blank := ofKey ⟨""⟩
  closed := true
  members := [
    .plain "version" .required .plainText (·.version)
      fun version settings => { settings with version },
    .plain "api_key" .required Secret.codec (·.apiKey)
      fun apiKey settings => { settings with apiKey },
    .plain "base_url" .defaulted .plainText (·.baseUrl)
      fun baseUrl settings => { settings with baseUrl },
    .plain "retry" .defaulted Retry.Policy.codec (·.retry)
      fun retry settings => { settings with retry },
    .plain "defaults" .defaulted Defaults.codec (·.defaults)
      fun defaults settings => { settings with defaults },
    .plain "connection" .defaulted Connection.codec (·.connection)
      fun connection settings => { settings with connection }]

def codec : Codec Settings := record.codec

/-- The line that a log may show. -/
def forLog (settings : Settings) : String :=
  "ZhipuConfig \x7b version: " ++ settings.version ++
    ", api_key: " ++ settings.apiKey.partly ++
    ", base_url: " ++ settings.baseUrl ++
    ", retry_times: " ++ toString settings.retry.retryTimes.toNat ++
    ", model: " ++ settings.defaults.model ++ " \x7d"

/-- How an optional sampling value is shown to a person debugging. -/
def showSampling : Option Single → String
  | none => "None"
  | some value => "Some(" ++ value.write Numeric.debugLayout ++ ")"

/-- All settings as they are shown to a person debugging, but for the key. -/
def forDebug (settings : Settings) : String :=
  "ZhipuConfig \x7b version: " ++ Text.quoted settings.version ++
    ", api_key: " ++ Secret.redacted ++
    ", base_url: " ++ Text.quoted settings.baseUrl ++
    ", retry: RetryPolicy \x7b retry_times: " ++
    toString settings.retry.retryTimes.toNat ++
    ", max_jitter_ms: " ++ toString settings.retry.maxJitterMs.toNat ++
    " \x7d, defaults: DefaultParams \x7b model: " ++
    Text.quoted settings.defaults.model ++
    ", temperature: " ++ showSampling settings.defaults.temperature ++
    ", top_p: " ++ showSampling settings.defaults.topP ++
    " \x7d, connection: ConnectionConfig \x7b connect_timeout_ms: " ++
    toString settings.connection.connectTimeoutMs.toNat ++
    ", request_timeout_ms: " ++
    toString settings.connection.requestTimeoutMs.toNat ++ " \x7d \x7d"

end Settings

end Parley.Config
