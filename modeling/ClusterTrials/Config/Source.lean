import ClusterTrials.Config.Settings
import ClusterTrials.Yaml.Node.Reader
import ClusterTrials.Yaml.Value
/-!
# Settings in documents

A `Source` says how the nodes of some kind of document are read as the values that settings are made of.
`Settings.read?` fills the settings from any source: fields that are missing take their defaults, fields
that nobody knows are passed over, and a known field may not be repeated.
-/

namespace ClusterTrials.Config

/-- Each reader fails on a node that holds a value of another kind. -/
structure Source (ν : Type) where
  fields? : ν → Option (List (String × ν))
  text? : ν → Option String
  /-- A text, or a value that stands for none. -/
  optionalText? : ν → Option (Option String)
  flag? : ν → Option Bool
  /-- A natural number below a bound. -/
  natural? : Nat → ν → Option Nat
  number? : ν → Option Binary64

namespace Source

variable {ν α : Type}

def field? (fields : List (String × ν)) (name : String) (read? : ν → Option α) (default : α) :
    Option α :=
  match fields.filter fun (other, _) => other = name with
  | [] => some default
  | [(_, value)] => read? value
  | _ => none

def word16? (source : Source ν) (node : ν) : Option UInt16 :=
  (source.natural? UInt16.size node).map .ofNat

def word32? (source : Source ν) (node : ν) : Option UInt32 :=
  (source.natural? UInt32.size node).map .ofNat

def word64? (source : Source ν) (node : ν) : Option UInt64 :=
  (source.natural? UInt64.size node).map .ofNat

end Source

open Source

variable {ν : Type}

def ClusterSettings.read? (source : Source ν) (node : ν) : Option ClusterSettings := do
  let fields ← source.fields? node
  let default : ClusterSettings := {}
  return {
    url := ← field? fields "url" source.optionalText? default.url
    authToken := ← field? fields "auth-token" source.optionalText? default.authToken
    verifyTls := ← field? fields "verify-tls" source.flag? default.verifyTls
    requestTimeoutSecs :=
      ← field? fields "request-timeout-secs" source.word64? default.requestTimeoutSecs }

def SshSettings.read? (source : Source ν) (node : ν) : Option SshSettings := do
  let fields ← source.fields? node
  let default : SshSettings := {}
  return {
    user := ← field? fields "user" source.text? default.user
    port := ← field? fields "port" source.word16? default.port
    keyPath := ← field? fields "key-path" source.optionalText? default.keyPath
    connectTimeoutSecs :=
      ← field? fields "connect-timeout-secs" source.word64? default.connectTimeoutSecs }

def readPolicy? (source : Source ν) (node : ν) : Option RetryPolicy := do
  let fields ← source.fields? node
  let default : RetryPolicy := {}
  return {
    attempts := ← field? fields "attempts" source.word32? default.attempts
    sleepSeconds := ← field? fields "sleep-seconds" source.number? default.sleepSeconds }

def ReclaimSettings.read? (source : Source ν) (node : ν) : Option ReclaimSettings := do
  let fields ← source.fields? node
  let default : ReclaimSettings := {}
  return { frameworksGlob := ← field? fields "frameworks-glob" source.text? default.frameworksGlob }

def Settings.read? (source : Source ν) (node : ν) : Option Settings := do
  let fields ← source.fields? node
  let default : Settings := {}
  return {
    cluster := ← field? fields "cluster" (ClusterSettings.read? source) default.cluster
    ssh := ← field? fields "ssh" (SshSettings.read? source) default.ssh
    retry := ← field? fields "retry" (readPolicy? source) default.retry
    reclaim := ← field? fields "reclaim" (ReclaimSettings.read? source) default.reclaim }

def Source.ofDocument (document : Yaml.Document) : Source Yaml.Node where
  fields? := document.fields?
  text? := document.text?
  optionalText? := document.optionalText?
  flag? := document.flag?
  natural? := document.natural?
  number? := document.number?

def Settings.ofText? (text : String) : Option Settings := do
  let document ← Yaml.Document.ofText? text
  Settings.read? (.ofDocument document) document.root

end ClusterTrials.Config
