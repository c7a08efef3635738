import ApiDiscovery.Text.Blank
import ApiDiscovery.Text.Utf8
import ApiDiscovery.Uri.Base

/-!
Where a cluster is and which namespace is meant when none is named. Inside a cluster both come from the
environment: two variables give the server's host and port, a mounted file gives the namespace.
-/

namespace ApiDiscovery

structure Cluster where
  url : Uri
  defaultNamespace : String
  deriving DecidableEq, Repr

inductive ClusterError where
  | missingVariables
  | namespaceFileMissing
  | namespaceNotUtf8
  | invalidUrl (error : UriError)
  deriving DecidableEq, Repr

def hostVariable : String := "KUBERNETES_SERVICE_HOST"

def portVariable : String := "KUBERNETES_SERVICE_PORT"

def ClusterError.message : ClusterError → String
  | .missingVariables =>
      "Unable to load in cluster config, " ++ hostVariable ++ " and " ++ portVariable ++
        " must be defined"
  | .namespaceFileMissing =>
      "Unable to load incluster default namespace: No such file or directory (os error 2)"
  | .namespaceNotUtf8 =>
      "Unable to load incluster default namespace: stream did not contain valid UTF-8"
  | .invalidUrl error => "failed to parse cluster url: " ++ error.message

structure PodEnvironment where
  host : Option String
  port : Option String
  namespaceFile : Option (List UInt8)

namespace Cluster

def ofUrl (url : Uri) : Cluster := { url, defaultNamespace := "default" }

def parse (text : String) : Except ClusterError Cluster :=
  (ofUrl <$> Uri.parse text).mapError .invalidUrl

def bracketed (host : String) : String :=
  if host.toList.contains ':' && host.toList.head? != some '[' then "[" ++ host ++ "]" else host

def urlOf (host port : String) : Except ClusterError Uri :=
  (Uri.parse ("https://" ++ bracketed host ++ ":" ++ port)).mapError .invalidUrl

def namespaceOf : Option (List UInt8) → Except ClusterError String
  | none => .error .namespaceFileMissing
  | some bytes =>
      match Text.Utf8.decode bytes with
      | .ok text => .ok (Text.trim text)
      | .error _ => .error .namespaceNotUtf8

def ofEnvironment (environment : PodEnvironment) : Except ClusterError Cluster := do
  match environment.host, environment.port with
  | some host, some port =>
      let url ← urlOf host port
      let defaultNamespace ← namespaceOf environment.namespaceFile
      return { url, defaultNamespace }
  | _, _ => .error .missingVariables

def addressOf (cluster : Cluster) (request : Uri) : Uri := Uri.behind cluster.url request

end Cluster

end ApiDiscovery
