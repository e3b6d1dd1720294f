import TokenStreaming.Foundation.InsertionMap

/-!
# Core - Repositories and their manifests

Main results: none; the module declares records of the protocol, with the
members that the packages modelled here read.
-/

namespace TokenStreaming
namespace Core

inductive PackageManager where
  | pnpm
  | npm
  | yarn
  | bun
deriving DecidableEq

def PackageManager.text : PackageManager → String
  | .pnpm => "pnpm"
  | .npm => "npm"
  | .yarn => "yarn"
  | .bun => "bun"

structure RepoSummary where
  root : String
  packageManager : Option PackageManager
  scripts : InsertionMap String String
  trackedFiles : List String
  sourceDirectories : List String
  moduleManifestPaths : List String
  workflowManifestPaths : List String
  verificationCommands : Option (List String)

structure ModuleManifest where
  path : String
  name : String
  description : Option String
  publicApi : List String
  dependsOn : List String
  usedBy : List String
  rules : List String
deriving DecidableEq

structure WorkflowManifest where
  path : String
  name : String
  description : Option String
  steps : List String
  touches : List String
  risks : List String
deriving DecidableEq

end Core
end TokenStreaming
