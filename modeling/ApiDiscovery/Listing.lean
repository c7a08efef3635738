import ApiDiscovery.Format.Record
import ApiDiscovery.GroupVersion

/-!
What a server says about itself: the groups it serves with their versions, the resources served under a
group version, the versions of the core group, and the build that is running.
-/

namespace ApiDiscovery

structure ServedVersion where
  groupVersion : String := ""
  version : String := ""
  deriving DecidableEq, Repr, Inhabited

def ServedVersion.format : Format ServedVersion :=
  .record .lenient
    (.field (.lenient "groupVersion" .text "") <| .field (.lenient "version" .text "") .done)
    (fun (groupVersion, version, ()) => { groupVersion, version })
    fun served => (served.groupVersion, served.version, ())

structure ServerAddress where
  clientRange : String := ""
  address : String := ""
  deriving DecidableEq, Repr, Inhabited

def ServerAddress.format : Format ServerAddress :=
  .record .lenient
    (.field (.lenient "clientCIDR" .text "") <| .field (.lenient "serverAddress" .text "") .done)
    (fun (clientRange, address, ()) => { clientRange, address })
    fun server => (server.clientRange, server.address, ())

structure Group where
  name : String := ""
  preferred : Option ServedVersion := none
  addresses : Option (List ServerAddress) := none
  versions : List ServedVersion := []
  deriving DecidableEq, Repr, Inhabited

def Group.format : Format Group :=
  .record .lenient
    (.field (.fixed "apiVersion" "v1") <|
      .field (.fixed "kind" "APIGroup") <|
      .field (.lenient "name" .text "") <|
      .field (.optional "preferredVersion" ServedVersion.format) <|
      .field (.optional "serverAddressByClientCIDRs" (.list ServerAddress.format)) <|
      .field (.lenient "versions" (.list ServedVersion.format) []) .done)
    (fun ((), (), name, preferred, addresses, versions, ()) =>
      { name, preferred, addresses, versions })
    fun group => ((), (), group.name, group.preferred, group.addresses, group.versions, ())

structure GroupList where
  groups : List Group := []
  deriving DecidableEq, Repr, Inhabited

def GroupList.format : Format GroupList :=
  .record .lenient
    (.field (.fixed "apiVersion" "v1") <|
      .field (.fixed "kind" "APIGroupList") <|
      .field (.lenient "groups" (.list Group.format) []) .done)
    (fun ((), (), groups, ()) => { groups })
    fun list => ((), (), list.groups, ())

structure ListedResource where
  categories : Option (List String) := none
  group : Option String := none
  kind : String := ""
  name : String := ""
  namespaced : Bool := false
  shortNames : Option (List String) := none
  singularName : String := ""
  storageVersionHash : Option String := none
  verbs : List String := []
  version : Option String := none
  deriving DecidableEq, Repr, Inhabited

def ListedResource.format : Format ListedResource :=
  .record .lenient
    (.field (.optional "categories" (.list .text)) <|
      .field (.optional "group" .text) <|
      .field (.lenient "kind" .text "") <|
      .field (.lenient "name" .text "") <|
      .field (.lenient "namespaced" .flag false) <|
      .field (.optional "shortNames" (.list .text)) <|
      .field (.lenient "singularName" .text "") <|
      .field (.optional "storageVersionHash" .text) <|
      .field (.lenient "verbs" (.list .text) []) <|
      .field (.optional "version" .text) .done)
    (fun (categories, group, kind, name, namespaced, shortNames, singularName, storageVersionHash,
        verbs, version, ()) =>
      { categories, group, kind, name, namespaced, shortNames, singularName, storageVersionHash,
        verbs, version })
    fun listed =>
      (listed.categories, listed.group, listed.kind, listed.name, listed.namespaced,
        listed.shortNames, listed.singularName, listed.storageVersionHash, listed.verbs,
        listed.version, ())

structure ResourceList where
  groupVersion : String := ""
  resources : List ListedResource := []
  deriving DecidableEq, Repr, Inhabited

def ResourceList.format : Format ResourceList :=
  .record .lenient
    (.field (.fixed "apiVersion" "v1") <|
      .field (.fixed "kind" "APIResourceList") <|
      .field (.lenient "groupVersion" .text "") <|
      .field (.lenient "resources" (.list ListedResource.format) []) .done)
    (fun ((), (), groupVersion, resources, ()) => { groupVersion, resources })
    fun list => ((), (), list.groupVersion, list.resources, ())

def ResourceList.filter (keep : String → ListedResource → Bool) (list : ResourceList) : ResourceList :=
  { list with resources := list.resources.filter (keep list.groupVersion) }

structure CoreVersions where
  addresses : List ServerAddress := []
  versions : List String := []
  deriving DecidableEq, Repr, Inhabited

def CoreVersions.format : Format CoreVersions :=
  .record .lenient
    (.field (.fixed "apiVersion" "v1") <|
      .field (.fixed "kind" "APIVersions") <|
      .field (.lenient "serverAddressByClientCIDRs" (.list ServerAddress.format) []) <|
      .field (.lenient "versions" (.list .text) []) .done)
    (fun ((), (), addresses, versions, ()) => { addresses, versions })
    fun core => ((), (), core.addresses, core.versions, ())

structure BuildInfo where
  buildDate : String := ""
  compiler : String := ""
  emulationMajor : Option String := none
  emulationMinor : Option String := none
  gitCommit : String := ""
  gitTreeState : String := ""
  gitVersion : String := ""
  goVersion : String := ""
  major : String := ""
  minCompatibilityMajor : Option String := none
  minCompatibilityMinor : Option String := none
  minor : String := ""
  platform : String := ""
  deriving DecidableEq, Repr, Inhabited

def BuildInfo.format : Format BuildInfo :=
  .record .lenient
    (.field (.lenient "buildDate" .text "") <|
      .field (.lenient "compiler" .text "") <|
      .field (.optional "emulationMajor" .text) <|
      .field (.optional "emulationMinor" .text) <|
      .field (.lenient "gitCommit" .text "") <|
      .field (.lenient "gitTreeState" .text "") <|
      .field (.lenient "gitVersion" .text "") <|
      .field (.lenient "goVersion" .text "") <|
      .field (.lenient "major" .text "") <|
      .field (.optional "minCompatibilityMajor" .text) <|
      .field (.optional "minCompatibilityMinor" .text) <|
      .field (.lenient "minor" .text "") <|
      .field (.lenient "platform" .text "") .done)
    (fun (buildDate, compiler, emulationMajor, emulationMinor, gitCommit, gitTreeState, gitVersion,
        goVersion, major, minCompatibilityMajor, minCompatibilityMinor, minor, platform, ()) =>
      { buildDate, compiler, emulationMajor, emulationMinor, gitCommit, gitTreeState, gitVersion,
        goVersion, major, minCompatibilityMajor, minCompatibilityMinor, minor, platform })
    fun build =>
      (build.buildDate, build.compiler, build.emulationMajor, build.emulationMinor, build.gitCommit,
        build.gitTreeState, build.gitVersion, build.goVersion, build.major,
        build.minCompatibilityMajor, build.minCompatibilityMinor, build.minor, build.platform, ())

end ApiDiscovery
