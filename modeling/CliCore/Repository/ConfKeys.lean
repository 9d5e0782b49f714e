import CliCore.Collections

/-!
# The optional configuration keys of a repository template

Once the class and the package type of a repository are chosen,
`artifactory/commands/repository/template.go` offers the optional configuration keys that
combination admits: `ioutils.SaveAndExit` first, then the keys of the class, then those of the
package type, each turned into a prompt suggestion through `optionalSuggestsMap`.  The URL of a
remote repository is among them only in an update template; a create template asks for it as a
mandatory question instead.  The package types a class admits are offered the same way through
`pkgTypeSuggestsMap`.

Every table keeps its name in the source, its keys spelled as the constants of the source spell
them.  The three getters share one shape (`repoConfKeys`); the remote one puts the URL first
in an update template.  The questionnaire's callbacks (`CliCore.Repository.Template`) read these
getters and tables.
-/

namespace CliCore

namespace Repository

/-- `prompt.Suggest`; the tables of the template fill in only the text. -/
structure Suggest where
  /-- `Text`. -/
  text : String
  deriving DecidableEq, Repr

/-- `ioutils.GetSuggestsFromKeys`: the suggestion the map holds for each key, in order; the zero
`Suggest` for a key the map lacks. -/
def getSuggestsFromKeys (keys : List String) (suggestionMap : String → Option Suggest) :
    List Suggest :=
  keys.map fun key => (suggestionMap key).getD ⟨""⟩

/-- A map literal of the template, read by key: each of `keys` suggests itself. -/
def selfSuggestions (keys : List String) (key : String) : Option Suggest :=
  if key ∈ keys then some ⟨key⟩ else none

/-- `ioutils.SaveAndExit`, the answer that ends the optional keys. -/
def saveAndExit : String := ":x"

/-- `Url`. -/
def url : String := "url"

/-- `Update`, the template type of a template that updates a repository. -/
def update : String := "update"

/-! ### The tables -/

/-- The keys of `optionalSuggestsMap`, each of which suggests itself. -/
def optionalSuggestKeys : List String :=
  [":x", "description", "notes", "includesPattern", "excludesPattern", "repoLayoutRef",
   "projectKey", "environment", "handleReleases", "handleSnapshots", "maxUniqueSnapshots",
   "suppressPomConsistencyChecks", "blackedOut", "downloadRedirect", "blockPushingSchema1",
   "debianTrivialLayout", "externalDependenciesEnabled", "externalDependenciesPatterns",
   "checksumPolicyType", "maxUniqueTags", "snapshotVersionBehavior", "xrayIndex",
   "propertySets", "archiveBrowsingEnabled", "calculateYumMetadata", "yumRootDepth",
   "dockerApiVersion", "enableFileListsIndexing", "optionalIndexCompressionFormats", "url",
   "username", "password", "proxy", "primaryKeyPairRef", "remoteRepoChecksumPolicyType",
   "hardFail", "offline", "storeArtifactsLocally", "socketTimeoutMillis", "localAddress",
   "retrievalCachePeriodSecs", "failedRetrievalCachePeriodSecs",
   "missedRetrievalCachePeriodSecs", "unusedArtifactsCleanupEnabled",
   "unusedArtifactsCleanupPeriodHours", "assumedOfflinePeriodSecs", "fetchJarsEagerly",
   "fetchSourcesEagerly", "rejectInvalidJars", "shareConfiguration", "synchronizeProperties",
   "blockMismatchingMimeTypes", "allowAnyHostAuth", "enableCookieManagement",
   "bowerRegistryUrl", "composerRegistryUrl", "pyPIRegistryUrl", "vcsType", "vcsGitProvider",
   "vcsGitDownloadUrl", "bypassHeadRequests", "clientTlsCertificate", "feedContextPath",
   "downloadContextPath", "v3FeedUrl", "contentSynchronisation", "listRemoteFolderItems",
   "podsSpecsRepoUrl", "enableTokenAuthentication", "repositories",
   "artifactoryRequestsCanRetrieveRemoteArtifacts", "keyPair",
   "pomRepositoryReferencesCleanupPolicy", "defaultDeploymentRepo",
   "forceMavenAuthentication", "forceNugetAuthentication", "externalDependenciesRemoteRepo"]

/-- `optionalSuggestsMap`. -/
def optionalSuggestsMap : String → Option Suggest := selfSuggestions optionalSuggestKeys

/-- `baseLocalRepoConfKeys`. -/
def baseLocalRepoConfKeys : List String :=
  ["description", "notes", "includesPattern", "excludesPattern", "repoLayoutRef",
   "projectKey", "environment", "blackedOut", "xrayIndex", "propertySets",
   "archiveBrowsingEnabled", "optionalIndexCompressionFormats", "downloadRedirect",
   "blockPushingSchema1"]

/-- `mavenGradleLocalRepoConfKeys`. -/
def mavenGradleLocalRepoConfKeys : List String :=
  ["maxUniqueSnapshots", "handleReleases", "handleSnapshots", "suppressPomConsistencyChecks",
   "snapshotVersionBehavior", "checksumPolicyType"]

/-- `rpmLocalRepoConfKeys`. -/
def rpmLocalRepoConfKeys : List String :=
  ["yumRootDepth", "calculateYumMetadata", "enableFileListsIndexing", "primaryKeyPairRef"]

/-- `nugetLocalRepoConfKeys`. -/
def nugetLocalRepoConfKeys : List String :=
  ["maxUniqueSnapshots", "forceNugetAuthentication"]

/-- `debianLocalRepoConfKeys`. -/
def debianLocalRepoConfKeys : List String :=
  ["debianTrivialLayout", "primaryKeyPairRef"]

/-- `dockerLocalRepoConfKeys`. -/
def dockerLocalRepoConfKeys : List String :=
  ["dockerApiVersion", "maxUniqueTags"]

/-- `baseRemoteRepoConfKeys`. -/
def baseRemoteRepoConfKeys : List String :=
  ["username", "password", "proxy", "description", "notes", "includesPattern",
   "excludesPattern", "repoLayoutRef", "projectKey", "environment", "hardFail", "offline",
   "blackedOut", "xrayIndex", "storeArtifactsLocally", "socketTimeoutMillis", "localAddress",
   "retrievalCachePeriodSecs", "failedRetrievalCachePeriodSecs",
   "missedRetrievalCachePeriodSecs", "unusedArtifactsCleanupEnabled",
   "unusedArtifactsCleanupPeriodHours", "assumedOfflinePeriodSecs", "shareConfiguration",
   "synchronizeProperties", "blockMismatchingMimeTypes", "propertySets", "allowAnyHostAuth",
   "enableCookieManagement", "bypassHeadRequests", "clientTlsCertificate", "downloadRedirect",
   "blockPushingSchema1", "contentSynchronisation"]

/-- `mavenGradleRemoteRepoConfKeys`. -/
def mavenGradleRemoteRepoConfKeys : List String :=
  ["fetchJarsEagerly", "fetchSourcesEagerly", "remoteRepoChecksumPolicyType",
   "handleReleases", "handleSnapshots", "suppressPomConsistencyChecks", "rejectInvalidJars"]

/-- `cocoapodsRemoteRepoConfKeys`. -/
def cocoapodsRemoteRepoConfKeys : List String :=
  ["podsSpecsRepoUrl"]

/-- `opkgRemoteRepoConfKeys`. -/
def opkgRemoteRepoConfKeys : List String :=
  ["listRemoteFolderItems"]

/-- `rpmRemoteRepoConfKeys`. -/
def rpmRemoteRepoConfKeys : List String :=
  ["listRemoteFolderItems"]

/-- `nugetRemoteRepoConfKeys`. -/
def nugetRemoteRepoConfKeys : List String :=
  ["feedContextPath", "downloadContextPath", "v3FeedUrl", "forceNugetAuthentication"]

/-- `gemsRemoteRepoConfKeys`. -/
def gemsRemoteRepoConfKeys : List String :=
  ["listRemoteFolderItems"]

/-- `npmRemoteRepoConfKeys`. -/
def npmRemoteRepoConfKeys : List String :=
  ["listRemoteFolderItems"]

/-- `bowerRemoteRepoConfKeys`. -/
def bowerRemoteRepoConfKeys : List String :=
  ["bowerRegistryUrl"]

/-- `debianRemoteRepoConfKeys`. -/
def debianRemoteRepoConfKeys : List String :=
  ["listRemoteFolderItems"]

/-- `composerRemoteRepoConfKeys`. -/
def composerRemoteRepoConfKeys : List String :=
  ["composerRegistryUrl"]

/-- `pypiRemoteRepoConfKeys`. -/
def pypiRemoteRepoConfKeys : List String :=
  ["pyPIRegistryUrl", "listRemoteFolderItems"]

/-- `dockerRemoteRepoConfKeys`. -/
def dockerRemoteRepoConfKeys : List String :=
  ["externalDependenciesEnabled", "externalDependenciesPatterns", "enableTokenAuthentication"]

/-- `gitlfsRemoteRepoConfKeys`. -/
def gitlfsRemoteRepoConfKeys : List String :=
  ["listRemoteFolderItems"]

/-- `vcsRemoteRepoConfKeys`. -/
def vcsRemoteRepoConfKeys : List String :=
  ["vcsGitProvider", "vcsType", "maxUniqueSnapshots", "vcsGitDownloadUrl",
   "listRemoteFolderItems"]

/-- `baseVirtualRepoConfKeys`. -/
def baseVirtualRepoConfKeys : List String :=
  ["repositories", "description", "notes", "includesPattern", "excludesPattern",
   "repoLayoutRef", "projectKey", "environment",
   "artifactoryRequestsCanRetrieveRemoteArtifacts", "defaultDeploymentRepo",
   "optionalIndexCompressionFormats", "primaryKeyPairRef"]

/-- `mavenGradleVirtualRepoConfKeys`. -/
def mavenGradleVirtualRepoConfKeys : List String :=
  ["forceMavenAuthentication", "pomRepositoryReferencesCleanupPolicy", "keyPair"]

/-- `nugetVirtualRepoConfKeys`. -/
def nugetVirtualRepoConfKeys : List String :=
  ["forceNugetAuthentication"]

/-- `npmVirtualRepoConfKeys`. -/
def npmVirtualRepoConfKeys : List String :=
  ["externalDependenciesEnabled", "externalDependenciesPatterns",
   "externalDependenciesRemoteRepo"]

/-- `bowerVirtualRepoConfKeys`. -/
def bowerVirtualRepoConfKeys : List String :=
  ["externalDependenciesEnabled", "externalDependenciesPatterns",
   "externalDependenciesRemoteRepo"]

/-- `debianVirtualRepoConfKeys`. -/
def debianVirtualRepoConfKeys : List String :=
  ["debianTrivialLayout"]

/-- `goVirtualRepoConfKeys`. -/
def goVirtualRepoConfKeys : List String :=
  ["externalDependenciesEnabled", "externalDependenciesPatterns"]

/-- The keys of `pkgTypeSuggestsMap`, each of which suggests itself. -/
def pkgTypeSuggestKeys : List String :=
  ["generic", "maven", "gradle", "ivy", "sbt", "helm", "cocoapods", "opkg", "rpm", "nuget",
   "cran", "gems", "npm", "bower", "debian", "composer", "pypi", "docker", "vagrant",
   "gitlfs", "go", "yum", "conan", "chef", "puppet", "vcs", "conda", "p2", "alpine"]

/-- `pkgTypeSuggestsMap`. -/
def pkgTypeSuggestsMap : String → Option Suggest := selfSuggestions pkgTypeSuggestKeys

/-- `commonPkgTypes`. -/
def commonPkgTypes : List String :=
  ["maven", "gradle", "ivy", "sbt", "helm", "rpm", "nuget", "cran", "gems", "npm", "bower",
   "debian", "pypi", "docker", "gitlfs", "go", "conan", "chef", "puppet", "alpine", "generic"]

/-- `localRepoAdditionalPkgTypes`. -/
def localRepoAdditionalPkgTypes : List String :=
  ["cocoapods", "opkg", "composer", "vagrant", "yum"]

/-- `remoteRepoAdditionalPkgTypes`. -/
def remoteRepoAdditionalPkgTypes : List String :=
  ["cocoapods", "opkg", "composer", "conda", "p2", "vcs", "yum"]

/-- `virtualRepoAdditionalPkgTypes`. -/
def virtualRepoAdditionalPkgTypes : List String :=
  ["conda", "p2", "yum"]

/-- `federatedRepoAdditionalPkgTypes`. -/
def federatedRepoAdditionalPkgTypes : List String :=
  ["vagrant", "opkg", "conda", "composer", "cocoapods"]

/-! ### The getters -/

/-- The switch of `getLocalRepoConfKeys`: the keys a package type adds. -/
def localRepoPkgTypeConfKeys : String → List String
  | "maven" | "gradle" => mavenGradleLocalRepoConfKeys
  | "rpm" => rpmLocalRepoConfKeys
  | "nuget" => nugetLocalRepoConfKeys
  | "debian" => debianLocalRepoConfKeys
  | "docker" => dockerLocalRepoConfKeys
  | _ => []

/-- The switch of `getRemoteRepoConfKeys`: the keys a package type adds. -/
def remoteRepoPkgTypeConfKeys : String → List String
  | "maven" | "gradle" => mavenGradleRemoteRepoConfKeys
  | "cocoapods" => cocoapodsRemoteRepoConfKeys
  | "opkg" => opkgRemoteRepoConfKeys
  | "rpm" => rpmRemoteRepoConfKeys
  | "nuget" => nugetRemoteRepoConfKeys
  | "gems" => gemsRemoteRepoConfKeys
  | "npm" => npmRemoteRepoConfKeys
  | "bower" => bowerRemoteRepoConfKeys
  | "debian" => debianRemoteRepoConfKeys
  | "composer" => composerRemoteRepoConfKeys
  | "pypi" => pypiRemoteRepoConfKeys
  | "docker" => dockerRemoteRepoConfKeys
  | "gitlfs" => gitlfsRemoteRepoConfKeys
  | "vcs" => vcsRemoteRepoConfKeys
  | _ => []

/-- The switch of `getVirtualRepoConfKeys`: the keys a package type adds. -/
def virtualRepoPkgTypeConfKeys : String → List String
  | "maven" | "gradle" => mavenGradleVirtualRepoConfKeys
  | "nuget" => nugetVirtualRepoConfKeys
  | "npm" => npmVirtualRepoConfKeys
  | "bower" => bowerVirtualRepoConfKeys
  | "debian" => debianVirtualRepoConfKeys
  | "go" => goVirtualRepoConfKeys
  | _ => []

/-- The shape of the three getters: `SaveAndExit`, the keys of the class, the keys of the
package type, each with its suggestion. -/
def repoConfKeys (classKeys pkgTypeKeys : List String) : List Suggest :=
  getSuggestsFromKeys ([saveAndExit] ++ classKeys ++ pkgTypeKeys) optionalSuggestsMap

/-- `getLocalRepoConfKeys`. -/
def getLocalRepoConfKeys (pkgType : String) : List Suggest :=
  repoConfKeys baseLocalRepoConfKeys (localRepoPkgTypeConfKeys pkgType)

/-- `getRemoteRepoConfKeys`: in an update template the URL comes right after
`SaveAndExit`. -/
def getRemoteRepoConfKeys (pkgType templateType : String) : List Suggest :=
  repoConfKeys ((if templateType = update then [url] else []) ++ baseRemoteRepoConfKeys)
    (remoteRepoPkgTypeConfKeys pkgType)

/-- `getVirtualRepoConfKeys`. -/
def getVirtualRepoConfKeys (pkgType : String) : List Suggest :=
  repoConfKeys baseVirtualRepoConfKeys (virtualRepoPkgTypeConfKeys pkgType)

end Repository

end CliCore
