import CliCore.Audit.Basic

/-!
# The collaborators of the scan runner

Everything `scarunner.go` calls outside its own file is a field of `Env`: the operating
system (`os.Chdir`, `os.Getwd`), the technology detector, the per-technology configuration
files of `project`, the tree builders of the `sca` packages and the Xray backend.  An `Env` is
fixed for one run; the statements of this development hold for every `Env`, so they assume
nothing of these collaborators beyond their types.

The working directory is not part of `Env`: it is state, changed by `chdir` and passed to
every collaborator whose Go counterpart resolves paths against it (the detector, the
configuration lookup and the tree builders).
-/

namespace CliCore

namespace Audit

/-- `project.RepositoryConfig`, as `ReadResolutionOnlyConfiguration` returns it. -/
structure RepositoryConfig where
  /-- `TargetRepo()`. -/
  targetRepo : String
  /-- What `ServerDetails()` returns. -/
  serverDetails : Except String ServerDetails
  deriving DecidableEq, Repr

/-- `python.AuditPython`, the request of the Python tree builder. -/
structure AuditPython where
  /-- `Server`. -/
  server : ServerDetails
  /-- `Tool`, `pythonutils.PythonTool(tech)`. -/
  tool : Technology
  /-- `RemotePypiRepo`. -/
  remotePypiRepo : String
  /-- `PipRequirementsFile`. -/
  pipRequirementsFile : String
  deriving DecidableEq, Repr

/-- A call of one of the tree builders, with its arguments. -/
inductive BuilderCall where
  | java (params : AuditBasicParams) (tech : Technology)
  | npm (params : AuditBasicParams)
  | yarn (params : AuditBasicParams)
  | go (params : AuditBasicParams)
  | python (auditPython : AuditPython)
  | nuget (params : AuditBasicParams)
  deriving DecidableEq, Repr

/-- The collaborators of one run. -/
structure Env where
  /-- The directories that exist; `os.Chdir` into any other fails. -/
  isDir : Path → Bool
  /-- The error `os.Getwd` reports in a working directory, if any. -/
  getwdError : Path → Option String
  /-- `coreutils.DetectTechnologiesDescriptors(directory, recursive, technologies,
  descriptors, excludePattern)`, from a working directory. -/
  detectTechnologiesDescriptors : Path → Dir → Bool → List String →
    GoMap Technology (List String) → String →
    Except String (GoMap Technology (GoMap Dir (List String)))
  /-- `fspatterns.PrepareExcludePathPattern(exclusions, clientutils.WildCardPattern, recursive)`. -/
  prepareExcludePathPattern : List String → Bool → String
  /-- `project.GetProjectConfFilePath`, from a working directory: the file, if it exists. -/
  getProjectConfFilePath : Path → ProjectType → Except String (Option String)
  /-- `project.ReadResolutionOnlyConfiguration`. -/
  readResolutionOnlyConfiguration : String → Except String RepositoryConfig
  /-- The tree builders, from a working directory: the full trees, the unique identifiers
  and the error, all three returned together as in Go. -/
  buildDependencyTree : Path → BuilderCall → List GraphNode × List String × Option String
  /-- `sca.RunXrayDependenciesTreeScanGraph`, with the run's graph-scan parameters. -/
  runXrayDependenciesTreeScanGraph :
    GraphNode → Technology → ServerDetails → Except String (List ScanResponse)
  /-- `sca.BuildImpactPathsForScanResponse`. -/
  buildImpactPathsForScanResponse : List ScanResponse → List GraphNode → List ScanResponse
  /-- The zero value of `project.ProjectType`, which `techType[tech]` yields for a technology
  the map lacks. -/
  projectTypeZero : ProjectType

variable (env : Env)

/-- `os.Chdir(dir)` from the working directory `cwd`: the new working directory. -/
def chdir (cwd : Path) (dir : Dir) : Except AuditError Path :=
  if env.isDir (dir.resolve cwd) then .ok (dir.resolve cwd) else .error (.chdir dir)

/-- `os.Getwd()` in the working directory `cwd`. -/
def getwd (cwd : Path) : Except AuditError Path :=
  match env.getwdError cwd with
  | some e => .error (.external e)
  | none => .ok cwd

/-! ### A concrete environment -/

/-- Every directory exists, nothing is detected, no configuration file exists, every builder
returns nothing and the backend finds nothing; the concrete runs below change a few of these
collaborators. -/
def quietEnv : Env where
  isDir _ := true
  getwdError _ := none
  detectTechnologiesDescriptors _ _ _ _ _ _ := .ok GoMap.empty
  prepareExcludePathPattern _ _ := ""
  getProjectConfFilePath _ _ := .ok none
  readResolutionOnlyConfiguration _ := .error "open: no such file or directory"
  buildDependencyTree _ _ := ([], [], none)
  runXrayDependenciesTreeScanGraph _ _ _ := .ok []
  buildImpactPathsForScanResponse responses _ := responses
  projectTypeZero := .go

/-- The detector finds an npm and a Pip project in `/repo`; npm's configuration file names a
repository, Pip's does not exist, and every builder returns one identifier. -/
def npmThenPipEnv : Env :=
  { quietEnv with
    detectTechnologiesDescriptors := fun _ _ _ _ _ _ =>
      .ok ⟨[(.npm, ⟨[(.abs ["repo"], ["package.json"])], by decide⟩),
        (.pip, ⟨[(.abs ["repo"], ["requirements.txt"])], by decide⟩)], by decide⟩
    getProjectConfFilePath := fun _ pt =>
      .ok (if pt = .npm then some "/repo/.jfrog/projects/npm.yaml" else none)
    readResolutionOnlyConfiguration := fun _ => .ok ⟨"npm-remote", .ok ⟨"npm-server"⟩⟩
    buildDependencyTree := fun _ _ => ([], ["pkg:a@1"], none) }

/-- Params as a caller sets them up: the default server, no dependency repository, nothing
collected yet. -/
def freshParams : AuditBasicParams where
  serverDetails := .ok ⟨"default"⟩
  depsRepo := ""
  ignoreConfigFile := false
  pipRequirementsFile := ""
  technologies := []
  exclusions := []
  dependenciesForApplicabilityScan := []

end Audit

end CliCore
