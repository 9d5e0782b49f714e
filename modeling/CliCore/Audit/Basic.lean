import CliCore.Collections

/-!
# The data model of the SCA scan runner

`xray/commands/audit/scarunner.go` schedules one *scan unit* (`ScaScanResult`) per detected
technology and working directory, builds each unit's dependency trees with the technology's
tree builder, flattens them and sends the flat tree to the Xray backend.  This file fixes the
data those functions read and write.

* `Technology` and `ProjectType` are the string and integer enumerations of `coreutils` and
  `project`; `techType` is the map between them, partial as in the source (`none` for Docker).
* Directories are held as the code holds them, absolute or relative to the process working
  directory (`Dir`); `Dir.resolve` is what `os.Chdir` makes of them.
* `AuditBasicParams` is the shared `*xrayutils.AuditBasicParams` that every unit reads and
  that the resolution step and the applicability collection write.
* `AuditError` has one constructor per error the sources create, with the text of its format
  string (`AuditError.text`); an aggregate `errors.Join` is the list of its parts, `[]` being
  `nil`.
-/

namespace CliCore

/-- Outcomes are compared, so that the model's runs can be evaluated by `decide`. -/
instance exceptDecidableEq {ε α : Type} [DecidableEq ε] [DecidableEq α] :
    DecidableEq (Except ε α)
  | .ok a, .ok b => if h : a = b then isTrue (h ▸ rfl) else isFalse fun e => h (Except.ok.inj e)
  | .error a, .error b =>
    if h : a = b then isTrue (h ▸ rfl) else isFalse fun e => h (Except.error.inj e)
  | .ok _, .error _ => isFalse Except.noConfusion
  | .error _, .ok _ => isFalse Except.noConfusion

namespace Audit

/-! ### Technologies and project types -/

/-- `coreutils.Technology`: the technologies these sources name (Docker in the comment on
`techType`). -/
inductive Technology where
  | maven | gradle | npm | yarn | go | pip | pipenv | poetry | nuget | dotnet | docker
  deriving DecidableEq, Repr

/-- `Technology.String()`. -/
def Technology.toString : Technology → String
  | .maven => "maven" | .gradle => "gradle" | .npm => "npm" | .yarn => "yarn" | .go => "go"
  | .pip => "pip" | .pipenv => "pipenv" | .poetry => "poetry" | .nuget => "nuget"
  | .dotnet => "dotnet" | .docker => "docker"

/-- `project.ProjectType`: the kinds of `<type>.yaml` configuration file these sources name. -/
inductive ProjectType where
  | go | pip | pipenv | poetry | npm | yarn | nuget | maven | gradle | dotnet
  deriving DecidableEq, Repr

/-- The `techType` map; `none` where the map has no entry. -/
def techType : Technology → Option ProjectType
  | .maven => some .maven | .gradle => some .gradle | .npm => some .npm | .yarn => some .yarn
  | .go => some .go | .pip => some .pip | .pipenv => some .pipenv | .poetry => some .poetry
  | .nuget => some .nuget | .dotnet => some .dotnet | .docker => none

/-! ### Directories -/

/-- An absolute path, as the list of its components. -/
abbrev Path := List String

/-- A directory as the code holds it: absolute, or relative to the working directory. -/
inductive Dir where
  | abs (path : Path)
  | rel (path : Path)
  deriving DecidableEq, Repr

/-- The directory `d` denotes when the process working directory is `cwd`. -/
def Dir.resolve (cwd : Path) : Dir → Path
  | .abs p => p
  | .rel p => cwd ++ p

/-- The directory as a string. -/
def Dir.toString : Dir → String
  | .abs p => "/" ++ "/".intercalate p
  | .rel p => "/".intercalate p

@[simp] theorem Dir.resolve_abs (cwd p : Path) : (Dir.abs p).resolve cwd = p := rfl

@[simp] theorem Dir.resolve_rel (cwd p : Path) : (Dir.rel p).resolve cwd = cwd ++ p := rfl

/-! ### Trees and scan units -/

/-- `xrayCmdUtils.GraphNode`, with the two fields these sources use. -/
structure GraphNode where
  /-- `Id`. -/
  id : String
  /-- `Nodes`: the children. -/
  nodes : List GraphNode

/-- `services.ScanResponse`, a record of the Xray backend that these sources only pass on. -/
structure ScanResponse where
  /-- The backend's scan id. -/
  scanId : String
  deriving DecidableEq, Repr

/-- `xrayutils.ScaScanResult`: one scan unit. -/
structure ScaScanResult where
  /-- `WorkingDirectory`. -/
  workingDirectory : Dir
  /-- `Technology`. -/
  technology : Technology
  /-- `Descriptors`. -/
  descriptors : List String
  /-- `IsMultipleRootProject`, a `*bool`. -/
  isMultipleRootProject : Option Bool
  /-- `XrayResults`. -/
  xrayResults : List ScanResponse
  deriving DecidableEq, Repr

/-! ### Parameters -/

/-- `config.ServerDetails`, by the server it names. -/
structure ServerDetails where
  /-- The server id. -/
  serverId : String
  deriving DecidableEq, Repr

/-- The fields of `xrayutils.AuditBasicParams` these sources read or write. -/
structure AuditBasicParams where
  /-- What `ServerDetails()` returns. -/
  serverDetails : Except String ServerDetails
  /-- `DepsRepo()`. -/
  depsRepo : String
  /-- `IgnoreConfigFile()`. -/
  ignoreConfigFile : Bool
  /-- `PipRequirementsFile()`. -/
  pipRequirementsFile : String
  /-- `Technologies()`: the technologies requested by the caller. -/
  technologies : List String
  /-- `Exclusions()`. -/
  exclusions : List String
  /-- The dependencies collected for the applicability scan. -/
  dependenciesForApplicabilityScan : List String
  deriving DecidableEq, Repr

namespace AuditBasicParams

/-- Modelled from the spec: `SetServerDetails`, which the resolver uses to write the server of
a configuration file back into the params (§4.5). -/
def setServerDetails (p : AuditBasicParams) (d : ServerDetails) : AuditBasicParams :=
  { p with serverDetails := .ok d }

/-- Modelled from the spec: `SetDepsRepo`, which the resolver uses to write the target
repository of a configuration file back into the params (§4.5). -/
def setDepsRepo (p : AuditBasicParams) (r : String) : AuditBasicParams :=
  { p with depsRepo := r }

/-- Modelled from the spec: `AppendDependenciesForApplicabilityScan`, which adds a unit's
identifiers to those kept for the applicability scan (§3). -/
def appendDependenciesForApplicabilityScan (p : AuditBasicParams) (ds : List String) :
    AuditBasicParams :=
  { p with dependenciesForApplicabilityScan := p.dependenciesForApplicabilityScan ++ ds }

@[simp] theorem appendDependenciesForApplicabilityScan_depsRepo (p : AuditBasicParams)
    (ds : List String) : (p.appendDependenciesForApplicabilityScan ds).depsRepo = p.depsRepo :=
  rfl

@[simp] theorem appendDependenciesForApplicabilityScan_serverDetails (p : AuditBasicParams)
    (ds : List String) :
    (p.appendDependenciesForApplicabilityScan ds).serverDetails = p.serverDetails :=
  rfl

end AuditBasicParams

/-- The fields of `audit.AuditParams` these sources read; `basic` is the embedded pointer
`*xrayutils.AuditBasicParams`, shared by every scan unit of a run. -/
structure AuditParams where
  /-- The embedded `*xrayutils.AuditBasicParams`. -/
  basic : AuditBasicParams
  /-- `workingDirs`: the directories the caller asked for. -/
  workingDirs : List Dir
  /-- `thirdPartyApplicabilityScan`. -/
  thirdPartyApplicabilityScan : Bool
  deriving DecidableEq, Repr

/-! ### Errors -/

/-- The errors of the scan runner.  `external` is an error of a collaborator outside these
sources, by its text; every other constructor is one `fmt.Errorf` or `CheckErrorf` of the
sources. -/
inductive AuditError where
  | external (text : String)
  | chdir (dir : Dir)
  | buildTree (tech : Technology) (techErr : AuditError)
  | noDependencies
  | xrayScan (tech : Technology) (xrayErr : AuditError)
  | auditFailed (workingDirectory : Dir) (wdScanErr : AuditError)
  | notSupported (tech : Technology)
  | searchConfig (tech : Technology) (err : AuditError)
  | readConfig (tech : Technology) (err : AuditError)
  | getServerDetails (err : AuditError)
  deriving DecidableEq, Repr

/-- The text of an error, `Error()`. -/
def AuditError.text : AuditError → String
  | .external t => t
  | .chdir d => "chdir " ++ d.toString ++ ": no such file or directory"
  | .buildTree t e => "failed while building '" ++ t.toString ++ "' dependency tree:\n" ++ e.text
  | .noDependencies =>
    "no dependencies were found. Please try to build your project and re-run the audit command"
  | .xrayScan t e => "'" ++ t.toString ++ "' Xray dependency tree scan request failed:\n" ++ e.text
  | .auditFailed d e => "audit command in '" ++ d.toString ++ "' failed:\n" ++ e.text
  | .notSupported t => t.toString ++ " is currently not supported"
  | .searchConfig t e =>
    "failed while searching for " ++ t.toString ++ ".yaml config file: " ++ e.text
  | .readConfig t e => "failed while reading " ++ t.toString ++ ".yaml config file: " ++ e.text
  | .getServerDetails e => "failed getting server details: " ++ e.text

/-- The text of `errors.Join` of the given errors: one line per error. -/
def joinedText (errs : List AuditError) : String := "\n".intercalate (errs.map AuditError.text)

end Audit

end CliCore
