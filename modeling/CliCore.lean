import CliCore.Collections
import CliCore.Audit.Basic
import CliCore.Audit.Env
import CliCore.Audit.FlatTree
import CliCore.Audit.Resolution
import CliCore.Audit.DependencyTree
import CliCore.Audit.Schedule
import CliCore.Audit.Runner
import CliCore.Audit.Isolation
import CliCore.Audit.SharedParams
import CliCore.Repository.ConfKeys
import CliCore.Repository.Template
