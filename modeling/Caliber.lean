import Caliber.Py.Builtins
import Caliber.Pattern.Engine
import Caliber.Analyzer.Records
import Caliber.Analyzer.Patterns
import Caliber.Analyzer.Extract
import Caliber.Analyzer.Cycles
import Caliber.Audit.CargoToml
import Caliber.Analyzer.Duplicates
import Caliber.Analyzer.Workspace
import Caliber.Analyzer.Normalize
import Caliber.Analyzer.CargoFeatures
import Caliber.Audit.RustFile
import Caliber.Audit.Crates
import Caliber.Audit.TomlSubset
import Caliber.Analyzer.Smells
import Caliber.Analyzer.Metadata
import Caliber.Analyzer.Report
import Caliber.Analyzer.Pipeline
import Caliber.Audit.Outputs
import Caliber.Audit.Run
import Caliber.Doctor.Diagnose
import Caliber.Doctor.Menu
