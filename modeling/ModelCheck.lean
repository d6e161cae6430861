import ModelCheck.Main
import ModelCheck.Process.Watch
import ModelCheck.Scenario
import ModelCheck.Proofs.Config.Precedence
import ModelCheck.Proofs.Console.Coverage
import ModelCheck.Proofs.Console.Verdict
import ModelCheck.Proofs.Diagnostic.Jsonl
import ModelCheck.Proofs.Launcher.Classpath
import ModelCheck.Proofs.Output.Forest
import ModelCheck.Proofs.Process.Supervision
import ModelCheck.Proofs.Report.Statistics
import ModelCheck.Proofs.System.Rejection
import ModelCheck.Proofs.System.Succession
import ModelCheck.Proofs.System.Target
import ModelCheck.Proofs.Console.Truncation
import ModelCheck.Proofs.Diagnostic.Multimap
import ModelCheck.Proofs.Session.Input
import ModelCheck.Proofs.Frame.Grammar
import ModelCheck.Proofs.Output.Tail
