import CommandShell.Interrupt
import CommandShell.Main
import CommandShell.Proofs.Blame
import CommandShell.Proofs.CutOutput
import CommandShell.Proofs.Cutting
import CommandShell.Proofs.DirectoryChanges
import CommandShell.Proofs.EntryCodec
import CommandShell.Proofs.HereDocBodies
import CommandShell.Proofs.Interactivity
import CommandShell.Proofs.LineComposition
import CommandShell.Proofs.LineEndings
import CommandShell.Proofs.LoopBound
import CommandShell.Proofs.NameChanges
import CommandShell.Proofs.NestingLevel
import CommandShell.Proofs.OpenLines
import CommandShell.Proofs.PathSearch
import CommandShell.Proofs.RedirectionOrder
import CommandShell.Proofs.RedirectionRuns
import CommandShell.Proofs.StatusRange
