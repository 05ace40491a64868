import BuildStamp.Proofs.Cli.Inspect
import BuildStamp.Proofs.Cli.Repeat
import BuildStamp.Proofs.Config.Raw
import BuildStamp.Proofs.Config.Resave
import BuildStamp.Proofs.Config.Saving
import BuildStamp.Proofs.Generator.Directory
import BuildStamp.Proofs.Generator.Info
import BuildStamp.Proofs.Header.Translation
import BuildStamp.Proofs.Lookup.Course
import BuildStamp.Proofs.Lookup.Safety
import BuildStamp.Proofs.Rehearsal.Files
import BuildStamp.Proofs.Time.Fraction
import BuildStamp.Proofs.Time.Order
import BuildStamp.Rehearsal.Programs
