import LecturePlan.Main
import LecturePlan.Markup.TagCount
import LecturePlan.Markup.Tidy
import LecturePlan.Proofs.Compile.Numbering
import LecturePlan.Proofs.Compile.References
import LecturePlan.Proofs.Compile.Sight
import LecturePlan.Proofs.Compile.Speaker
import LecturePlan.Proofs.Compile.Speech
import LecturePlan.Proofs.Rewrite.KeepsWording
import LecturePlan.Proofs.Rewrite.Passes
import LecturePlan.Proofs.Compile.EndMark
import LecturePlan.Proofs.Compile.Preamble
import LecturePlan.Proofs.Compile.Gate
import LecturePlan.Proofs.Markup.Tidied
import LecturePlan.Proofs.Rewrite.Audible
import LecturePlan.Proofs.Compile.Documents
import LecturePlan.Proofs.Compile.Boundary
import LecturePlan.Proofs.Compile.Media
import LecturePlan.Proofs.Declaration.Extraction
import LecturePlan.Proofs.Compile.Refusal
import LecturePlan.Proofs.Markup.TagLength
import LecturePlan.Proofs.Voice.Remembered
import LecturePlan.Proofs.Rewrite.Scope
import LecturePlan.Proofs.Rewrite.Twice
import LecturePlan.Proofs.Rewrite.Paragraph
import LecturePlan.Proofs.Markup.TidyWords
import LecturePlan.Proofs.Markup.TidyForm
import LecturePlan.Proofs.Timestamp.Canonical
import LecturePlan.Proofs.Compile.RequestedPage
import LecturePlan.Proofs.Path.Normal
import LecturePlan.Proofs.Markup.Ignorable
import LecturePlan.Proofs.Compile.Bracket
import LecturePlan.Proofs.Compile.Ghost
import LecturePlan.Proofs.Markup.ReferenceInScript
