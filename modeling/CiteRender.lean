import CiteRender.Config.Json
import CiteRender.Main
import CiteRender.Proofs.Bibtex.Printing
import CiteRender.Proofs.Render.Agreement
import CiteRender.Proofs.Render.FailFast
import CiteRender.Proofs.Render.Failure
import CiteRender.Proofs.Render.Guard
import CiteRender.Proofs.Bibtex.Concatenation
import CiteRender.Proofs.Render.OnePass
import CiteRender.Proofs.Command.ExitCodes
import CiteRender.Proofs.Json.Numbers
import CiteRender.Proofs.Json.Texts
import CiteRender.Proofs.Json.Values
import CiteRender.Proofs.Bibliography.Entries
import CiteRender.Proofs.Bibliography.Layouts
import CiteRender.Proofs.Bibtex.Abbreviations
import CiteRender.Proofs.Render.Survivors
import CiteRender.Proofs.Render.Uncited
import CiteRender.Proofs.Render.Again
import CiteRender.Proofs.Render.Notices
import CiteRender.Proofs.Render.Merging
import CiteRender.Proofs.Render.Publication
import CiteRender.Proofs.Command.Citing
import CiteRender.Proofs.Bibtex.Faults
import CiteRender.Proofs.Bibliography.Refusals
import CiteRender.Proofs.Document.Creation
import CiteRender.Proofs.Render.Warnings
import CiteRender.Proofs.Render.Markup
import CiteRender.Proofs.Citation.Authors
import CiteRender.Proofs.Bibliography.LastDefinition
import CiteRender.Proofs.Citation.Keys
import CiteRender.Proofs.Citation.Lookup
import CiteRender.Proofs.Document.Generations
import CiteRender.Proofs.Document.Histories
import CiteRender.Proofs.Bibtex.Bytes
import CiteRender.Proofs.Bibtex.Passes
import CiteRender.Proofs.Bibtex.Rewrapping
