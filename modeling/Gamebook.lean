import Gamebook.Command.Run
import Gamebook.Document.Reader
import Gamebook.Main
import Gamebook.Proofs.Checked.Cards
import Gamebook.Proofs.Checked.Lookups
import Gamebook.Proofs.Checked.Sessions
import Gamebook.Proofs.Command.Failing
import Gamebook.Proofs.Command.Lines
import Gamebook.Proofs.Command.Playing
import Gamebook.Proofs.Command.Recovery
import Gamebook.Proofs.Content.Icons
import Gamebook.Proofs.Content.Replacement
import Gamebook.Proofs.Document.Order
import Gamebook.Proofs.Document.Outlines
import Gamebook.Proofs.Document.Representation
import Gamebook.Proofs.Document.Rereading
import Gamebook.Proofs.Document.Scripts
import Gamebook.Proofs.Document.Stacks
import Gamebook.Proofs.Document.Vocabulary
import Gamebook.Proofs.Document.Walks
import Gamebook.Proofs.Play.Bodies
import Gamebook.Proofs.Play.Enemies
import Gamebook.Proofs.Play.GoingOn
import Gamebook.Proofs.Play.Labels
import Gamebook.Proofs.Play.Levels
import Gamebook.Proofs.Play.Pages
import Gamebook.Proofs.Play.Paragraphs
import Gamebook.Proofs.Play.Places
import Gamebook.Proofs.Play.ReadingOn
import Gamebook.Proofs.Play.Relevance
import Gamebook.Proofs.Play.StateBlocks
import Gamebook.Proofs.Play.Targets
import Gamebook.Proofs.Play.Verdicts
import Gamebook.Proofs.Script.Additions
import Gamebook.Proofs.Script.Grammar
import Gamebook.Proofs.Script.Lexemes
import Gamebook.Proofs.Script.Reading
import Gamebook.Proofs.Script.RoundTrip
import Gamebook.Proofs.Script.Sequences
import Gamebook.Proofs.Script.Spans
import Gamebook.Proofs.Script.Variables
import Gamebook.Proofs.Session.Chains
import Gamebook.Proofs.Session.Choices
import Gamebook.Proofs.Session.Contexts
import Gamebook.Proofs.Session.Endings
import Gamebook.Proofs.Session.Landing
import Gamebook.Proofs.Session.Outcomes
import Gamebook.Proofs.Session.Progress
import Gamebook.Session
