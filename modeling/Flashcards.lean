import Flashcards.Main
import Flashcards.Proofs.Markup.Search
import Flashcards.Proofs.Page.Layout
import Flashcards.Proofs.Markup.Spelling
import Flashcards.Proofs.Page.Message
import Flashcards.Proofs.Agenda
import Flashcards.Proofs.Cache.Loads
import Flashcards.Proofs.Hoist.Gain
import Flashcards.Proofs.Session.Showing
import Flashcards.Proofs.Session.Turns
import Flashcards.Proofs.Session.Threads
import Flashcards.Proofs.Session.Course
import Flashcards.Proofs.Session.Newest
import Flashcards.Proofs.Cache.Flight
import Flashcards.Proofs.Cache.Memo
import Flashcards.Proofs.Session.Rejection
import Flashcards.Proofs.Session.Requests
import Flashcards.Proofs.Session.Contained
import Flashcards.Proofs.Session.Alike
import Flashcards.Proofs.Session.Sourced
import Flashcards.Proofs.Session.Visits
import Flashcards.Proofs.Session.Renderings
import Flashcards.Proofs.Page.Resources
import Flashcards.Proofs.Session.History
import Flashcards.Proofs.Hoist.Supply
import Flashcards.Proofs.Session.Supplied
import Flashcards.Proofs.Session.Answers
import Flashcards.Proofs.Session.Asking
import Flashcards.Proofs.Models.Registry
import Flashcards.Proofs.Hoist.Growth
import Flashcards.Proofs.Session.Dealing
import Flashcards.Proofs.Session.Ended
import Flashcards.Proofs.Session.Shown
import Flashcards.Proofs.Page.Scripts
import Flashcards.Proofs.Hoist.Scripts
import Flashcards.Proofs.Session.Scripts
import Flashcards.Proofs.Text.Words
import Flashcards.Proofs.Markup.Boxes
import Flashcards.Proofs.Notes.Decoding
import Flashcards.Proofs.Page.Regions
import Flashcards.Proofs.Hoist.Order
import Flashcards.Proofs.Session.Growing
import Flashcards.Proofs.Session.Alone
import Flashcards.Proofs.Session.Matching
import Flashcards.Proofs.Session.Failing
import Flashcards.Proofs.Models.Merging
import Flashcards.Proofs.Session.Modes
import Flashcards.Proofs.Session.Sole
import Flashcards.Proofs.Batch.Files
import Flashcards.Proofs.Batch.Pages
import Flashcards.Proofs.Session.Stock
import Flashcards.Proofs.Session.Reselecting
import Flashcards.Proofs.Template.Filling
import Flashcards.Proofs.Hoist.Remainder
import Flashcards.Proofs.Session.Registering
import Flashcards.Proofs.Cache.Clearing
import Flashcards.Proofs.Text.Replacing
import Flashcards.Proofs.Template.Fronts
import Flashcards.Proofs.Markup.Places
import Flashcards.Proofs.Markup.Attributes
import Flashcards.Proofs.Card.Faces
import Flashcards.Proofs.Card.Flipping
import Flashcards.Proofs.Text.Lowering
import Flashcards.Proofs.Markup.Endings
import Flashcards.Proofs.Markup.Names
import Flashcards.Proofs.Markup.Written
import Flashcards.Proofs.Markup.ReadBack
import Flashcards.Proofs.Hoist.Residue
import Flashcards.Proofs.Card.Inert
import Flashcards.Proofs.Markup.Steady
import Flashcards.Proofs.Card.Raw
import Flashcards.Proofs.Models.Standing
import Flashcards.Proofs.Text.Runs
import Flashcards.Proofs.Json.Strings
import Flashcards.Proofs.Json.Grammar
import Flashcards.Proofs.Json.Numbers
import Flashcards.Proofs.Json.Values
import Flashcards.Proofs.Json.Objects
import Flashcards.Proofs.Manifest.Definitions
import Flashcards.Proofs.Manifest.Loading
import Flashcards.Proofs.Manifest.Assignments
import Flashcards.Proofs.Manifest.Places
import Flashcards.Proofs.Manifest.Paths
import Flashcards.Proofs.Text.Pieces
import Flashcards.Proofs.Source.Ways
import Flashcards.Proofs.Source.Root
import Flashcards.Proofs.Source.Parts
import Flashcards.Proofs.Source.Paths
import Flashcards.Proofs.Source.Base
import Flashcards.Proofs.Source.Web
import Flashcards.Proofs.Session.Error
import Flashcards.Proofs.Json.Integers
import Flashcards.Proofs.Models.Numbers
import Flashcards.Proofs.Json.Encoding
import Flashcards.Proofs.Notes.Extras
import Flashcards.Proofs.Template.Fields
import Flashcards.Proofs.Notes.Tags
