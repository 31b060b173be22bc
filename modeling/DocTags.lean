import DocTags.Catalogue
import DocTags.Failure
import DocTags.Fields
import DocTags.Grammar.NameSlot
import DocTags.Grammar.PathTemplate
import DocTags.Grammar.Shorthand
import DocTags.Grammar.ValueList
import DocTags.Json.Basic
import DocTags.Json.Reader
import DocTags.Json.RealNumeral
import DocTags.Json.Token
import DocTags.Json.Writer
import DocTags.Model.Action
import DocTags.Model.Basic
import DocTags.Model.Document
import DocTags.Model.Reach
import DocTags.Operation.Action
import DocTags.Operation.Basic
import DocTags.Operation.Document
import DocTags.Operation.Nickname
import DocTags.Outcome
import DocTags.Parameter
import DocTags.Property
import DocTags.Record.Check
import DocTags.Record.Checked
import DocTags.Record.IntegerText
import DocTags.Record.Issue
import DocTags.Record.Kind
import DocTags.Record.Scalar
import DocTags.Record.State
import DocTags.Session
import DocTags.Settings.Basic
import DocTags.Settings.Dotenv
import DocTags.Settings.Load
import DocTags.Tag
import DocTags.TagError
import DocTags.Text.Blank
import DocTags.Text.CodeOrder
import DocTags.Text.CodeRange
import DocTags.Text.DecimalDigit
import DocTags.Text.Greedy
import DocTags.Text.LetterCase
import DocTags.Text.Lowercase
import DocTags.Text.Nonempty
import DocTags.Text.Numeral
import DocTags.Text.Pieces
import DocTags.Text.Printable
import DocTags.Text.Quoted
import DocTags.Text.Word
import DocTags.TypeRef
import DocTags.Proofs.Model.Closure
import DocTags.Proofs.Grammar.Shorthand
import DocTags.Proofs.Operation.ParameterOrder
import DocTags.Proofs.Operation.Description
import DocTags.Proofs.Operation.Malformed
import DocTags.Proofs.Operation.Writing
import DocTags.Proofs.Operation.Dialects
import DocTags.Proofs.Operation.Reordering
import DocTags.Proofs.Unloadable
import DocTags.Proofs.Primitives
import DocTags.Proofs.Operation.Recovery
import DocTags.Proofs.Parameter
import DocTags.Proofs.Grammar.ValueList
import DocTags.Proofs.Grammar.ShorthandWriting
import DocTags.Proofs.Operation.Consistency
import DocTags.Proofs.Record.RoundTrip
import DocTags.Proofs.Model.Recovery
import DocTags.Proofs.Model.Required
import DocTags.Proofs.Model.StackWalk
import DocTags.Proofs.Nameless
import DocTags.Proofs.Grammar.Entries
import DocTags.Proofs.Model.CallStack
import DocTags.Proofs.Model.Locality
import DocTags.Proofs.Operation.Responses
import DocTags.Proofs.Operation.Footprint
import DocTags.Proofs.Model.Progress
import DocTags.Proofs.Operation.EarlySorting
import DocTags.Proofs.TypeLayout
import DocTags.Proofs.ShorthandType
import DocTags.Proofs.Operation.Nickname
import DocTags.Proofs.Grammar.PathTemplate
