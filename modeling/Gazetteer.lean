import Gazetteer.Main
import Gazetteer.Phone.Typing
import Gazetteer.Address.Slots
import Gazetteer.Storage.Directory
import Gazetteer.Proofs.Address.Tags
import Gazetteer.Proofs.Address.Meaning
import Gazetteer.Proofs.Address.Trimming
import Gazetteer.Proofs.Country.Normalization
import Gazetteer.Proofs.Country.Amount
import Gazetteer.Proofs.Decimal.Value
import Gazetteer.Proofs.Decimal.Fixed
import Gazetteer.Proofs.Text.Numeral
import Gazetteer.Proofs.Phone.Fill
import Gazetteer.Proofs.Phone.Session
import Gazetteer.Proofs.Pattern.DigitBlind
import Gazetteer.Proofs.Pattern.Marks
import Gazetteer.Proofs.Pattern.Expansion
import Gazetteer.Proofs.Pattern.Parts
import Gazetteer.Proofs.Pattern.Plain
import Gazetteer.Proofs.Pattern.ClassReading
import Gazetteer.Proofs.Pattern.Repetitions
import Gazetteer.Proofs.Pattern.Reading
import Gazetteer.Proofs.Pattern.Meaning
import Gazetteer.Proofs.Phone.Complete
import Gazetteer.Proofs.Dataset.Numbers
import Gazetteer.Proofs.Json.Reading
import Gazetteer.Proofs.Json.Quoted
import Gazetteer.Proofs.Json.Numeral
import Gazetteer.Proofs.Json.Spelling
import Gazetteer.Proofs.Json.Listing
import Gazetteer.Proofs.Json.RoundTrip
import Gazetteer.Proofs.Json.Types
import Gazetteer.Proofs.Dataset.NormalForm
import Gazetteer.Proofs.Dataset.Reload
import Gazetteer.Proofs.Dataset.Filtering
import Gazetteer.Proofs.Address.Asking
import Gazetteer.Proofs.Address.ListedFields
import Gazetteer.Proofs.Dataset.EveryWay
import Gazetteer.Proofs.Address.LastWrite
import Gazetteer.Proofs.Phone.Agreement
import Gazetteer.Proofs.Phone.Positions
import Gazetteer.Proofs.Text.Leftmost
import Gazetteer.Proofs.Address.Leftmost
import Gazetteer.Proofs.Address.BlankComponents
import Gazetteer.Proofs.Command.JsonFlag
import Gazetteer.Proofs.Json.Tracking
import Gazetteer.Proofs.Json.CutShort
import Gazetteer.Proofs.Gzip.CutShort
import Gazetteer.Proofs.Dataset.CutShort
import Gazetteer.Proofs.Address.TidyLines
import Gazetteer.Proofs.Address.Joining
import Gazetteer.Proofs.Address.Substitutions
import Gazetteer.Proofs.Pattern.Narrow
import Gazetteer.Proofs.Pattern.NarrowReading
import Gazetteer.Proofs.Phone.NarrowNumbers
import Gazetteer.Proofs.Country.Sign
import Gazetteer.Proofs.Decimal.Rounding
import Gazetteer.Proofs.Decimal.Shortest
import Gazetteer.Proofs.Decimal.Plain
import Gazetteer.Proofs.Country.PlainNumber
import Gazetteer.Proofs.Command.PlainAmount
import Gazetteer.Proofs.Json.Grammar
import Gazetteer.Proofs.Json.Literals
import Gazetteer.Proofs.Json.Skipping
import Gazetteer.Proofs.Json.Meaning
import Gazetteer.Proofs.Json.Gathering
import Gazetteer.Proofs.Json.Records
import Gazetteer.Proofs.Json.Rearranged
import Gazetteer.Proofs.Json.Faults
import Gazetteer.Proofs.Address.FieldSets
import Gazetteer.Proofs.Address.RequiredFields
import Gazetteer.Proofs.Dataset.Codes
import Gazetteer.Proofs.Dataset.Searching
import Gazetteer.Proofs.Text.Words
import Gazetteer.Proofs.Text.Runs
import Gazetteer.Proofs.Pattern.Unescaping
import Gazetteer.Proofs.Pattern.EscapePairs
import Gazetteer.Proofs.Phone.Placeholder
