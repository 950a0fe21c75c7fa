import Slapstic.Board.Command
import Slapstic.Chip.Survey
import Slapstic.Json.Compact
import Slapstic.Serial.Board
import Slapstic.Proofs.Part.Encoding
import Slapstic.Proofs.Chip.Transition
import Slapstic.Proofs.Chip.WellFormed
import Slapstic.Proofs.Chip.Word
import Slapstic.Proofs.Chip.Commit
import Slapstic.Proofs.Board.Effect
import Slapstic.Proofs.Serial.RoundTrip
import Slapstic.Proofs.Board.WellFormed
import Slapstic.Proofs.Board.Resume
import Slapstic.Proofs.Chip.Attainable
import Slapstic.Proofs.Chip.Drive
import Slapstic.Proofs.Board.Reachable
import Slapstic.Proofs.Chip.Course
import Slapstic.Proofs.Chip.Lines
import Slapstic.Proofs.Part.Codes
import Slapstic.Proofs.Chip.Twiddling
import Slapstic.Proofs.Chip.Adding
import Slapstic.Proofs.Chip.OffBus
import Slapstic.Proofs.Chip.Inspection
import Slapstic.Proofs.Chip.Outline
import Slapstic.Proofs.Chip.Simple
import Slapstic.Proofs.Chip.Neutral
import Slapstic.Proofs.Board.Refusal
import Slapstic.Proofs.Chip.Foreign
import Slapstic.Proofs.Board.FullSink
import Slapstic.Proofs.Text.Utf8
import Slapstic.Proofs.Text.Numeral
import Slapstic.Proofs.Chip.TraceLine
import Slapstic.Proofs.Board.Transcript
import Slapstic.Proofs.Chip.Report
import Slapstic.Proofs.Board.Banks
import Slapstic.Proofs.Text.Blank
import Slapstic.Proofs.Part.Label
import Slapstic.Proofs.Serial.Spelling
import Slapstic.Proofs.Serial.Record
import Slapstic.Proofs.Board.Window
import Slapstic.Proofs.Serial.Route
import Slapstic.Proofs.Board.Twins
