import MarkTape.Error
import MarkTape.Source.Lexer
import MarkTape.Value
import MarkTape.Main
import MarkTape.Proofs.Effect
import MarkTape.Proofs.Outcome
import MarkTape.Proofs.ArrayTape
import MarkTape.Proofs.Counting
import MarkTape.Proofs.Grammar
import MarkTape.Proofs.Sequence
import MarkTape.Proofs.Undo
import MarkTape.Proofs.Offence
import MarkTape.Proofs.Slices
import MarkTape.Proofs.Trail
import MarkTape.Proofs.Failures
import MarkTape.Proofs.Files
import MarkTape.Proofs.Arguments
import MarkTape.Proofs.Delivery
import MarkTape.Proofs.Frame
import MarkTape.Proofs.Log
import MarkTape.Proofs.SharedLog
import MarkTape.Proofs.Escapes
import MarkTape.Proofs.Joined
import MarkTape.Proofs.Blanking
import MarkTape.Proofs.Symbols
import MarkTape.Proofs.Rendering
import MarkTape.Proofs.Caret
import MarkTape.Proofs.Sameness
import MarkTape.Proofs.FromNumbers
