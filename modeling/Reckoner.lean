import Reckoner.CommandLine.Run
import Reckoner.Main
import Reckoner.Record.Descriptor
import Reckoner.Proofs.Failing
import Reckoner.Proofs.Postfix
import Reckoner.Proofs.Reductions
import Reckoner.Proofs.Spelling
import Reckoner.Proofs.Grammar
import Reckoner.Proofs.Reading
import Reckoner.Proofs.Brackets
import Reckoner.Proofs.Faults
import Reckoner.Proofs.Sentence
import Reckoner.Proofs.Splitting
import Reckoner.Proofs.Numerals
import Reckoner.Proofs.Reals
import Reckoner.Proofs.Powers
import Reckoner.Proofs.Spacing
import Reckoner.Proofs.Running
import Reckoner.Proofs.Balance
import Reckoner.Proofs.Bracketing
import Reckoner.Proofs.Crashes
import Reckoner.Proofs.Encoding
import Reckoner.Proofs.Files
import Reckoner.Proofs.Names
import Reckoner.Proofs.Writing
import Reckoner.Proofs.Lines
import Reckoner.Proofs.Numbering
import Reckoner.Proofs.Archives
import Reckoner.Proofs.Characters
import Reckoner.Proofs.Messages
import Reckoner.Proofs.ReadingBack
import Reckoner.Proofs.Status
import Reckoner.Proofs.Modes
import Reckoner.Proofs.Conservation
import Reckoner.Proofs.Losses
import Reckoner.Proofs.Layers
import Reckoner.Proofs.ResultNames
import Reckoner.Proofs.Refusals
import Reckoner.Proofs.Validation
import Reckoner.Proofs.OptionWords
import Reckoner.Proofs.Unpacking
import Reckoner.Proofs.Options
