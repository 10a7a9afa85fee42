import Chip8.Device.Rigged
import Chip8.Folder
import Chip8.Main
import Chip8.Proofs.Atomicity
import Chip8.Proofs.Bars
import Chip8.Proofs.BatchRuns
import Chip8.Proofs.BoundedRuns
import Chip8.Proofs.Decimals
import Chip8.Proofs.Drawings
import Chip8.Proofs.Dumps
import Chip8.Proofs.HeldKeys
import Chip8.Proofs.Index
import Chip8.Proofs.Leaving
import Chip8.Proofs.Levels
import Chip8.Proofs.Loading
import Chip8.Proofs.Meters
import Chip8.Proofs.Operations
import Chip8.Proofs.Outputs
import Chip8.Proofs.Parts
import Chip8.Proofs.Pictures
import Chip8.Proofs.ProgramCounter
import Chip8.Proofs.Recordings
import Chip8.Proofs.References
import Chip8.Proofs.Refusals
import Chip8.Proofs.Retry
import Chip8.Proofs.RunOrder
import Chip8.Proofs.Sprites
import Chip8.Proofs.StackLists
import Chip8.Proofs.Subroutines
import Chip8.Proofs.Timers
import Chip8.Proofs.Traces
import Chip8.Proofs.Transcript
