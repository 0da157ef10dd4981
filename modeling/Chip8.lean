import Chip8.Main
import Chip8.Proofs.Invariant
import Chip8.Proofs.Lifecycle
import Chip8.Proofs.Spelling
import Chip8.Proofs.Stimuli
import Chip8.Proofs.Calls
import Chip8.Proofs.KeyWait
import Chip8.Proofs.Agreement
import Chip8.Proofs.Viewing
import Chip8.Proofs.Interference
import Chip8.Proofs.Observation
import Chip8.Proofs.Strictness
import Chip8.Proofs.Cadence
import Chip8.Proofs.Randomness
import Chip8.Proofs.MemoryMap
import Chip8.Proofs.Fading
import Chip8.Proofs.Drawing
import Chip8.Proofs.Refusal
import Chip8.Proofs.Overlay
import Chip8.Proofs.Bindings
import Chip8.Proofs.ProgramImage
import Chip8.Proofs.RegisterDump
import Chip8.Proofs.Picture
import Chip8.Proofs.Pacing
