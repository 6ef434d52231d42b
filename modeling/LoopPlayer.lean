import LoopPlayer.Main
import LoopPlayer.Page.Visit
import LoopPlayer.Player.Scenario
import LoopPlayer.Server
import LoopPlayer.Timers.Scenario
import LoopPlayer.Proofs.Position
import LoopPlayer.Proofs.Booking
import LoopPlayer.Proofs.OneTick
import LoopPlayer.Proofs.Failure
import LoopPlayer.Proofs.Nesting
import LoopPlayer.Proofs.Roster
import LoopPlayer.Proofs.Lifecycle
import LoopPlayer.Proofs.Discipline
import LoopPlayer.Proofs.Blocks
import LoopPlayer.Proofs.ClaimedBlocks
import LoopPlayer.Proofs.Registrations
import LoopPlayer.Proofs.Superseded
import LoopPlayer.Proofs.Onlookers
import LoopPlayer.Proofs.Anew
import LoopPlayer.Proofs.Timing
import LoopPlayer.Proofs.Accounts
import LoopPlayer.Proofs.DueOrder
import LoopPlayer.Proofs.Console
import LoopPlayer.Proofs.Completion
import LoopPlayer.Proofs.SourceOrder
import LoopPlayer.Proofs.Conservation
import LoopPlayer.Proofs.Answers
import LoopPlayer.Proofs.RewoundStep
import LoopPlayer.Proofs.Seam
import LoopPlayer.Proofs.Ownership
import LoopPlayer.Proofs.LastPicture
import LoopPlayer.Proofs.Subscriptions
import LoopPlayer.Proofs.Layout
import LoopPlayer.Proofs.Calls
import LoopPlayer.Proofs.Literals
import LoopPlayer.Proofs.Echoes
import LoopPlayer.Proofs.Shapes
import LoopPlayer.Proofs.Blanks
import LoopPlayer.Proofs.Arguments
import LoopPlayer.Proofs.Insertion
import LoopPlayer.Proofs.Moved
import LoopPlayer.Proofs.Effort
import LoopPlayer.Proofs.Comments
import LoopPlayer.Proofs.Jumps
import LoopPlayer.Proofs.Lexemes
import LoopPlayer.Proofs.ColumnCalls
import LoopPlayer.Proofs.Origins
import LoopPlayer.Proofs.Enclosing
import LoopPlayer.Proofs.Guarded
import LoopPlayer.Proofs.Scenarios
