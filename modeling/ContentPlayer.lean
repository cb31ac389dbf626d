import ContentPlayer.Main
import ContentPlayer.Simulation.Run
import ContentPlayer.Asset.Write
import ContentPlayer.Files.Table
import ContentPlayer.Json.Print
import ContentPlayer.Proofs.Asset.Decoding
import ContentPlayer.Proofs.Bootstrap.Cancellation
import ContentPlayer.Proofs.Bootstrap.Once
import ContentPlayer.Proofs.Bootstrap.Scripted
import ContentPlayer.Proofs.Bootstrap.Sequential
import ContentPlayer.Proofs.Config.Saving
import ContentPlayer.Proofs.Player.RootScene
import ContentPlayer.Proofs.Display.Moves
import ContentPlayer.Proofs.Session.Delivery
import ContentPlayer.Proofs.Player.Registration
import ContentPlayer.Proofs.Player.Slots
import ContentPlayer.Proofs.Domain.Order
import ContentPlayer.Proofs.Domain.Registration
import ContentPlayer.Proofs.Domain.Withdrawal
import ContentPlayer.Proofs.Domain.Resolution
import ContentPlayer.Proofs.Domain.Prompt
import ContentPlayer.Proofs.Domain.Numbers
import ContentPlayer.Proofs.Session.Dispatchers
import ContentPlayer.Proofs.Session.Playheads
import ContentPlayer.Proofs.Session.Refusal
import ContentPlayer.Proofs.Bootstrap.Sharing
import ContentPlayer.Proofs.Cancel.Reach
import ContentPlayer.Proofs.Bootstrap.Timing
import ContentPlayer.Proofs.CommandLine.Success
import ContentPlayer.Proofs.Player.Order
import ContentPlayer.Proofs.Display.Constructing
import ContentPlayer.Proofs.Display.Ticking
import ContentPlayer.Proofs.Session.Instances
import ContentPlayer.Proofs.Config.Loading
import ContentPlayer.Proofs.Display.Descent
import ContentPlayer.Proofs.Domain.Catalog
import ContentPlayer.Proofs.Script.Tracing
