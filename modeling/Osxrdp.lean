import Osxrdp.FramePipeline
import Osxrdp.Runs
import Osxrdp.Letterbox
import Osxrdp.FrameConvergence
import Osxrdp.Input
import Osxrdp.PointerGeometry
import Osxrdp.DecimalText
import Osxrdp.DisplayMode
import Osxrdp.Watch
import Osxrdp.Restorability
import Osxrdp.CrashRecovery
import Osxrdp.Display
import Osxrdp.DisplaySteps
import Osxrdp.DesktopAgreement
import Osxrdp.ResizeCount
import Osxrdp.CaptureSafety
import Osxrdp.ConnectionIsolation
import Osxrdp.IdleServer
import Osxrdp.AuthenticationGate
import Osxrdp.Shutdown
import Osxrdp.Gfx
import Osxrdp.GfxRouting
import Osxrdp.KeyframeFirst
import Osxrdp.SurfaceNegotiation
import Osxrdp.GfxGrammar
import Osxrdp.CapabilityConfirmation
import Osxrdp.Clipboard
import Osxrdp.ClipboardEcho
import Osxrdp.PixelFormats
import Osxrdp.NativeDesktop
import Osxrdp.EncoderSession
import Osxrdp.ChangedPixels
import Osxrdp.LetterboxGeometry
import Osxrdp.NativeLayout
import Osxrdp.TargetBounds
import Osxrdp.StreamRecreation
import Osxrdp.EncodedSizes
import Osxrdp.GfxDecoding
import Osxrdp.ModeSelection
import Osxrdp.ModeOptimality
import Osxrdp.ModeRestoration
import Osxrdp.HeldModifiers
import Osxrdp.StuckModifiers
import Osxrdp.HelperText
import Osxrdp.AspectFit
import Osxrdp.LayoutEcho
import Osxrdp.LayoutWait
import Osxrdp.Framing
import Osxrdp.FastPath
import Osxrdp.UpdateFragments
import Osxrdp.SurfaceCommands
import Osxrdp.DisplayEncoder
import Osxrdp.Framebuffers
import Osxrdp.EncoderConvergence
import Osxrdp.SurfaceDelivery
import Osxrdp.FrameDelivery
import Osxrdp.Bitflags
import Osxrdp.InputEvents
import Osxrdp.FastPathEvents
import Osxrdp.Mcs
import Osxrdp.CodeUnits
import Osxrdp.Nego
import Osxrdp.InfoPacket
import Osxrdp.CredentialDelivery
import Osxrdp.ConnectionCompletion
import Osxrdp.ShareData
import Osxrdp.InputHandling
import Osxrdp.InputBacklog
import Osxrdp.GfxEncoding
import Osxrdp.GfxRoundTrip
import Osxrdp.GfxDelivery
