import CommandGate.Text.Quoted
import CommandGate.Result.Json
import CommandGate.Api.Routes
import CommandGate.Json.Writer
import CommandGate.Gate
import CommandGate.Plugin.Schema
import CommandGate.Mail.Sender
import CommandGate.Lights
import CommandGate.Oracle.Client
import CommandGate.Bundled
import CommandGate.Config.Layers
import CommandGate.Main
import CommandGate.Proofs.CommandNodes
import CommandGate.Proofs.PolicyCheck
import CommandGate.Proofs.AsciiLowering
import CommandGate.Proofs.WrittenTexts
import CommandGate.Proofs.DispatchTrace
import CommandGate.Proofs.Mediation
import CommandGate.Proofs.DeniedContent
import CommandGate.Proofs.CommandReading
import CommandGate.Proofs.HeldCalls
import CommandGate.Proofs.MemberOrder
import CommandGate.Proofs.RegistrationCheck
import CommandGate.Proofs.RegistryOwners
import CommandGate.Proofs.RegistryHistory
import CommandGate.Proofs.NumberReading
import CommandGate.Proofs.StringReading
import CommandGate.Proofs.ValueReading
import CommandGate.Proofs.ExtractedText
import CommandGate.Proofs.OracleReplies
import CommandGate.Proofs.LeafPaths
import CommandGate.Proofs.ChainExecution
import CommandGate.Proofs.CommandRoundTrip
import CommandGate.Proofs.LoweringInPlace
import CommandGate.Proofs.ScannedText
import CommandGate.Proofs.Advertised
import CommandGate.Proofs.MailParameters
import CommandGate.Proofs.MailHistory
import CommandGate.Proofs.CleanMails
import CommandGate.Proofs.BodyReading
import CommandGate.Proofs.MailConfiguration
import CommandGate.Proofs.BundledGate
import CommandGate.Proofs.Capabilities
import CommandGate.Proofs.ResultRoundTrip
import CommandGate.Proofs.CommandAnswers
import CommandGate.Proofs.PromptText
import CommandGate.Proofs.CommandGrammar
import CommandGate.Proofs.OracleAnswers
import CommandGate.Proofs.LayeredTrees
import CommandGate.Proofs.OrderedSources
import CommandGate.Proofs.TreeKinds
import CommandGate.Proofs.TreeDecoding
import CommandGate.Proofs.LayeredSettings
import CommandGate.Proofs.OracleRetries
import CommandGate.Proofs.PluginLoading
import CommandGate.Proofs.DecimalReading
import CommandGate.Proofs.ParameterCheck
import CommandGate.Proofs.CoercedIntegers
import CommandGate.Proofs.CrashedHandlers
import CommandGate.Proofs.PathNames
import CommandGate.Proofs.TextFiles
import CommandGate.Proofs.BlankReplies
import CommandGate.Proofs.RegistrationFaults
