import NetConsole.Config.Saving
import NetConsole.Main
import NetConsole.Proofs.Console.Mirror
import NetConsole.Proofs.Store.Growth
import NetConsole.Proofs.Store.Upsert
import NetConsole.Proofs.Store.Equality
import NetConsole.Proofs.Console.Commit
import NetConsole.Proofs.Url.Joining
import NetConsole.Proofs.Client.Scope
import NetConsole.Proofs.Client.Origin
import NetConsole.Proofs.Client.Account
import NetConsole.Proofs.Store.Numbering
import NetConsole.Proofs.Records.Conservation
import NetConsole.Client.Shared
import NetConsole.Proofs.Client.Sharing
import NetConsole.Proofs.Client.LateAnswers
import NetConsole.Proofs.Arguments.Words
import NetConsole.Proofs.Client.Harmless
import NetConsole.Proofs.Console.Confirmation
import NetConsole.Proofs.Config.Reloading
import NetConsole.Proofs.Store.Arrivals
import NetConsole.Proofs.Console.Masking
import NetConsole.Proofs.Console.Presentation
import NetConsole.Proofs.Console.Secrecy
import NetConsole.Proofs.Json.Unambiguous
import NetConsole.Proofs.Client.Pages
import NetConsole.Proofs.Client.Update
import NetConsole.Proofs.Client.Bodies
import NetConsole.Proofs.Client.Namesakes
import NetConsole.Proofs.Client.Refusals
import NetConsole.Proofs.Client.Verdicts
import NetConsole.Proofs.Client.PlainPaths
import NetConsole.Proofs.Store.Refusals
import NetConsole.Proofs.Console.Cleaning
import NetConsole.Proofs.Client.Visits
import NetConsole.Proofs.Console.Raw
import NetConsole.Proofs.Console.Precedence
import NetConsole.Proofs.Console.ExitStatus
import NetConsole.Proofs.Console.Lines
import NetConsole.Proofs.Config.Fitting
import NetConsole.Proofs.Client.CookieHeader
import NetConsole.Proofs.Console.Times
