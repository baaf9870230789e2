import CallChains.Json.Overlay
import CallChains.Json.Reader
import CallChains.Json.Shown
import CallChains.Graph.Exploration
import CallChains.Queue.Request
import CallChains.Route.CallPath
import CallChains.Target.Matcher
import CallChains.Main
import CallChains.Tool
import CallChains.Workspace.FileTree
import CallChains.Graph.Root
import CallChains.Text.Blank
import CallChains.Text.Printable
import CallChains.Text.LowerCase
import CallChains.Proofs.Number.Order
import CallChains.Proofs.Queue.Contents
import CallChains.Proofs.Queue.HeapOrder
import CallChains.Proofs.Queue.LeastFirst
import CallChains.Proofs.Graph.Walk
import CallChains.Proofs.Route.Numbering
import CallChains.Proofs.Route.Unwinding
import CallChains.Proofs.Route.Accepted
import CallChains.Proofs.Route.Settling
import CallChains.Proofs.Route.ShortestPaths
import CallChains.Proofs.Route.CallPath
import CallChains.Proofs.Graph.Exploration
import CallChains.Proofs.Graph.Reachability
import CallChains.Proofs.Analysis.OneTarget
import CallChains.Proofs.Analysis.AllTargets
import CallChains.Proofs.Analysis.RootOnPaths
import CallChains.Proofs.Analysis.Limits
import CallChains.Proofs.Analysis.SameCalls
import CallChains.Proofs.FrontEnd.Shortest
import CallChains.Proofs.Queue.KeyMap
import CallChains.Proofs.Queue.Refusal
import CallChains.Proofs.Queue.Writes
import CallChains.Proofs.Queue.Intact
import CallChains.Proofs.Route.Certified
import CallChains.Proofs.Route.Outcome
import CallChains.Proofs.Route.Unlimited
import CallChains.Proofs.FrontEnd.Paths
import CallChains.Proofs.Fallible
import CallChains.Proofs.Json.ObjectText
import CallChains.Proofs.Graph.Mentions
import CallChains.Proofs.Graph.Callers
import CallChains.Proofs.Graph.Copies
import CallChains.Proofs.Graph.RepeatedCallers
import CallChains.Proofs.Graph.Budgets
import CallChains.Proofs.Graph.AddedRoot
import CallChains.Proofs.Route.Visits
import CallChains.Proofs.Document.RoundTrip
import CallChains.Proofs.Document.Reading
import CallChains.Proofs.Analysis.Discovery
import CallChains.Proofs.FrontEnd.Targets
import CallChains.Proofs.Text.Strip
import CallChains.Proofs.Target.Ancestry
import CallChains.Proofs.Target.Spelling
import CallChains.Proofs.Target.Definitions
import CallChains.Proofs.Target.Matching
import CallChains.Proofs.Graph.Additions
import CallChains.Proofs.Json.Members
import CallChains.Proofs.Json.Overlay
import CallChains.Proofs.Json.Reading
import CallChains.Proofs.Settings.Overrides
import CallChains.Proofs.Route.Moments
import CallChains.Proofs.Route.SettlingOrder
