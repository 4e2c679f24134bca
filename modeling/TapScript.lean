import TapScript.CommandLine
import TapScript.Main
import TapScript.Scenario
import TapScript.Proofs.Contract
import TapScript.Proofs.Conduct
import TapScript.Proofs.RunConduct
import TapScript.Proofs.Isolation
import TapScript.Proofs.Phrase
import TapScript.Proofs.Program
import TapScript.Proofs.Extent
import TapScript.Proofs.LoopTest
import TapScript.Proofs.Structured
import TapScript.Proofs.Refinement
import TapScript.Proofs.Stop
import TapScript.Proofs.Spawn
import TapScript.Proofs.Grammar
import TapScript.Proofs.Scan
import TapScript.Proofs.Written
import TapScript.Proofs.ReadBack
import TapScript.Proofs.Nesting
import TapScript.Proofs.Separation
import TapScript.Proofs.Formula
import TapScript.Proofs.Calls
import TapScript.Proofs.Expansion
import TapScript.Proofs.Assigned
import TapScript.Proofs.Enclosed
import TapScript.Proofs.ExitFlag
import TapScript.Proofs.DirectCall
import TapScript.Proofs.Lock
import TapScript.Proofs.RunInterval
import TapScript.Proofs.Recognizers
import TapScript.Proofs.RunRecognizer
import TapScript.Proofs.Correspondence
import TapScript.Proofs.RunCorrespondence
import TapScript.Proofs.Transcript
import TapScript.Proofs.History
import TapScript.Proofs.CrashReport
import TapScript.Proofs.Accounts
import TapScript.Proofs.Atomicity
import TapScript.Proofs.Doubles
import TapScript.Proofs.Requests
import TapScript.Proofs.Coordinates
import TapScript.Proofs.Inquiry
import TapScript.Proofs.Substitution
import TapScript.Proofs.Injection
import TapScript.Proofs.Blocks
import TapScript.Proofs.Steps
import TapScript.Proofs.Waiting
import TapScript.Proofs.Termination
import TapScript.Proofs.Clauses
import TapScript.Proofs.Layout
import TapScript.Proofs.Idempotence
import TapScript.Proofs.Openers
import TapScript.Proofs.Matching
import TapScript.Proofs.Registration
import TapScript.Proofs.ChainStop
import TapScript.Proofs.ColorLiterals
import TapScript.Proofs.ColorText
import TapScript.Proofs.Picture
import TapScript.Proofs.Sleeping
import TapScript.Proofs.Polling
import TapScript.Proofs.Lexemes
import TapScript.Proofs.QuoteScanners
import TapScript.Proofs.ArgumentLists
import TapScript.Proofs.Filling
import TapScript.Proofs.Counters
import TapScript.Proofs.Sensing
