import StateNest.CommandLine
import StateNest.Machine.Inspect
import StateNest.Machine.Scripted
import StateNest.Main
import StateNest.Machine.Checked
import StateNest.Machine.History
import StateNest.Proofs.Classification
import StateNest.Proofs.Transition
import StateNest.Proofs.Invariant
import StateNest.Proofs.Safety
import StateNest.Proofs.Account
import StateNest.Proofs.Matching
import StateNest.Proofs.Conservation
import StateNest.Proofs.Progress
import StateNest.Proofs.Candidate
import StateNest.Proofs.Decision
import StateNest.Proofs.Search
import StateNest.Proofs.Trails
import StateNest.Proofs.Siblings
import StateNest.Proofs.Blocked
import StateNest.Proofs.Restart
import StateNest.Proofs.Policies
import StateNest.Proofs.Building
import StateNest.Proofs.Trust
import StateNest.Proofs.Sessions
import StateNest.Proofs.Paths
import StateNest.Proofs.Transcript
import StateNest.Proofs.Ordering
import StateNest.Proofs.Reachability
import StateNest.Proofs.Renumbering
import StateNest.Proofs.Replays
import StateNest.Proofs.Enumeration
import StateNest.Proofs.Rounds
import StateNest.Proofs.Completion
import StateNest.Proofs.Rebranching
import StateNest.Proofs.Repetition
import StateNest.Proofs.Spelling
import StateNest.Proofs.Lines
import StateNest.Proofs.Listing
import StateNest.Proofs.Records
import StateNest.Proofs.Descriptions
import StateNest.Proofs.Locking
import StateNest.Proofs.Retyping
