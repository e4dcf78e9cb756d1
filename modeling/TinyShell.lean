import TinyShell.Main
import TinyShell.Proofs.Reading
import TinyShell.Proofs.Turn
import TinyShell.Proofs.Course
import TinyShell.Proofs.Descriptors
import TinyShell.Proofs.Script
import TinyShell.Proofs.Resolved
import TinyShell.Proofs.Tokens
import TinyShell.Proofs.Lookup
import TinyShell.Proofs.Executions
import TinyShell.Proofs.Failures
import TinyShell.Proofs.Limited
import TinyShell.Proofs.Cutoff
import TinyShell.Proofs.Vacancy
import TinyShell.Proofs.Effects
import TinyShell.Proofs.Started
import TinyShell.Proofs.OneLine
import TinyShell.Proofs.Diagnostics
import TinyShell.Proofs.Rewording
import TinyShell.Proofs.Endings
import TinyShell.Proofs.Journal
import TinyShell.Proofs.Encoded
import TinyShell.Proofs.Sources
import TinyShell.Proofs.Blocks
import TinyShell.Proofs.Echo
import TinyShell.Proofs.Retries
import TinyShell.Proofs.Ancestry
import TinyShell.Proofs.NewDirectory
import TinyShell.Proofs.Decoded
import TinyShell.Proofs.Offered
import TinyShell.Proofs.Capacity
import TinyShell.Proofs.Pieces
import TinyShell.Proofs.Recall
import TinyShell.Proofs.SoundTrees
import TinyShell.Proofs.Upkeep
