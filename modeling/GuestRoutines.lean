import GuestRoutines.Embedding.Scripted
import GuestRoutines.Guest.Samples
import GuestRoutines.Main
import GuestRoutines.Proofs.Call.Access
import GuestRoutines.Proofs.Call.Boundary
import GuestRoutines.Proofs.Call.Consumption
import GuestRoutines.Proofs.Call.Effects
import GuestRoutines.Proofs.Call.Recovery
import GuestRoutines.Proofs.Embedding.Confinement
import GuestRoutines.Proofs.Embedding.Counting
import GuestRoutines.Proofs.Embedding.Isolation
import GuestRoutines.Proofs.Embedding.Posture
import GuestRoutines.Proofs.Embedding.ResolvedCode
import GuestRoutines.Proofs.Embedding.RuntimeUse
import GuestRoutines.Proofs.Embedding.Startup
import GuestRoutines.Proofs.Embedding.Threshold
import GuestRoutines.Proofs.Embedding.TimeLimit
import GuestRoutines.Proofs.Level.Projection
import GuestRoutines.Proofs.Log.Filtering
import GuestRoutines.Proofs.Module.Interleaving
import GuestRoutines.Proofs.Settings.Flattening
import GuestRoutines.Proofs.Settings.Native
import GuestRoutines.Proofs.Settings.Notation
import GuestRoutines.Proofs.Settings.Numbers
import GuestRoutines.Proofs.Value.Words
import GuestRoutines.Proofs.Module.Compilation
