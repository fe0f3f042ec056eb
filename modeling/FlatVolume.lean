import FlatVolume.Host.Session
import FlatVolume.Main
import FlatVolume.Proofs.Archive.Run
import FlatVolume.Proofs.Chain.Courses
import FlatVolume.Proofs.Chain.Lengthening
import FlatVolume.Proofs.CommandLine.Processes
import FlatVolume.Proofs.Isolation.Clients
import FlatVolume.Proofs.Session.Atomic
import FlatVolume.Proofs.Session.Robust
import FlatVolume.Proofs.Storage.Canonical
import FlatVolume.Proofs.Storage.Recognition
import FlatVolume.Proofs.Volume.Chunks
import FlatVolume.Proofs.Volume.Formatted
import FlatVolume.Proofs.Volume.Freeing
import FlatVolume.Proofs.Volume.Naming
import FlatVolume.Proofs.Volume.Reading
import FlatVolume.Proofs.Volume.Rollback
import FlatVolume.Proofs.Volume.Undo
