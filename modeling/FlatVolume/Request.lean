/-
**Requests to a mounted volume.**

A request is one operation with its arguments, and a reply holds its result. `Mounted.serve`
carries out a single request. Clients that share a volume have their requests served one after
another, each of them whole.
-/

import FlatVolume.Volume.Operations
import FlatVolume.Volume.Report

namespace FlatVolume

/-- One operation on a mounted volume with its arguments. -/
inductive Request where
  | sync
  | info
  | layout
  | list
  | check
  | chain (name : String)
  | create (name : String)
  | delete (name : String)
  | openFile (name : String)
  | close (descriptor : Nat)
  | fileSize (descriptor : Nat)
  | seek (descriptor offset : Nat)
  | write (descriptor : Nat) (data : Bytes)
  | read (descriptor length : Nat)
deriving DecidableEq

/-- The result of a request. -/
inductive Reply where
  | done
  | info (info : VolumeInfo)
  | layout (layout : SuperBlock)
  | files (files : List FileInfo)
  | blocks (blocks : List BlockId)
  | descriptor (descriptor : Nat)
  /-- A number of bytes: the size of a file, or how many were written. -/
  | count (bytes : Nat)
  | data (data : Bytes)
deriving DecidableEq

namespace Mounted

variable {D : Type} [BlockDevice D]

/-- Carries out one request. -/
def serve : Request → EStateM VolumeError (Mounted D) Reply
  | .sync => do
    sync
    return .done
  | .info => return .info (← get).volume.info
  | .layout => return .layout (← get).volume.layout
  | .list => return .files (← get).volume.list
  | .check => do
    settle (← get).volume.check
    return .done
  | .chain name => return .blocks (← settle ((← get).volume.chain name))
  | .create name => do
    onVolume (Volume.create name)
    return .done
  | .delete name => do
    onVolume (Volume.delete name)
    return .done
  | .openFile name => return .descriptor (← onVolume (Volume.openFile name))
  | .close descriptor => do
    onVolume (Volume.close descriptor)
    return .done
  | .fileSize descriptor => return .count (← settle ((← get).volume.fileSize descriptor))
  | .seek descriptor offset => do
    onVolume (Volume.seek descriptor offset)
    return .done
  | .write descriptor data => return .count (← write descriptor data)
  | .read descriptor length => return .data (← read descriptor length)

end Mounted

end FlatVolume
