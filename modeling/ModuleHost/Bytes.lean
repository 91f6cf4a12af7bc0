/-!
# Module bytes

* `Bytes` — a run of bytes;
* `ModuleBytes` — the bytes of a module as they cross to the execution context, shared or owned;
* `ModuleBytes.caption` — how they are shown.
-/

namespace ModuleHost

/-- A run of bytes. -/
abbrev Bytes := List UInt8

/-- The bytes of a module. Shared bytes cross by reference and owned bytes are moved; the far side
sees the same bytes either way. -/
structure ModuleBytes where
  shared : Bool
  bytes : Bytes
  deriving DecidableEq, Repr

namespace ModuleBytes

/-- Bytes that are moved. -/
def owned (bytes : Bytes) : ModuleBytes := ⟨false, bytes⟩

/-- The number of bytes. -/
def size (m : ModuleBytes) : Nat := m.bytes.length

def isEmpty (m : ModuleBytes) : Bool := m.bytes.isEmpty

/-- The name of the kind. -/
def kind (m : ModuleBytes) : String := if m.shared then "Shared" else "Owned"

/-- How the bytes are shown: by their kind and number. -/
def caption (m : ModuleBytes) : String := s!"ModuleBytes::{m.kind}({m.size} bytes)"

end ModuleBytes

end ModuleHost
