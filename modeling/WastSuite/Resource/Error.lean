import WastSuite.Json.Fault
import WastSuite.Store.Resolve
import WastSuite.Zip.Entry

/-!
# Failures of discovery

A root may be spelled in a way that is not allowed or not be there, a file may not be readable, an
archive may be damaged, and a source may hold no text. Each of these is a cause of its own, with the
path that it concerns, and `DiscoveryError.message` gives the text.
-/

set_option autoImplicit false

namespace WastSuite

/-- Why the contents of a file could not be had: the store refused the path, a file that was listed
is no longer there, the packed data are no deflate stream or end too early, or the data do not have
their checksum. -/
inductive ReadFault where
  | refused (fault : StoreFault)
  | vanished
  | corruptStream
  | truncatedStream
  | wrongChecksum
  deriving DecidableEq

/-- The words for a fault. -/
def ReadFault.message : ReadFault → String
  | .refused fault => fault.message
  | .vanished => "entity not found"
  | .corruptStream => "corrupt deflate stream"
  | .truncatedStream => "unexpected end of file"
  | .wrongChecksum => "Invalid checksum"

/-- Why tests could not be discovered. A root ends with a slash, or there is no such root below the
base; a file or directory cannot be read; an archive or an entry of it is refused; a file does not
hold UTF-8; an entry declares a size for which no buffer can be had; or a text is no allow-list. -/
inductive DiscoveryError where
  | invalidRoot (root : String)
  | rootNotFound (root base : String)
  | io (path : String) (fault : ReadFault)
  | archive (path : String) (fault : Zip.Fault)
  | notText (path : String)
  | oversized (path : String)
  | allowList (error : Json.Error)
  deriving DecidableEq

/-- The text of a failure. -/
def DiscoveryError.message : DiscoveryError → String
  | .invalidRoot root => s!"resource root {Text.quoted root} must not end with '/'"
  | .rootNotFound root base => s!"resource root {Text.quoted root} not found in {base}"
  | .io path fault => s!"I/O error reading {path}: {fault.message}"
  | .archive path fault => s!"archive error reading {path}: {fault.message}"
  | .notText path => s!"{path} is not valid UTF-8"
  | .oversized path => s!"no buffer for the declared size of {path}"
  | .allowList error => s!"invalid allow-list: {error.message}"

/-- The failure to read an entry at a path. -/
def DiscoveryError.ofEntry (path : String) : Zip.EntryFault → DiscoveryError
  | .refused fault => .archive path fault
  | .oversized => .oversized path
  | .corruptStream => .io path .corruptStream
  | .truncatedStream => .io path .truncatedStream
  | .wrongChecksum => .io path .wrongChecksum

end WastSuite
