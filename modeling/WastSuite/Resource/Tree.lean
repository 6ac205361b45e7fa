import WastSuite.Resource.Error

/-!
# Resource trees

What discovery needs of a root is two kinds of answers: which files lie directly in it, and what a
file below it holds. A `ResourceTree` is these answers, wherever they come from.
-/

set_option autoImplicit false

namespace WastSuite

/-- The answers about one root: the names of the files directly in it, in increasing order, and the
contents of the file at a path relative to it, or nothing if there is none. -/
structure ResourceTree where
  childFiles : Except DiscoveryError (List String)
  read : String → Except DiscoveryError (Option ByteArray)

end WastSuite
