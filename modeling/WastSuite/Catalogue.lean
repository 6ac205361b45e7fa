/-!
# The catalogue of tests

What is decided per test short of running it: which source files are exercised when nothing else is
asked for, how many memory pages a test may use, which roots are searched, and how files and
directories are named. Main statement: no file is listed twice (`knownGood_nodup`).
-/

set_option autoImplicit false

namespace WastSuite.Catalogue

/-- The roots that are searched by default, curated tests before the core specification tests. -/
def localRoot : String := "/local-spec"

/-- The root of the core specification tests. -/
def coreRoot : String := "/spec/test/core"

/-- The default roots, in the order in which they are searched. -/
def defaultRoots : List String := [localRoot, coreRoot]

/-- How the name of a test source ends. -/
def sourceExtension : String := ".wast"

/-- The directory below a root that holds the expected outputs. -/
def oracleDirectory : String := "expected-output"

/-- The name of the expected output of a source file, relative to its root. -/
def oraclePath (fileName : String) : String :=
  oracleDirectory ++ "/" ++ fileName ++ ".log"

/-- How the name of a test ends whose script as a whole must fail. -/
def failEnding : String := ".fail"

/-- The path of an expected output, written out. -/
theorem oraclePath_eq (fileName : String) :
    oraclePath fileName = "expected-output/" ++ fileName ++ ".log" := by
  have hdirectory : oracleDirectory ++ "/" = "expected-output/" := by decide
  rw [oraclePath, hdirectory]

/-- How the name of a source file ends whose script as a whole must fail, written out. -/
theorem failEnding_append : failEnding ++ sourceExtension = ".fail.wast" := by decide

/-- The memory pages of a test without an exception. -/
def defaultPages : Nat := 1

/-- The tests that may use another number of memory pages. -/
def pageExceptions : List (String × Nat) := [("nop", 20), ("resizing", 830)]

/-- The memory pages that the named test may use. -/
def maxPages (test : String) : Nat :=
  (pageExceptions.lookup test).getD defaultPages

/-- The source files that are known to pass, by file name. -/
def knownGood : List String :=
  ["address.wast", "address-offset-range.fail.wast", "binary.wast", "block.wast",
    "block-end-label-mismatch.fail.wast", "block-end-label-superfluous.wast", "br.wast",
    "br_if.wast", "break-drop.wast", "call.wast", "call_indirect.wast", "comments.wast",
    "conversions.wast", "custom_section.wast", "endianness.wast", "exports.wast",
    "f32.load32.fail.wast", "f32.load64.fail.wast", "f32.store32.fail.wast",
    "f32.store64.fail.wast", "f32.wast", "f32_cmp.wast", "f64.load32.fail.wast",
    "f64.load64.fail.wast", "f64.store32.fail.wast", "f64.store64.fail.wast", "f64.wast",
    "f64_cmp.wast", "fac.wast", "float_exprs.wast", "float_literals.wast", "float_memory.wast",
    "float_misc.wast", "forward.wast", "func.wast", "func_ptrs.wast",
    "func-local-after-body.fail.wast", "func-local-before-param.fail.wast",
    "func-local-before-result.fail.wast", "func-param-after-body.fail.wast",
    "func-result-after-body.fail.wast", "func-result-before-param.fail.wast", "get_local.wast",
    "globals.wast", "i32.load32_s.fail.wast", "i32.load32_u.fail.wast", "i32.load64_s.fail.wast",
    "i32.load64_u.fail.wast", "i32.store32.fail.wast", "i32.store64.fail.wast", "i32.wast",
    "i64.load64_s.fail.wast", "i64.load64_u.fail.wast", "i64.store64.fail.wast", "i64.wast",
    "if.wast", "if-else-end-label-mismatch.fail.wast", "if-else-end-label-superfluous.fail.wast",
    "if-else-label-mismatch.fail.wast", "if-else-label-superfluous.fail.wast",
    "if-end-label-mismatch.fail.wast", "if-end-label-superfluous.fail.wast",
    "import-after-func.fail.wast", "import-after-global.fail.wast", "import-after-memory.fail.wast",
    "import-after-table.fail.wast", "int_exprs.wast", "int_literals.wast", "labels.wast",
    "load-align-0.fail.wast", "load-align-odd.fail.wast", "loop.wast",
    "loop-end-label-mismatch.fail.wast", "loop-end-label-superfluous.fail.wast", "memory.wast",
    "memory_redundancy.wast", "memory_trap.wast", "names.wast", "nop.wast",
    "of_string-overflow-hex-u32.fail.wast", "of_string-overflow-hex-u64.fail.wast",
    "of_string-overflow-s32.fail.wast", "of_string-overflow-s64.fail.wast",
    "of_string-overflow-u32.fail.wast", "of_string-overflow-u64.fail.wast", "resizing.wast",
    "select.wast", "set_local.wast", "skip-stack-guard-page.wast", "stack.wast", "start.wast",
    "store-align-0.fail.wast", "store-align-odd.fail.wast", "store_retval.wast", "tee_local.wast",
    "traps.wast", "unreached-invalid.wast", "unwind.wast"]

/-- No file is listed twice. -/
theorem knownGood_nodup : knownGood.Nodup := by decide +kernel

/-- Whether a file name is among those known to pass. -/
def isKnownGood (fileName : String) : Bool :=
  knownGood.contains fileName

end WastSuite.Catalogue
