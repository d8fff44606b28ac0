/-!
# Vocabulary

The words that the classifiers look for, in six lists.  They are data: a user can replace any of
the lists, and the lists that are not replaced keep their built-in words.
-/

namespace ArchAudit

/-- What a list of words is about, in the order in which the lists are written. -/
inductive WordList where
  | aarch64Processors
  | otherProcessors
  | libraries
  | buildOptions
  | neoverseCores
  | ampereOneCores
deriving DecidableEq, Repr

namespace WordList

/-- All lists in their written order. -/
def all : List WordList :=
  [aarch64Processors, otherProcessors, libraries, buildOptions, neoverseCores, ampereOneCores]

/-- The name of a list in a vocabulary file. -/
def key : WordList → String
  | aarch64Processors => "aarch64_archs"
  | otherProcessors => "other_archs"
  | libraries => "arch_specific_libs"
  | buildOptions => "x86_specific_opts"
  | neoverseCores => "neoverse_cores"
  | ampereOneCores => "ampereone_cores"

/-- The list with a given name. -/
def ofKey? (key : String) : Option WordList :=
  all.find? fun list => list.key == key

theorem mem_all (list : WordList) : list ∈ all := by
  cases list <;> decide

end WordList

/-- The words for every classifier. -/
structure Vocabulary where
  /-- Processor names that mark a branch for AArch64. -/
  aarch64Processors : List String
  /-- Processor names of other architectures. -/
  otherProcessors : List String
  /-- Libraries tied to another architecture. -/
  libraries : List String
  /-- Names of the `-m` options that exist for x86 only. -/
  buildOptions : List String
  /-- Names of Neoverse cores. -/
  neoverseCores : List String
  /-- Names of AmpereOne cores. -/
  ampereOneCores : List String
deriving DecidableEq, Repr

namespace Vocabulary

/-- The words of one list. -/
def words (vocabulary : Vocabulary) : WordList → List String
  | .aarch64Processors => vocabulary.aarch64Processors
  | .otherProcessors => vocabulary.otherProcessors
  | .libraries => vocabulary.libraries
  | .buildOptions => vocabulary.buildOptions
  | .neoverseCores => vocabulary.neoverseCores
  | .ampereOneCores => vocabulary.ampereOneCores

/-- The vocabulary with the given words in each list. -/
def ofLists (words : WordList → List String) : Vocabulary :=
  ⟨words .aarch64Processors, words .otherProcessors, words .libraries, words .buildOptions,
    words .neoverseCores, words .ampereOneCores⟩

/-- Replaces the words of one list. -/
def replace
    (vocabulary : Vocabulary)
    (list : WordList)
    (words : List String) :
    Vocabulary :=
  ofLists fun other => if other = list then words else vocabulary.words other

@[simp]
theorem words_ofLists (words : WordList → List String) (list : WordList) :
    (ofLists words).words list = words list := by
  cases list <;> rfl

@[simp]
theorem ofLists_words (vocabulary : Vocabulary) :
    ofLists vocabulary.words = vocabulary := rfl

/-- The built-in words. -/
def default : Vocabulary where
  aarch64Processors := ["aarch64", "AARCH64", "arm64", "ARM64", "arm", "ARM"]
  otherProcessors :=
    ["x86_64", "X86_64", "x86", "X86", "amd64", "AMD64", "i386", "i486", "i586", "i686",
     "ia64", "IA64", "ppc64le", "ppc64", "ppc", "powerpc", "PowerPC", "mips", "MIPS",
     "sparc", "SPARC", "s390x", "s390", "alpha", "loongarch64", "riscv64"]
  libraries :=
    ["mkl", "MKL", "ipp", "IPP", "svml", "SVML", "otherarch", "OTHERARCH", "daal", "DAAL"]
  buildOptions :=
    ["mmx", "sse", "sse2", "sse3", "ssse3", "sse4", "sse4a", "sse4.1", "sse4.2", "avx",
     "avx2", "avx512f", "avx512cd", "avx512bw", "avx512dq", "avx512vl", "fma", "fma4",
     "f16c", "bmi", "bmi2", "lzcnt", "popcnt", "pclmul", "aes", "xop", "3dnow"]
  neoverseCores :=
    ["neoverse-n1", "neoverse-n2", "neoverse-v1", "neoverse-v2", "neoverse-e1",
     "neoverse-512tvb"]
  ampereOneCores := ["ampere1", "ampere1a", "ampere1b"]

instance : Inhabited Vocabulary :=
  ⟨default⟩

end Vocabulary

end ArchAudit
