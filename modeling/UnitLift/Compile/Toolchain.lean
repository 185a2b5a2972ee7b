namespace UnitLift

/-- A version in three parts. -/
structure Version where
  major : Int
  minor : Int
  patch : Int
deriving DecidableEq, Repr

def Version.packed (version : Version) : Int :=
  version.major * 10000 + version.minor * 100 + version.patch

/-- A compiler as found in the build environment; its binary is empty if there is none. -/
structure Toolchain where
  binary : String
  version : Version
  systemIncludeDir : Option String
deriving DecidableEq, Repr

end UnitLift
