/-!
# Fresh names

A name that is not taken: the wished one if it is free, else the first of its
numbered variants that is.  The numbers start at two, and as many variants are
tried as names are taken.
-/

namespace RequestScribe

namespace Fresh

def variants (numbered : Nat → String) (count : Nat) : List String :=
  (List.range count).map fun i => numbered (i + 2)

/-- The wished name, or its first numbered variant that is not taken. -/
def name (taken : List String) (wished : String) (numbered : Nat → String) : String :=
  if taken.contains wished then
    ((variants numbered taken.length).find? fun candidate => !taken.contains candidate).getD wished
  else wished

/-- Variants with the number directly after the name. -/
def plain (wished : String) (n : Nat) : String :=
  wished ++ toString n

/-- Variants with an underscore before the number. -/
def underscored (wished : String) (n : Nat) : String :=
  wished ++ "_" ++ toString n

end Fresh

end RequestScribe
