import RequestScribe.Shape.Go
import RequestScribe.Shape.Infer
import RequestScribe.Shape.Rust
import RequestScribe.Shape.TypeScript

/-!
# Type declarations in a statically typed language

A type set is written as blocks separated by blank lines: an alias for the root
unless the root is itself a declared object, then every declaration.
-/

namespace RequestScribe

/-- The languages in which types can be declared. -/
inductive Dialect where
  | typeScript
  | go
  | rust
  deriving DecidableEq, Repr

/-- One top-level block. -/
inductive TypeBlock where
  | alias (name : String) (shape : Shape)
  | record (declaration : Declaration)
  deriving DecidableEq, Repr

def TypeBlock.name : TypeBlock → String
  | .alias name _ => name
  | .record d => d.name

def TypeBlock.code (dialect : Dialect) (indent : String) : TypeBlock → Code
  | .alias name s =>
      match dialect with
      | .typeScript => TypeScript.typeAlias name s
      | .go => Go.typeAlias name s
      | .rust => Rust.typeAlias name s
  | .record d =>
      match dialect with
      | .typeScript => TypeScript.declaration indent d
      | .go => Go.declaration indent d
      | .rust => Rust.declaration indent d

namespace TypeSet

def blocks (set : TypeSet) : List TypeBlock :=
  let records := set.declarations.map TypeBlock.record
  if set.root = .ref set.name then records else .alias set.name set.root :: records

def writeBlocks (dialect : Dialect) (indent : String) (blocks : List TypeBlock) : Code :=
  Code.intercalate "\n\n" (blocks.map (TypeBlock.code dialect indent))

def text (dialect : Dialect) (indent : String) (set : TypeSet) : String :=
  (writeBlocks dialect indent set.blocks).text

end TypeSet

end RequestScribe
