import RequestScribe.Code.Basic
import RequestScribe.Name.Fresh
import RequestScribe.Text.Basic

/-!
# Values in a program

A value of the request is either written into the program or read from an
environment variable, so that secrets stay out of the program.
-/

namespace RequestScribe

inductive Fragment where
  | literal (text : String)
  /-- `lead` followed by the value of an environment variable. -/
  | env (var : String) (lead : String)
  deriving DecidableEq, Repr

namespace Fragment

/-- The same value with a text in front. -/
def after (lead : String) : Fragment → Fragment
  | .literal text => .literal (lead ++ text)
  | .env var more => .env var (lead ++ more)

end Fragment

/-- How a language writes strings, looks up variables and joins the two. -/
structure FragmentSyntax where
  string : String → Code
  env : String → Code
  /-- A text in front of a variable's value. -/
  joined : String → String → Code

namespace FragmentSyntax

def code (s : FragmentSyntax) : Fragment → Code
  | .literal text => s.string text
  | .env var lead => if lead.isEmpty then s.env var else s.joined lead var

end FragmentSyntax

/-- Environment variables and the values they stand for, in order of extraction. -/
abbrev EnvVars := List (String × String)

/--
A secret behind `lead`: read from a variable with a name not used before, or
written out where secrets are not extracted.
-/
def EnvVars.secret (extract : Bool) (vars : EnvVars) (wished value lead : String) :
    Fragment × EnvVars :=
  if extract then
    let var := Fresh.name (vars.map Prod.fst) wished (Fresh.underscored wished)
    (.env var lead, vars ++ [(var, value)])
  else (.literal (lead ++ value), vars)

/-- The variable for a header: its letters and digits in upper case, all else as underscores. -/
def envName (header : String) : String :=
  String.ofList (header.toList.map fun c => if Chars.isAlphanumeric c then c.toUpper else '_')

end RequestScribe
